import Mathlib.Data.List.Forall2
import RuntimeStubs.Archive.Snapshot
import RuntimeStubs.Proofs.Archive.Invariant

/-! What the check of a snapshot accepts.

`Snapshot.Reads` says which slot the entries of the two tables stand for, without reference to the
order in which the check proceeds. Main statement: a snapshot passes exactly when both tables fit
the phase, no address is null, every pair of entries stands for a slot, and the runs of different
slots are apart (`check_eq_ok_iff`). The check compares only neighbours after sorting; sorted runs
that are apart from their neighbours are apart from all. -/

set_option autoImplicit false

namespace RuntimeStubs

namespace Snapshot

def runOf (entry : Int32 × UInt32) : Run := ⟨entry.1.toInt.toNat, entry.2.toNat⟩

/-- The slot that an entry of the index table and one of the name table stand for in an archive of
`total` addresses. -/
inductive Reads (total : Nat) : (Int32 × UInt32) × Option String → Option Slot → Prop where
  | unset : Reads total (unset, none) none
  | filled {entry : Int32 × UInt32} {name : String} : 0 ≤ entry.1 → (runOf entry).Fits total →
      Reads total (entry, some name) (some ⟨runOf entry, name⟩)

theorem ne_unset {entry : Int32 × UInt32} (start : 0 ≤ entry.1) : entry ≠ unset := by
  intro same
  rw [same] at start
  exact absurd start (by decide)

theorem two_le_count {entry : Int32 × UInt32} : ¬ entry.2 < 2 ↔ 2 ≤ (runOf entry).count := by
  rw [UInt32.not_lt, UInt32.le_iff_toNat_le]
  exact Iff.rfl

theorem slot_eq_ok_iff {total index : Nat} {entry : Int32 × UInt32} {name : Option String}
    {result : Option Slot} :
    slot total index entry name = .ok result ↔ Reads total (entry, name) result := by
  constructor
  · intro read
    unfold slot at read
    split at read
    · next isUnset =>
      cases name with
      | some name => simp at read
      | none =>
        subst isUnset
        cases read
        exact .unset
    · cases name with
      | none => cases read
      | some name =>
        dsimp only at read
        split at read
        · cases read
        · next valid =>
          split at read
          · cases read
          · next inside =>
            cases read
            rw [not_or, Int32.not_lt, two_le_count] at valid
            exact .filled valid.1 ⟨valid.2, Nat.not_lt.mp inside⟩
  · intro reads
    cases reads with
    | unset => rfl
    | filled start fits =>
      have valid : ¬ (entry.1 < 0 ∨ entry.2 < 2) :=
        not_or.mpr ⟨Int32.not_lt.mpr start, two_le_count.mpr fits.1⟩
      have inside : ¬ total < entry.1.toInt.toNat + entry.2.toNat := Nat.not_lt.mpr fits.2
      simp only [slot, if_neg (ne_unset start), if_neg valid, if_neg inside, runOf]

theorem slots_eq_ok_iff {total : Nat} {pairs : List ((Int32 × UInt32) × Option String)}
    {index : Nat} {result : List (Option Slot)} :
    slots total index pairs = .ok result ↔ List.Forall₂ (Reads total) pairs result := by
  induction pairs generalizing index result with
  | nil =>
    rw [slots, Except.ok.injEq, List.forall₂_nil_left_iff]
    exact eq_comm
  | cons pair rest ih =>
    obtain ⟨entry, name⟩ := pair
    rw [List.forall₂_cons_left_iff]
    simp only [slots]
    constructor
    · intro read
      split at read
      · cases read
      · next first readFirst =>
        split at read
        · cases read
        · next others readRest =>
          cases read
          exact ⟨first, others, slot_eq_ok_iff.mp readFirst, ih.mp readRest, rfl⟩
    · rintro ⟨first, others, readsFirst, readsRest, rfl⟩
      rw [slot_eq_ok_iff.mpr readsFirst]
      dsimp only
      rw [ih.mpr readsRest]

/-! ### Overlaps -/

def RunsApart (slots : List (Option Slot)) : Prop :=
  ∀ {i j : Nat} {s t : Slot}, i ≠ j → slots[i]? = some (some s) → slots[j]? = some (some t) →
    s.run.Apart t.run

def runs (slots : List (Option Slot)) : List (Run × Nat) :=
  slots.zipIdx.filterMap fun (slot, index) => slot.map fun slot => (slot.run, index)

-- The list of runs leaves out the empty slots, so its positions are not the slot numbers. Both
-- sides speak about pairs of filled slots in the order of their numbers.
theorem pairwise_runs_iff {slots : List (Option Slot)} :
    (runs slots).Pairwise (fun a b => a.1.Apart b.1) ↔ RunsApart slots := by
  rw [runs, List.pairwise_filterMap, List.pairwise_iff_getElem]
  constructor
  · intro apart i j s t differ first second
    obtain ⟨insideFirst, first⟩ := List.getElem?_eq_some_iff.mp first
    obtain ⟨insideSecond, second⟩ := List.getElem?_eq_some_iff.mp second
    rcases Nat.lt_or_gt_of_ne differ with before | after
    · exact apart i j (by simpa using insideFirst) (by simpa using insideSecond) before
        (s.run, i) (by simp [first]) (t.run, j) (by simp [second])
    · exact (apart j i (by simpa using insideSecond) (by simpa using insideFirst) after
        (t.run, j) (by simp [second]) (s.run, i) (by simp [first])).symm
  · intro apart i j insideFirst insideSecond before first isFirst second isSecond
    simp only [List.getElem_zipIdx, Nat.zero_add, Option.map_eq_some_iff] at isFirst isSecond
    obtain ⟨s, atFirst, rfl⟩ := isFirst
    obtain ⟨t, atSecond, rfl⟩ := isSecond
    rw [List.length_zipIdx] at insideFirst insideSecond
    exact apart (Nat.ne_of_lt before) (List.getElem?_eq_some_iff.mpr ⟨insideFirst, atFirst⟩)
      (List.getElem?_eq_some_iff.mpr ⟨insideSecond, atSecond⟩)

-- In order of their starts, runs that are apart lie one behind the other.
theorem apart_iff_of_le {first second : Run} (nonempty : 2 ≤ second.count)
    (sorted : first.first ≤ second.first) :
    first.Apart second ↔ first.bound ≤ second.first := by
  constructor
  · rintro (before | after)
    · exact before
    · have : second.bound = second.first + second.count := rfl
      omega
  · exact Or.inl

theorem overlap?_cons_cons {first second : Run × Nat} {rest : List (Run × Nat)}
    (nonempty : 2 ≤ first.1.count) :
    overlap? (first :: second :: rest) = none ↔
      first.1.bound ≤ second.1.first ∧ overlap? (second :: rest) = none := by
  have neighbours : second.1.first ≤ first.1.last ↔ ¬ first.1.bound ≤ second.1.first := by
    rw [Run.last, Run.bound]
    omega
  by_cases before : first.1.bound ≤ second.1.first <;> simp [overlap?, neighbours, before]

-- Induction on the sorted list. A run that ends before its neighbour starts ends before all later
-- ones start, so that comparing neighbours is enough.
theorem overlap?_eq_none_iff {l : List (Run × Nat)} (nonempty : ∀ a ∈ l, 2 ≤ a.1.count)
    (sorted : l.Pairwise fun a b => a.1.first ≤ b.1.first) :
    overlap? l = none ↔ l.Pairwise fun a b => a.1.Apart b.1 := by
  induction l with
  | nil => simp [overlap?]
  | cons first rest ih =>
    have nonemptyFirst := nonempty first List.mem_cons_self
    have nonemptyRest : ∀ a ∈ rest, 2 ≤ a.1.count :=
      fun a member => nonempty a (List.mem_cons_of_mem first member)
    obtain ⟨below, sortedRest⟩ := List.pairwise_cons.mp sorted
    rw [List.pairwise_cons]
    cases rest with
    | nil => simp [overlap?]
    | cons second rest =>
      rw [overlap?_cons_cons nonemptyFirst, ih nonemptyRest sortedRest]
      refine and_congr_left fun apart => ?_
      constructor
      · -- Every later run starts no earlier than the neighbour does.
        intro before other member
        apply Or.inl
        rcases List.mem_cons.mp member with rfl | later
        · exact before
        · exact Nat.le_trans before ((List.pairwise_cons.mp sortedRest).1 other later)
      · intro apartFirst
        have here : second ∈ second :: rest := List.mem_cons_self
        exact (apart_iff_of_le (nonemptyRest second here) (below second here)).mp
          (apartFirst second here)

theorem runsInOrder_perm (slots : List (Option Slot)) : (runsInOrder slots).Perm (runs slots) :=
  Sorting.sort_perm ..

theorem sorted_runsInOrder (slots : List (Option Slot)) :
    (runsInOrder slots).Pairwise fun a b => a.1.first ≤ b.1.first := by
  have sorted : (runsInOrder slots).Pairwise fun a b => decide (a.1.first ≤ b.1.first) = true := by
    apply Sorting.pairwise_sort
    · intro a b above
      simp only [decide_eq_false_iff_not, decide_eq_true_eq] at *
      omega
    · intro a b c first second
      simp only [decide_eq_true_eq] at *
      omega
  exact sorted.imp of_decide_eq_true

theorem overlap?_runsInOrder {slots : List (Option Slot)}
    (nonempty : ∀ slot, some slot ∈ slots → 2 ≤ slot.run.count) :
    overlap? (runsInOrder slots) = none ↔ RunsApart slots := by
  have nonemptyRuns : ∀ a ∈ runsInOrder slots, 2 ≤ a.1.count := by
    intro a member
    obtain ⟨⟨slot, index⟩, inside, isRun⟩ :=
      List.mem_filterMap.mp ((runsInOrder_perm slots).mem_iff.mp member)
    obtain ⟨slot, rfl, rfl⟩ := Option.map_eq_some_iff.mp isRun
    exact nonempty slot (List.fst_mem_of_mem_zipIdx inside)
  rw [overlap?_eq_none_iff nonemptyRuns (sorted_runsInOrder slots),
    (runsInOrder_perm slots).pairwise_iff Run.Apart.symm, pairwise_runs_iff]

/-! ### The whole check -/

theorem Reads.fits {total : Nat} {pair : (Int32 × UInt32) × Option String} {slot : Slot}
    (reads : Reads total pair (some slot)) : slot.run.Fits total := by
  cases reads with
  | filled _ fits => exact fits

theorem fits_of_reads {total : Nat} {pairs : List ((Int32 × UInt32) × Option String)}
    {slots : List (Option Slot)} (reads : List.Forall₂ (Reads total) pairs slots) {slot : Slot}
    (member : some slot ∈ slots) : slot.run.Fits total := by
  induction reads with
  | nil => cases member
  | cons first _ ih =>
    rcases List.mem_cons.mp member with rfl | member
    · exact first.fits
    · exact ih member

structure Describes (s : Snapshot) (slots : List (Option Slot)) : Prop where
  length_indexTable : s.indexTable.length = s.kind.stubCount
  length_names : s.names.length = s.kind.stubCount
  not_null : ∀ raw ∈ s.addresses, raw ≠ 0
  reads : List.Forall₂ (Reads s.addresses.length) (s.indexTable.zip s.names) slots
  apart : RunsApart slots

theorem check_eq_ok_iff {s : Snapshot} {slots : List (Option Slot)} :
    s.check = .ok slots ↔ s.Describes slots := by
  constructor
  · intro checked
    unfold check at checked
    split at checked
    · cases checked
    · next sizeTable =>
      split at checked
      · cases checked
      · next sizeNames =>
        split at checked
        · cases checked
        · next noNull =>
          split at checked
          · cases checked
          · next read =>
            split at checked
            · cases checked
            · next noOverlap =>
              cases checked
              have reads := slots_eq_ok_iff.mp read
              refine ⟨not_not.mp sizeTable, not_not.mp sizeNames, ?_, reads, ?_⟩
              · intro raw member
                simpa using List.findIdx?_eq_none_iff.mp noNull raw member
              · exact (overlap?_runsInOrder fun slot member => (fits_of_reads reads member).1).mp
                  noOverlap
  · intro valid
    have noNull : s.addresses.findIdx? (· == 0) = none :=
      List.findIdx?_eq_none_iff.mpr fun raw member => by simpa using valid.not_null raw member
    have noOverlap : overlap? (runsInOrder slots) = none :=
      (overlap?_runsInOrder fun slot member => (fits_of_reads valid.reads member).1).mpr valid.apart
    rw [check, if_neg (not_not.mpr valid.length_indexTable),
      if_neg (not_not.mpr valid.length_names), noNull]
    dsimp only
    rw [slots_eq_ok_iff.mpr valid.reads]
    dsimp only
    rw [noOverlap]

theorem Describes.length_slots {s : Snapshot} {slots : List (Option Slot)}
    (valid : s.Describes slots) : slots.length = s.kind.stubCount := by
  rw [← valid.reads.length_eq, List.length_zip, valid.length_indexTable, valid.length_names,
    Nat.min_self]

theorem Describes.reads_at {s : Snapshot} {slots : List (Option Slot)} (valid : s.Describes slots)
    {index : Nat} {slot : Option Slot} (here : slots[index]? = some slot) :
    ∃ entry name, s.indexTable[index]? = some entry ∧ s.names[index]? = some name ∧
      Reads s.addresses.length (entry, name) slot := by
  obtain ⟨inside, here⟩ := List.getElem?_eq_some_iff.mp here
  have insidePairs := valid.reads.length_eq ▸ inside
  have read := (List.forall₂_iff_get.mp valid.reads).2 index insidePairs inside
  rw [List.get_eq_getElem, List.get_eq_getElem, here] at read
  obtain ⟨atEntry, atName⟩ :=
    List.getElem?_zip_eq_some.mp (List.getElem?_eq_getElem insidePairs)
  exact ⟨_, _, atEntry, atName, read⟩

end Snapshot

namespace Archive

theorem ofSnapshot_eq_ok_iff {s : Snapshot} {a : Archive} :
    ofSnapshot s = .ok a ↔ ∃ slots, s.Describes slots ∧
      a = ⟨s.kind, slots, s.addresses.map Address.mk, none⟩ := by
  rw [ofSnapshot]
  cases checked : s.check with
  | error reason =>
    constructor
    · intro impossible
      cases impossible
    · rintro ⟨slots, valid, -⟩
      rw [Snapshot.check_eq_ok_iff.mpr valid] at checked
      cases checked
  | ok slots =>
    constructor
    · intro restored
      cases restored
      exact ⟨slots, Snapshot.check_eq_ok_iff.mp checked, rfl⟩
    · rintro ⟨others, valid, rfl⟩
      rw [Snapshot.check_eq_ok_iff.mpr valid] at checked
      cases checked
      rfl

theorem slot?_eq_some_iff {a : Archive} {index : Nat} {slot : Slot} :
    a.slot? index = some slot ↔ a.slots[index]? = some (some slot) := by
  rw [slot?, Option.join_eq_some_iff]

theorem sound_ofSnapshot {s : Snapshot} {a : Archive} (restored : ofSnapshot s = .ok a) :
    a.Sound := by
  obtain ⟨slots, valid, rfl⟩ := ofSnapshot_eq_ok_iff.mp restored
  refine ⟨valid.length_slots, ?_, ?_, ?_, ?_⟩
  · intro index slot filled
    rw [List.length_map]
    exact Snapshot.fits_of_reads valid.reads
      (List.mem_of_getElem? (slot?_eq_some_iff.mp filled))
  · intro i j first second differ isFirst isSecond
    exact valid.apart differ (slot?_eq_some_iff.mp isFirst) (slot?_eq_some_iff.mp isSecond)
  · intro address member
    obtain ⟨raw, inside, rfl⟩ := List.mem_map.mp member
    exact beq_false_of_ne (valid.not_null raw inside)
  · intro stub selected
    cases selected

end Archive

end RuntimeStubs
