import RuntimeStubs.Proofs.Archive.Catalogue

/-! Which snapshots are accepted.

`Snapshot.WellFormed` says of the bare tables what a snapshot has to be, with the runs as sets of
positions. The check computes with positions of 64 bits, and `Snapshot.Machine` does so step by
step: each addition, subtraction and access to the table of slots may lack a result there. Main
statement (`ofSnapshot_accepts`): no step ever lacks one, exactly the well-formed snapshots are
accepted, and all others are refused as corrupt. -/

set_option autoImplicit false

namespace RuntimeStubs

namespace Snapshot

/-- The tables leave a slot empty, or they give it a name and a run with a start and an end among
`total` addresses. -/
def Permits (total : Nat) (entry : Int32 × UInt32) (name : Option String) : Prop :=
  (entry = (-1, 0) ∧ name = none) ∨
    (name.isSome = true ∧ 0 ≤ entry.1.toInt ∧ 2 ≤ entry.2.toNat ∧
      entry.1.toInt + entry.2.toNat ≤ total)

def Covers (s : Snapshot) (slot position : Nat) : Prop :=
  ∃ entry, s.indexTable[slot]? = some entry ∧ entry ≠ (-1, 0) ∧
    entry.1.toInt ≤ position ∧ (position : Int) < entry.1.toInt + entry.2.toNat

structure WellFormed (s : Snapshot) : Prop where
  length_indexTable : s.indexTable.length = s.kind.stubCount
  length_names : s.names.length = s.kind.stubCount
  not_null : 0 ∉ s.addresses
  permitted : ∀ (slot : Nat) (entry : Int32 × UInt32) (name : Option String),
    s.indexTable[slot]? = some entry → s.names[slot]? = some name →
      Permits s.addresses.length entry name
  apart : ∀ first second position : Nat, s.Covers first position → s.Covers second position →
    first = second

/-! ### The tables and the slots that they stand for -/

def slotOf (pair : (Int32 × UInt32) × Option String) : Option Slot :=
  pair.2.map fun name => ⟨runOf pair.1, name⟩

theorem start_iff {entry : Int32 × UInt32} : 0 ≤ entry.1 ↔ 0 ≤ entry.1.toInt :=
  Int32.le_iff_toInt_le

theorem fits_runOf_iff {total : Nat} {entry : Int32 × UInt32} (start : 0 ≤ entry.1.toInt) :
    (runOf entry).Fits total ↔
      2 ≤ entry.2.toNat ∧ entry.1.toInt + entry.2.toNat ≤ total := by
  simp only [Run.Fits, Run.bound, runOf]
  omega

theorem inside_runOf_iff {entry : Int32 × UInt32} {position : Nat} (start : 0 ≤ entry.1.toInt) :
    (runOf entry).first ≤ position ∧ position < (runOf entry).bound ↔
      entry.1.toInt ≤ position ∧ (position : Int) < entry.1.toInt + entry.2.toNat := by
  simp only [Run.bound, runOf]
  omega

theorem reads_iff {total : Nat} {pair : (Int32 × UInt32) × Option String} {slot : Option Slot} :
    Reads total pair slot ↔ Permits total pair.1 pair.2 ∧ slot = slotOf pair := by
  constructor
  · intro reads
    cases reads with
    | unset => exact ⟨.inl ⟨rfl, rfl⟩, rfl⟩
    | filled start fits =>
      have start := start_iff.mp start
      exact ⟨.inr ⟨rfl, start, (fits_runOf_iff start).mp fits⟩, rfl⟩
  · obtain ⟨entry, name⟩ := pair
    rintro ⟨⟨isUnset, unnamed⟩ | ⟨named, start, fits⟩, rfl⟩
    · cases isUnset
      cases unnamed
      exact .unset
    · obtain ⟨name, rfl⟩ := Option.isSome_iff_exists.mp named
      exact .filled (start_iff.mpr start) ((fits_runOf_iff start).mpr fits)

theorem forall₂_reads_iff {total : Nat} {pairs : List ((Int32 × UInt32) × Option String)}
    {slots : List (Option Slot)} :
    List.Forall₂ (Reads total) pairs slots ↔
      (∀ pair ∈ pairs, Permits total pair.1 pair.2) ∧ slots = pairs.map slotOf := by
  induction pairs generalizing slots with
  | nil => simp
  | cons pair rest ih =>
    simp only [List.forall₂_cons_left_iff, reads_iff, ih, List.forall_mem_cons, List.map_cons]
    constructor
    · rintro ⟨first, others, ⟨permitted, rfl⟩, ⟨permittedRest, rfl⟩, rfl⟩
      exact ⟨⟨permitted, permittedRest⟩, rfl⟩
    · rintro ⟨⟨permitted, permittedRest⟩, rfl⟩
      exact ⟨_, _, ⟨permitted, rfl⟩, ⟨permittedRest, rfl⟩, rfl⟩

theorem permitted_iff {s : Snapshot} {total : Nat} :
    (∀ pair ∈ s.indexTable.zip s.names, Permits total pair.1 pair.2) ↔
      ∀ (slot : Nat) (entry : Int32 × UInt32) (name : Option String),
        s.indexTable[slot]? = some entry → s.names[slot]? = some name →
          Permits total entry name := by
  simp only [List.mem_iff_getElem?, List.getElem?_zip_eq_some]
  constructor
  · intro permitted slot entry name atEntry atName
    exact permitted (entry, name) ⟨slot, atEntry, atName⟩
  · rintro permitted pair ⟨slot, atEntry, atName⟩
    exact permitted slot pair.1 pair.2 atEntry atName

section

variable {s : Snapshot} {total : Nat}

def readOff (s : Snapshot) : List (Option Slot) := (s.indexTable.zip s.names).map slotOf

-- A position that is covered lies in the run of a filled slot: an entry that is set cannot stand
-- for an empty one.
theorem covers_iff (lengths : s.indexTable.length = s.names.length)
    (permitted : ∀ pair ∈ s.indexTable.zip s.names, Permits total pair.1 pair.2)
    {index position : Nat} :
    s.Covers index position ↔ ∃ slot, s.readOff[index]? = some (some slot) ∧
      slot.run.first ≤ position ∧ position < slot.run.bound := by
  simp only [readOff, List.getElem?_map, Option.map_eq_some_iff]
  constructor
  · rintro ⟨entry, atEntry, isSet, covered⟩
    obtain ⟨inside, -⟩ := List.getElem?_eq_some_iff.mp atEntry
    have atName := List.getElem?_eq_getElem (lengths ▸ inside)
    generalize s.names[index] = name at atName
    have atPair : (s.indexTable.zip s.names)[index]? = some (entry, name) :=
      List.getElem?_zip_eq_some.mpr ⟨atEntry, atName⟩
    rcases permitted _ (List.mem_of_getElem? atPair) with ⟨isUnset, -⟩ | ⟨named, start, -⟩
    · exact absurd isUnset isSet
    · obtain ⟨name, rfl⟩ := Option.isSome_iff_exists.mp named
      exact ⟨_, ⟨_, atPair, rfl⟩, (inside_runOf_iff start).mpr covered⟩
  · rintro ⟨slot, ⟨⟨entry, name⟩, atPair, isSlot⟩, covered⟩
    obtain ⟨name, rfl, rfl⟩ := Option.map_eq_some_iff.mp isSlot
    obtain ⟨atEntry, -⟩ := List.getElem?_zip_eq_some.mp atPair
    rcases permitted _ (List.mem_of_getElem? atPair) with ⟨-, unnamed⟩ | ⟨-, start, -⟩
    · cases unnamed
    · exact ⟨entry, atEntry, ne_unset (start_iff.mpr start), (inside_runOf_iff start).mp covered⟩

-- Runs with a start and an end are not empty, so those that share no position lie one behind the
-- other.
theorem runsApart_iff {slots : List (Option Slot)}
    (nonempty : ∀ slot, some slot ∈ slots → 2 ≤ slot.run.count) :
    RunsApart slots ↔ ∀ first second position : Nat,
      (∃ slot, slots[first]? = some (some slot) ∧
        slot.run.first ≤ position ∧ position < slot.run.bound) →
      (∃ slot, slots[second]? = some (some slot) ∧
        slot.run.first ≤ position ∧ position < slot.run.bound) → first = second := by
  constructor
  · rintro apart first second position ⟨s, atFirst, after, before⟩ ⟨t, atSecond, after', before'⟩
    by_contra differ
    rcases apart differ atFirst atSecond with behind | behind <;> omega
  · intro alone i j s t differ atFirst atSecond
    have countFirst := nonempty s (List.mem_of_getElem? atFirst)
    have countSecond := nonempty t (List.mem_of_getElem? atSecond)
    by_contra overlap
    simp only [Run.Apart, Run.bound, not_or] at overlap
    refine differ (alone i j (max s.run.first t.run.first) ⟨s, atFirst, ?_⟩ ⟨t, atSecond, ?_⟩) <;>
      · simp only [Run.bound]
        omega

theorem describes_iff {slots : List (Option Slot)} :
    s.Describes slots ↔ s.WellFormed ∧ slots = s.readOff := by
  constructor
  · intro valid
    obtain ⟨permitted, rfl⟩ := forall₂_reads_iff.mp valid.reads
    have lengths := valid.length_indexTable.trans valid.length_names.symm
    refine ⟨⟨valid.length_indexTable, valid.length_names, ?_, permitted_iff.mp permitted, ?_⟩, rfl⟩
    · intro null
      exact valid.not_null 0 null rfl
    · simp only [covers_iff lengths permitted]
      exact (runsApart_iff fun slot member => (fits_of_reads valid.reads member).1).mp valid.apart
  · rintro ⟨formed, rfl⟩
    have lengths := formed.length_indexTable.trans formed.length_names.symm
    have permitted := permitted_iff.mpr formed.permitted
    have reads := forall₂_reads_iff.mpr ⟨permitted, rfl⟩
    refine ⟨formed.length_indexTable, formed.length_names, ?_, reads, ?_⟩
    · rintro raw member rfl
      exact formed.not_null member
    · have apart := formed.apart
      simp only [covers_iff lengths permitted] at apart
      have nonempty slot (member : some slot ∈ s.readOff) := (fits_of_reads reads member).1
      rw [runsApart_iff nonempty]
      exact apart

theorem check_isOk_iff : (∃ slots, s.check = .ok slots) ↔ s.WellFormed := by
  simp only [check_eq_ok_iff, describes_iff, exists_eq_right]

end

/-! ### The arithmetic of positions -/

namespace Machine

def add (a b : Nat) : Except Abort Nat :=
  if a + b < UInt64.size then .ok (a + b) else .error .addition

def sub (a b : Nat) : Except Abort Nat :=
  if b ≤ a then .ok (a - b) else .error .subtraction

def slot (total index : Nat) (entry : Int32 × UInt32) (name : Option String) :
    Except Abort (Except Corruption (Option Slot)) :=
  if entry = unset then
    if name.isSome then .ok (.error (.namedUnsetSlot index)) else .ok (.ok none)
  else
    match name with
    | none => .ok (.error (.unnamedSlot index))
    | some name =>
      if entry.1 < 0 ∨ entry.2 < 2 then .ok (.error (.invalidRun index entry.1 entry.2))
      else do
        let bound ← add (runOf entry).first (runOf entry).count
        if total < bound then .ok (.error (.runPastEnd index))
        else .ok (.ok (some ⟨runOf entry, name⟩))

def fill (total : Nat) : Nat → List (Option Slot) → List ((Int32 × UInt32) × Option String) →
    Except Abort (Except Corruption (List (Option Slot)))
  | _, table, [] => .ok (.ok table)
  | index, table, (entry, name) :: rest => do
    match ← slot total index entry name with
    | .error reason => .ok (.error reason)
    | .ok none => fill total (index + 1) table rest
    | .ok (some filled) =>
      if index < table.length then fill total (index + 1) (table.set index (some filled)) rest
      else .error .outOfBounds

def overlap? : List (Run × Nat) → Except Abort (Option Nat)
  | previous :: next :: rest => do
    let bound ← add previous.1.first previous.1.count
    let last ← sub bound 1
    if next.1.first ≤ last then .ok (some next.2) else overlap? (next :: rest)
  | _ => .ok none

def check (s : Snapshot) : Except Abort (Except Corruption (List (Option Slot))) :=
  if s.indexTable.length ≠ s.kind.stubCount then
    .ok (.error (.indexTableSize s.indexTable.length s.kind.stubCount))
  else if s.names.length ≠ s.kind.stubCount then
    .ok (.error (.nameTableSize s.names.length s.kind.stubCount))
  else
    match s.addresses.findIdx? (· == 0) with
    | some index => .ok (.error (.nullAddress index))
    | none => do
      let empty := List.replicate s.kind.stubCount none
      match ← fill s.addresses.length 0 empty (s.indexTable.zip s.names) with
      | .error reason => .ok (.error reason)
      | .ok slots =>
        match ← overlap? (runsInOrder slots) with
        | some index => .ok (.error (.overlappingRun index))
        | none => .ok (.ok slots)

theorem bound_lt (entry : Int32 × UInt32) : (runOf entry).bound < UInt64.size := by
  have first := entry.1.toInt_lt
  have count := entry.2.toNat_lt
  simp only [runOf, Run.bound, UInt64.size]
  omega

theorem slot_eq (total index : Nat) (entry : Int32 × UInt32) (name : Option String) :
    slot total index entry name = .ok (Snapshot.slot total index entry name) := by
  have sum : add (runOf entry).first (runOf entry).count = .ok (runOf entry).bound :=
    if_pos (bound_lt entry)
  unfold slot Snapshot.slot
  split
  · split <;> rfl
  · cases name with
    | none => rfl
    | some name =>
      dsimp only
      split
      · rfl
      · rw [sum]
        exact (apply_ite Except.ok ..).symm

-- The induction is on the entries that are left. The slots read so far stand in front, and behind
-- them the table has room for as many slots as there are entries.
theorem fill_eq {total : Nat} {pairs : List ((Int32 × UInt32) × Option String)} {index room : Nat}
    {done : List (Option Slot)} (length : done.length = index) (enough : pairs.length ≤ room) :
    fill total index (done ++ List.replicate room none) pairs =
      .ok ((slots total index pairs).map fun read =>
        done ++ read ++ List.replicate (room - pairs.length) none) := by
  induction pairs generalizing index room done with
  | nil => simp [fill, slots, Except.map]
  | cons pair rest ih =>
    obtain ⟨entry, name⟩ := pair
    obtain ⟨room, rfl⟩ : ∃ less, room = less + 1 := ⟨room - 1, by simp at enough; omega⟩
    have enough : rest.length ≤ room := by simpa using enough
    have next (read : Option Slot) : (done ++ [read]).length = index + 1 := by simp [length]
    have skipped : done ++ List.replicate (room + 1) none =
        done ++ [none] ++ List.replicate room none := by
      simp [List.replicate_succ]
    have written (slot : Slot) : (done ++ List.replicate (room + 1) none).set index (some slot) =
        done ++ [some slot] ++ List.replicate room none := by
      simp [← length, List.replicate_succ]
    have inside : index < (done ++ List.replicate (room + 1) none).length := by simp [length]
    rw [fill, slot_eq, slots]
    simp only [bind, Except.bind]
    cases Snapshot.slot total index entry name with
    | error reason => rfl
    | ok first =>
      cases first with
      | none =>
        dsimp only
        rw [skipped, ih (next none) enough]
        cases slots total (index + 1) rest <;> simp [Except.map]
      | some slot =>
        dsimp only
        rw [if_pos inside, written, ih (next (some slot)) enough]
        cases slots total (index + 1) rest <;> simp [Except.map]

theorem fill_replicate (total : Nat) (pairs : List ((Int32 × UInt32) × Option String)) :
    fill total 0 (List.replicate pairs.length none) pairs = .ok (slots total 0 pairs) := by
  have filled : fill total 0 ([] ++ List.replicate pairs.length none) pairs = _ :=
    fill_eq rfl (Nat.le_refl pairs.length)
  simp only [List.nil_append, Nat.sub_self, List.replicate_zero, List.append_nil] at filled
  rw [filled]
  cases slots total 0 pairs <;> rfl

theorem overlap?_eq {l : List (Run × Nat)}
    (fits : ∀ a ∈ l, 2 ≤ a.1.count ∧ a.1.bound < UInt64.size) :
    overlap? l = .ok (Snapshot.overlap? l) := by
  induction l with
  | nil => rfl
  | cons first rest ih =>
    cases rest with
    | nil => rfl
    | cons second rest =>
      obtain ⟨⟨count, bound⟩, fitsRest⟩ := List.forall_mem_cons.mp fits
      have sum : add first.1.first first.1.count = .ok first.1.bound := if_pos bound
      have difference : sub first.1.bound 1 = .ok first.1.last := if_pos (by rw [Run.bound]; omega)
      rw [overlap?, sum, Snapshot.overlap?]
      simp only [bind, Except.bind]
      rw [difference]
      dsimp only
      rw [ih fitsRest]
      exact (apply_ite Except.ok ..).symm

-- Nothing is read into the table but the entries of the index table, so its runs end below the sum
-- of the largest start and the largest length.
theorem fits_runsInOrder {total : Nat} {pairs : List ((Int32 × UInt32) × Option String)}
    {slots : List (Option Slot)} (reads : List.Forall₂ (Reads total) pairs slots) :
    ∀ a ∈ runsInOrder slots, 2 ≤ a.1.count ∧ a.1.bound < UInt64.size := by
  obtain ⟨-, rfl⟩ := forall₂_reads_iff.mp reads
  intro a member
  obtain ⟨⟨slot, index⟩, inside, isRun⟩ :=
    List.mem_filterMap.mp ((runsInOrder_perm _).mem_iff.mp member)
  obtain ⟨slot, rfl, rfl⟩ := Option.map_eq_some_iff.mp isRun
  have isSlot := List.fst_mem_of_mem_zipIdx inside
  refine ⟨(fits_of_reads reads isSlot).1, ?_⟩
  obtain ⟨pair, -, isRead⟩ := List.mem_map.mp isSlot
  obtain ⟨name, -, rfl⟩ := Option.map_eq_some_iff.mp isRead
  exact bound_lt pair.1

theorem check_eq (s : Snapshot) : check s = .ok s.check := by
  unfold check Snapshot.check
  split
  · rfl
  next lengthTable =>
  split
  · rfl
  next lengthNames =>
  have length : s.kind.stubCount = (s.indexTable.zip s.names).length := by
    rw [List.length_zip, not_not.mp lengthTable, not_not.mp lengthNames, Nat.min_self]
  cases s.addresses.findIdx? (· == 0) with
  | some index => rfl
  | none =>
    simp only [bind, Except.bind, length, fill_replicate]
    cases read : slots s.addresses.length 0 (s.indexTable.zip s.names) with
    | error reason => rfl
    | ok slots =>
      have compared := overlap?_eq (fits_runsInOrder (slots_eq_ok_iff.mp read))
      simp only [compared]
      cases Snapshot.overlap? (runsInOrder slots) <;> rfl

end Machine

end Snapshot

namespace Archive

/-- Reads an archive back in the arithmetic of the machine. -/
def ofSnapshotInWords (s : Snapshot) : Except Fault Archive :=
  match Snapshot.Machine.check s with
  | .error cause => .error (.abort cause)
  | .ok (.error reason) => .error (.corruptArchive s.kind reason)
  | .ok (.ok slots) => .ok ⟨s.kind, slots, s.addresses.map Address.mk, none⟩

theorem ofSnapshotInWords_eq (s : Snapshot) : ofSnapshotInWords s = ofSnapshot s := by
  rw [ofSnapshotInWords, Snapshot.Machine.check_eq, ofSnapshot]
  cases s.check <;> rfl

theorem ofSnapshot_cases (s : Snapshot) :
    (s.WellFormed ∧ ∃ a, ofSnapshot s = .ok a) ∨
      ¬ s.WellFormed ∧ ∃ reason, ofSnapshot s = .error (.corruptArchive s.kind reason) := by
  rw [← Snapshot.check_isOk_iff, ofSnapshot]
  cases s.check with
  | ok slots => exact .inl ⟨⟨slots, rfl⟩, _, rfl⟩
  | error reason =>
    refine .inr ⟨?_, reason, rfl⟩
    rintro ⟨slots, impossible⟩
    cases impossible

/-- Exactly the well-formed snapshots are accepted. All others are corrupt, and reading never comes
to a step of machine arithmetic without a result. -/
theorem ofSnapshot_accepts (s : Snapshot) :
    ofSnapshotInWords s = ofSnapshot s ∧
      (∀ cause, ofSnapshot s ≠ .error (.abort cause)) ∧
      ((∃ a, ofSnapshot s = .ok a) ↔ s.WellFormed) ∧
      (¬ s.WellFormed → ∃ reason, ofSnapshot s = .error (.corruptArchive s.kind reason)) := by
  refine ⟨ofSnapshotInWords_eq s, ?_⟩
  rcases ofSnapshot_cases s with ⟨formed, a, accepted⟩ | ⟨illFormed, reason, refused⟩
  · rw [accepted]
    refine ⟨fun _ => nofun, ⟨fun _ => formed, fun _ => ⟨a, rfl⟩⟩, ?_⟩
    intro illFormed
    exact absurd formed illFormed
  · rw [refused]
    refine ⟨fun _ => nofun, ⟨?_, fun formed => absurd formed illFormed⟩, fun _ => ⟨reason, rfl⟩⟩
    rintro ⟨a, impossible⟩
    cases impossible

def enclosing : Snapshot :=
  ⟨.continuation, [(1, 2), (-1, 0), (0, 4)], [16, 20, 24, 32],
    [some "Thaw", none, some "ReturnBarrierException"]⟩

theorem ofSnapshot_accepts_disjoint :
    sparse.WellFormed ∧ ¬ enclosing.WellFormed ∧
      (∃ reason, ofSnapshot enclosing = .error (.corruptArchive .continuation reason)) ∧
      ofSnapshotInWords enclosing =
        .error (.corruptArchive .continuation (.overlappingRun 0)) := by
  have illFormed : ¬ enclosing.WellFormed := by
    intro formed
    have inner : enclosing.Covers 0 1 := ⟨(1, 2), rfl, by decide, by decide, by decide⟩
    have outer : enclosing.Covers 2 1 := ⟨(0, 4), rfl, by decide, by decide, by decide⟩
    exact absurd (formed.apart 0 2 1 inner outer) (by decide)
  have accepted : ofSnapshot sparse = .ok sparseArchive := by rfl
  have formed : sparse.WellFormed := (ofSnapshot_accepts sparse).2.2.1.mp ⟨_, accepted⟩
  obtain ⟨words, -, -, refused⟩ := ofSnapshot_accepts enclosing
  exact ⟨formed, illFormed, refused illFormed, words ▸ rfl⟩

end Archive

end RuntimeStubs
