import Mathlib.Algebra.GroupWithZero.Nat
import Mathlib.Data.List.Nodup
import Mathlib.Data.List.Perm.Basic
import RuntimeStubs.Statistics

/-! What statistics add up to.

Counting descriptors one after the other sums their sizes and keeps the first of the largest ones.
It aborts exactly if the sum is no 64-bit number (`addAll_isOk_iff`), and otherwise every count is
one over the whole list (`addAll_sums`). `Describes` spells out what the numbers mean for the
descriptors of a registry (`collect_describes`). Unless two of the largest have different names, the
order in which descriptors are registered does not matter (`collect_eq_of_perm`). -/

set_option autoImplicit false

namespace RuntimeStubs.Statistics

def isRoutine (d : Descriptor) : Bool := decide (d.group = Session.routinesGroup)

/-- The largest descriptor on record after a list of them has been counted: the one before, or the
first of the largest in the list. -/
inductive Largest (s : Statistics) (ds : List Descriptor) (t : Statistics) : Prop where
  | before : t.largestSize = s.largestSize → t.largestName = s.largestName →
    (∀ d ∈ ds, d.size ≤ s.largestSize) → Largest s ds t
  | among (newer older : List Descriptor) (d : Descriptor) : ds = newer ++ d :: older →
    t.largestSize = d.size → t.largestName = d.name → s.largestSize < d.size →
    (∀ e ∈ newer, e.size < d.size) → (∀ e ∈ older, e.size ≤ d.size) → Largest s ds t

/-- What a list of descriptors adds to statistics. -/
structure Sums (s : Statistics) (ds : List Descriptor) (t : Statistics) : Prop where
  emitted : t.emitted = s.emitted + ds.countP isRoutine
  hydrated : t.hydrated = s.hydrated + ds.countP fun d => isRoutine d && d.hydrated
  total : t.totalSize = s.totalSize + (ds.map Descriptor.size).sum
  largest : Largest s ds t
  groups : t.groups = ds.foldl (fun groups d => countGroup d.group groups) s.groups

variable {s t u : Statistics} {d : Descriptor} {ds : List Descriptor}

theorem add_eq_ok_iff : s.add d = .ok t ↔ s.totalSize + d.size < UInt64.size ∧
    t = {
      emitted := if isRoutine d then s.emitted + 1 else s.emitted
      hydrated := if isRoutine d && d.hydrated then s.hydrated + 1 else s.hydrated
      totalSize := s.totalSize + d.size
      largestSize := if s.largestSize < d.size then d.size else s.largestSize
      largestName := if s.largestSize < d.size then d.name else s.largestName
      groups := countGroup d.group s.groups } := by
  simp only [add, isRoutine, Bool.and_eq_true, decide_eq_true_eq]
  split
  · next overflow => exact ⟨nofun, fun added => absurd added.1 (Nat.not_lt.mpr overflow)⟩
  · next fits => exact ⟨fun added => ⟨Nat.lt_of_not_le fits, (Except.ok.inj added).symm⟩,
      fun added => congrArg Except.ok added.2.symm⟩

theorem Largest.cons (added : s.add d = .ok t) (rest : Largest t ds u) :
    Largest s (d :: ds) u := by
  obtain ⟨-, rfl⟩ := add_eq_ok_iff.mp added
  by_cases larger : s.largestSize < d.size
  · cases rest with
    | before size name bound =>
      simp only [if_pos larger] at size name bound
      exact .among [] ds d rfl size name larger (List.forall_mem_nil _) bound
    | among newer older e split size name exceeds first last =>
      simp only [if_pos larger] at exceeds
      exact .among (d :: newer) older e (by rw [split, List.cons_append]) size name
        (Nat.lt_trans larger exceeds) (List.forall_mem_cons.mpr ⟨exceeds, first⟩) last
  · have bounded : d.size ≤ s.largestSize := Nat.le_of_not_lt larger
    cases rest with
    | before size name bound =>
      simp only [if_neg larger] at size name bound
      exact .before size name (List.forall_mem_cons.mpr ⟨bounded, bound⟩)
    | among newer older e split size name exceeds first last =>
      simp only [if_neg larger] at exceeds
      exact .among (d :: newer) older e (by rw [split, List.cons_append]) size name exceeds
        (List.forall_mem_cons.mpr ⟨Nat.lt_of_le_of_lt bounded exceeds, first⟩) last

theorem addAll_cons : s.addAll (d :: ds) = .ok u ↔
    ∃ t, s.add d = .ok t ∧ t.addAll ds = .ok u := by
  rw [addAll]
  cases s.add d <;> simp

theorem addAll_sums (added : s.addAll ds = .ok t) : Sums s ds t := by
  induction ds generalizing s with
  | nil =>
    cases added
    exact ⟨rfl, rfl, rfl, .before rfl rfl (List.forall_mem_nil _), rfl⟩
  | cons d ds ih =>
    obtain ⟨u, first, rest⟩ := addAll_cons.mp added
    have sums := ih rest
    have largest := sums.largest.cons first
    obtain ⟨-, rfl⟩ := add_eq_ok_iff.mp first
    refine ⟨?_, ?_, ?_, largest, sums.groups⟩
    · rw [sums.emitted, List.countP_cons]
      dsimp only
      split <;> omega
    · rw [sums.hydrated, List.countP_cons]
      dsimp only
      split <;> omega
    · rw [sums.total, List.map_cons, List.sum_cons, Nat.add_assoc]

theorem addAll_isOk_iff (fits : s.totalSize < UInt64.size) :
    (∃ t, s.addAll ds = .ok t) ↔ s.totalSize + (ds.map Descriptor.size).sum < UInt64.size := by
  induction ds generalizing s with
  | nil => simpa [addAll] using fits
  | cons d ds ih =>
    rw [List.map_cons, List.sum_cons, ← Nat.add_assoc]
    constructor
    · rintro ⟨t, added⟩
      obtain ⟨u, first, rest⟩ := addAll_cons.mp added
      obtain ⟨below, rfl⟩ := add_eq_ok_iff.mp first
      exact (ih below).mp ⟨t, rest⟩
    · intro below
      obtain ⟨u, first⟩ : ∃ u, s.add d = .ok u :=
        ⟨_, add_eq_ok_iff.mpr ⟨Nat.lt_of_le_of_lt (Nat.le_add_right ..) below, rfl⟩⟩
      have total : u.totalSize = s.totalSize + d.size := by
        obtain ⟨-, rfl⟩ := add_eq_ok_iff.mp first
        rfl
      rw [← total] at below
      obtain ⟨t, rest⟩ := (ih (Nat.lt_of_le_of_lt (Nat.le_add_right ..) below)).mpr below
      exact ⟨t, addAll_cons.mpr ⟨u, first, rest⟩⟩

/-! ### Groups -/

section

variable {groups : List (String × Nat)} {group : String}

theorem mem_keys_countGroup {name : String} :
    name ∈ (countGroup group groups).map Prod.fst ↔ name = group ∨ name ∈ groups.map Prod.fst := by
  induction groups with
  | nil => simp [countGroup]
  | cons first rest ih =>
    obtain ⟨other, count⟩ := first
    rw [countGroup]
    split
    · next same => simp [same]
    · rw [List.map_cons, List.mem_cons, ih, List.map_cons, List.mem_cons]
      exact or_left_comm

theorem nodup_keys_countGroup (nodup : (groups.map Prod.fst).Nodup) :
    ((countGroup group groups).map Prod.fst).Nodup := by
  induction groups with
  | nil => exact List.nodup_singleton group
  | cons first rest ih =>
    obtain ⟨other, count⟩ := first
    rw [countGroup]
    split
    · exact nodup
    · next differ =>
      obtain ⟨isNew, nodupRest⟩ := List.nodup_cons.mp nodup
      refine List.nodup_cons.mpr ⟨fun listed => ?_, ih nodupRest⟩
      rcases mem_keys_countGroup.mp listed with same | older
      · exact differ same
      · exact isNew older

theorem sum_countGroup :
    ((countGroup group groups).map Prod.snd).sum = (groups.map Prod.snd).sum + 1 := by
  induction groups with
  | nil => rfl
  | cons first rest ih =>
    obtain ⟨other, count⟩ := first
    rw [countGroup]
    split
    · simp only [List.map_cons, List.sum_cons]
      omega
    · simp only [List.map_cons, List.sum_cons, ih]
      omega

theorem mem_countGroup (nodup : (groups.map Prod.fst).Nodup) {name : String} {count : Nat} :
    (name, count) ∈ countGroup group groups ↔
      (name ≠ group ∧ (name, count) ∈ groups) ∨
        (name = group ∧ ((∃ before, (group, before) ∈ groups ∧ count = before + 1) ∨
          (group ∉ groups.map Prod.fst ∧ count = 1))) := by
  induction groups with
  | nil => simp [countGroup]
  | cons first rest ih =>
    obtain ⟨other, before⟩ := first
    obtain ⟨isNew, nodupRest⟩ := List.nodup_cons.mp nodup
    have absent (count : Nat) : (other, count) ∉ rest := fun listed =>
      isNew (List.mem_map.mpr ⟨_, listed, rfl⟩)
    rw [countGroup]
    split
    · next same =>
      subst same
      by_cases isName : name = other
      · subst isName
        simp [absent]
      · simp [isName]
    · next differ =>
      rw [List.mem_cons, ih nodupRest]
      by_cases isName : name = group
      · subst isName
        simp [Ne.symm differ]
      · simp [isName]

end

/-- Every group of the descriptors is listed once, with the number of its descriptors. -/
structure Tally (ds : List Descriptor) (groups : List (String × Nat)) : Prop where
  nodup : (groups.map Prod.fst).Nodup
  mem_iff : ∀ group count, (group, count) ∈ groups ↔
    0 < count ∧ ds.countP (fun d => d.group = group) = count
  sum : (groups.map Prod.snd).sum = ds.length

variable {es : List Descriptor} {groups others : List (String × Nat)}

theorem tally_nil : Tally [] [] where
  nodup := .nil
  mem_iff _ _ := by simp; omega
  sum := rfl

theorem Tally.mem_keys_iff (tally : Tally ds groups) (group : String) :
    group ∈ groups.map Prod.fst ↔ 0 < ds.countP (fun d => d.group = group) := by
  rw [List.mem_map]
  constructor
  · rintro ⟨⟨_, count⟩, listed, rfl⟩
    obtain ⟨positive, counted⟩ := (tally.mem_iff _ count).mp listed
    exact counted ▸ positive
  · exact fun positive => ⟨_, (tally.mem_iff group _).mpr ⟨positive, rfl⟩, rfl⟩

theorem Tally.countGroup (tally : Tally ds groups) (d : Descriptor) :
    Tally (ds ++ [d]) (countGroup d.group groups) where
  nodup := nodup_keys_countGroup tally.nodup
  sum := by rw [sum_countGroup, tally.sum, List.length_append, List.length_singleton]
  mem_iff name count := by
    rw [mem_countGroup tally.nodup, List.countP_append, tally.mem_keys_iff]
    by_cases isName : name = d.group
    · subst isName
      have counted : [d].countP (fun e => e.group = d.group) = 1 := by simp
      rw [counted]
      constructor
      · rintro (⟨differ, -⟩ | ⟨-, ⟨before, listed, rfl⟩ | ⟨absent, rfl⟩⟩)
        · exact absurd rfl differ
        · obtain ⟨-, countedBefore⟩ := (tally.mem_iff _ before).mp listed
          omega
        · omega
      · rintro ⟨-, rfl⟩
        refine .inr ⟨rfl, ?_⟩
        by_cases occurs : 0 < ds.countP fun e => e.group = d.group
        · exact .inl ⟨_, (tally.mem_iff d.group _).mpr ⟨occurs, rfl⟩, rfl⟩
        · exact .inr ⟨occurs, by omega⟩
    · have uncounted : [d].countP (fun e => e.group = name) = 0 := by simp [Ne.symm isName]
      rw [uncounted, Nat.add_zero, tally.mem_iff]
      simp [isName]

theorem Tally.foldl (tally : Tally ds groups) (es : List Descriptor) :
    Tally (ds ++ es) (es.foldl (fun groups d => Statistics.countGroup d.group groups) groups) := by
  induction es generalizing ds groups with
  | nil => rwa [List.append_nil]
  | cons d es ih =>
    have counted := ih (tally.countGroup d)
    rwa [List.append_assoc, List.singleton_append] at counted

theorem Tally.perm (tally : Tally ds groups) (perm : ds.Perm es) : Tally es groups where
  nodup := tally.nodup
  mem_iff group count := by rw [tally.mem_iff, perm.countP_eq]
  sum := tally.sum.trans perm.length_eq

theorem Tally.perm_unique (tally : Tally ds groups) (other : Tally ds others) :
    groups.Perm others := by
  refine (List.perm_ext_iff_of_nodup tally.nodup.of_map other.nodup.of_map).mpr ?_
  rintro ⟨group, count⟩
  rw [tally.mem_iff, other.mem_iff]

-- If all descriptors are of one group, its count is all there is.
theorem tally_of_same {group : String} (same : ∀ d ∈ ds, d.group = group) (nonempty : ds ≠ []) :
    Tally ds [(group, ds.length)] where
  nodup := List.nodup_singleton group
  sum := Nat.add_zero _
  mem_iff name count := by
    have positive := List.length_pos_of_ne_nil nonempty
    rw [List.mem_singleton, Prod.mk.injEq]
    by_cases isName : name = group
    · have all : ds.countP (fun d => d.group = name) = ds.length :=
        List.countP_eq_length.mpr fun d listed => decide_eq_true ((same d listed).trans isName.symm)
      rw [all, and_iff_right isName]
      omega
    · have none : ds.countP (fun d => d.group = name) = 0 := by
        refine List.countP_eq_zero.mpr fun d listed counted => isName ?_
        exact (of_decide_eq_true counted).symm.trans (same d listed)
      rw [none]
      exact iff_of_false (fun listed => isName listed.1) fun counted => Nat.ne_of_lt counted.1 counted.2

/-! ### Registries -/

/-- What the numbers mean for a list of descriptors in the order of registration. -/
structure Describes (s : Statistics) (ds : List Descriptor) : Prop where
  emitted : s.emitted = ds.countP isRoutine
  hydrated : s.hydrated = ds.countP fun d => isRoutine d && d.hydrated
  total : s.totalSize = (ds.map Descriptor.size).sum
  bound : ∀ d ∈ ds, d.size ≤ s.largestSize
  newest : (s.largestSize = 0 ∧ s.largestName = "") ∨
    ∃ older d newer, ds = older ++ d :: newer ∧ 0 < d.size ∧ d.size = s.largestSize ∧
      d.name = s.largestName ∧ ∀ e ∈ newer, e.size < s.largestSize
  tally : Tally ds s.groups

variable {r : Registry}

-- The list is walked from its end, so the first of the largest that is met is the last one
-- registered.
theorem collect_describes (collected : collect r = .ok s) : s.Describes r.descriptors := by
  have sums : Sums empty r.newestFirst s := addAll_sums collected
  have perm : r.newestFirst.Perm r.descriptors := List.reverse_perm _
  have tally : Tally r.newestFirst s.groups := sums.groups ▸ tally_nil.foldl r.newestFirst
  have emitted := sums.emitted
  have hydrated := sums.hydrated
  have total := sums.total
  rw [empty, Nat.zero_add, perm.countP_eq] at emitted hydrated
  rw [empty, Nat.zero_add, (perm.map _).sum_nat] at total
  cases sums.largest with
  | before size name bound =>
    refine ⟨emitted, hydrated, total, fun d listed => ?_, .inl ⟨size, name⟩, tally.perm perm⟩
    rw [size]
    exact bound d (perm.mem_iff.mpr listed)
  | among newer older d split size name positive first last =>
    have inOrder : r.descriptors = older.reverse ++ d :: newer.reverse := by
      rw [← List.reverse_reverse r.descriptors]
      simp [show r.descriptors.reverse = _ from split]
    refine ⟨emitted, hydrated, total, fun e listed => ?_, .inr ⟨older.reverse, d, newer.reverse,
      inOrder, positive, size.symm, name.symm, fun e listed => ?_⟩, tally.perm perm⟩
    · rw [size]
      rw [← perm.mem_iff, split, List.mem_append, List.mem_cons] at listed
      rcases listed with newerOne | rfl | olderOne
      · exact Nat.le_of_lt (first e newerOne)
      · exact Nat.le_refl _
      · exact last e olderOne
    · rw [size]
      exact first e (List.mem_reverse.mp listed)

theorem collect_isOk_iff :
    (∃ s, collect r = .ok s) ↔ (r.descriptors.map Descriptor.size).sum < UInt64.size := by
  have total : (r.newestFirst.map Descriptor.size).sum = (r.descriptors.map Descriptor.size).sum :=
    ((List.reverse_perm _).map _).sum_nat
  rw [collect, addAll_isOk_iff (by decide), total, empty, Nat.zero_add]

theorem collect_eq_of_perm {top : Descriptor} (perm : r.descriptors.Perm ds)
    (routines : ∀ d ∈ ds, isRoutine d = true)
    (fits : (ds.map Descriptor.size).sum < UInt64.size) (member : top ∈ ds)
    (positive : 0 < top.size) (largest : ∀ d ∈ ds, d.size < top.size ∨ d = top) :
    collect r = .ok {
      emitted := ds.length
      hydrated := ds.countP Descriptor.hydrated
      totalSize := (ds.map Descriptor.size).sum
      largestSize := top.size
      largestName := top.name
      groups := [(Session.routinesGroup, ds.length)] } := by
  have sizes := (perm.map Descriptor.size).sum_nat
  obtain ⟨s, collected⟩ := collect_isOk_iff.mpr (sizes ▸ fits)
  have describes := collect_describes collected
  have emitted : s.emitted = ds.length := by
    rw [describes.emitted, perm.countP_eq, List.countP_eq_length.mpr routines]
  have hydrated : s.hydrated = ds.countP Descriptor.hydrated := by
    rw [describes.hydrated, perm.countP_eq]
    exact List.countP_congr fun d listed => by rw [routines d listed, Bool.true_and]
  have total : s.totalSize = (ds.map Descriptor.size).sum := describes.total.trans sizes
  have atLeast : top.size ≤ s.largestSize := describes.bound top (perm.mem_iff.mpr member)
  have leads : s.largestSize = top.size ∧ s.largestName = top.name := by
    rcases describes.newest with ⟨zero, -⟩ | ⟨older, d, newer, split, -, size, name, -⟩
    · omega
    · rcases largest d (perm.mem_iff.mp (by simp [split])) with smaller | rfl
      · omega
      · exact ⟨size.symm, name.symm⟩
  have groups : s.groups = [(Session.routinesGroup, ds.length)] := by
    have one : Tally ds [(Session.routinesGroup, ds.length)] :=
      tally_of_same (fun d listed => of_decide_eq_true (routines d listed))
        (List.ne_nil_of_mem member)
    exact List.perm_singleton.mp ((describes.tally.perm perm).perm_unique one)
  rw [collected]
  cases s
  simp_all

end RuntimeStubs.Statistics
