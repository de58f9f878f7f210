import Mathlib.Data.List.Nodup
import RuntimeStubs.Proofs.Registry.LifeCycle

/-! What an address leads to, and which descriptors have become complete.

A look-up answers with the descriptor registered last among the complete ones that contain the
address (`Registry.Answers`). As long as descriptors stay what they are once they are complete, the
handle of the answer never goes down (`Keeps.answers`). `completedSince` lists the descriptors that
are complete in a registry and were not in an earlier one; where it is empty, no look-up has
changed. -/

set_option autoImplicit false

namespace RuntimeStubs.Registry

/-- The descriptor of a handle answers for an address. -/
structure Answers (r : Registry) (pc : Address) (handle : Handle) (d : Descriptor) : Prop where
  found : r.get? handle = some d
  contains : d.contains pc = true
  newest : ∀ {other : Handle} {e : Descriptor}, r.get? other = some e → e.contains pc = true →
    other.index ≤ handle.index

def Completed (r : Registry) (handle : Handle) (d : Descriptor) : Prop :=
  r.get? handle = some d ∧ d.isComplete = true

def entries (r : Registry) : List (Handle × Descriptor) :=
  r.descriptors.zipIdx.map fun (d, n) => (⟨n⟩, d)

/-- The complete descriptors of a registry that were not complete in an earlier one. -/
def completedSince (r s : Registry) : List (Handle × Descriptor) :=
  s.entries.filter fun (handle, d) => d.isComplete && !(r.get? handle).any Descriptor.isComplete

variable {r s t : Registry} {pc : Address} {handle : Handle} {d e : Descriptor}

/-! ### Answers -/

theorem isComplete_of_contains (contains : d.contains pc = true) : d.isComplete = true := by
  obtain ⟨stop, ends, -⟩ := Descriptor.contains_iff.mp contains
  rw [Descriptor.isComplete, ends, Option.isSome_some]

theorem find?_eq_some_iff_answers : r.find? pc = some d ↔ ∃ handle, r.Answers pc handle d := by
  rw [find?_eq_some_iff]
  constructor
  · rintro ⟨older, newer, split, contains, none⟩
    refine ⟨⟨older.length⟩, by simp [get?, split], contains, ?_⟩
    intro other e found around
    refine Nat.le_of_not_lt fun behind => ?_
    have behind : older.length < other.index := behind
    rw [get?, split, List.getElem?_append_right (Nat.le_of_lt behind)] at found
    obtain ⟨n, distance⟩ := Nat.exists_eq_add_of_lt behind
    rw [show other.index - older.length = n + 1 by omega, List.getElem?_cons_succ] at found
    exact Bool.false_ne_true ((none e (List.mem_of_getElem? found)).symm.trans around)
  · rintro ⟨handle, answers⟩
    obtain ⟨inside, here⟩ := List.getElem?_eq_some_iff.mp answers.found
    refine ⟨r.descriptors.take handle.index, r.descriptors.drop (handle.index + 1), ?_,
      answers.contains, ?_⟩
    · rw [← here, List.getElem_cons_drop, List.take_append_drop]
    · intro e member
      obtain ⟨n, found⟩ := List.mem_iff_getElem?.mp member
      rw [List.getElem?_drop] at found
      have found : r.get? ⟨handle.index + 1 + n⟩ = some e := found
      refine Bool.eq_false_iff.mpr fun around => ?_
      have le : handle.index + 1 + n ≤ handle.index := answers.newest found around
      omega

theorem find?_eq_none_iff :
    r.find? pc = none ↔ ∀ d ∈ r.descriptors, d.contains pc = false := by
  simp [find?, newestFirst]

theorem Keeps.completed (keeps : r.Keeps s) (completed : r.Completed handle d) :
    s.Completed handle d := by
  obtain ⟨e, found, grows⟩ := keeps handle d completed.1
  obtain rfl := grows.fixed completed.2
  exact ⟨found, completed.2⟩

-- The old answer is still there, so what answers now is it or has been registered behind it.
theorem Keeps.answers (keeps : r.Keeps s) (answers : r.Answers pc handle d) :
    ∃ newer e, s.Answers pc newer e ∧ handle.index ≤ newer.index ∧ (newer = handle → e = d) := by
  have still := keeps.completed ⟨answers.found, isComplete_of_contains answers.contains⟩
  cases looked : s.find? pc with
  | none =>
    have outside := find?_eq_none_iff.mp looked d (List.mem_of_getElem? still.1)
    exact absurd (outside.symm.trans answers.contains) Bool.false_ne_true
  | some e =>
    obtain ⟨newer, now⟩ := find?_eq_some_iff_answers.mp looked
    refine ⟨newer, e, now, now.newest still.1 answers.contains, ?_⟩
    rintro rfl
    exact Option.some.inj (now.found.symm.trans still.1)

-- Descriptors without an end play no part in a look-up.
theorem answers_congr (same : ∀ handle d, r.Completed handle d ↔ s.Completed handle d) :
    r.Answers pc handle d ↔ s.Answers pc handle d := by
  have oneWay {r s : Registry} (same : ∀ handle d, r.Completed handle d ↔ s.Completed handle d)
      (answers : r.Answers pc handle d) : s.Answers pc handle d := by
    refine ⟨((same _ _).mp ⟨answers.found, isComplete_of_contains answers.contains⟩).1,
      answers.contains, ?_⟩
    intro other e found contains
    exact answers.newest ((same _ _).mpr ⟨found, isComplete_of_contains contains⟩).1 contains
  exact ⟨oneWay same, oneWay fun handle d => (same handle d).symm⟩

/-! ### Descriptors that become complete -/

theorem mem_entries_iff : (handle, d) ∈ r.entries ↔ r.get? handle = some d := by
  rw [entries, List.mem_map]
  constructor
  · rintro ⟨⟨_, n⟩, member, same⟩
    cases same
    exact List.mem_zipIdx_iff_getElem?.mp member
  · intro found
    exact ⟨(d, handle.index), List.mem_zipIdx_iff_getElem?.mpr found, rfl⟩

theorem nodup_entries (r : Registry) : (r.entries.map Prod.fst).Nodup := by
  have indices : r.entries.map Prod.fst = (r.descriptors.zipIdx.map Prod.snd).map Handle.mk := by
    rw [entries, List.map_map, List.map_map]
    rfl
  rw [indices, List.zipIdx_map_snd]
  refine List.Nodup.map ?_ List.nodup_range'
  intro m n same
  exact congrArg Handle.index same

theorem mem_completedSince_iff : (handle, d) ∈ r.completedSince s ↔
    s.Completed handle d ∧ ∀ e, ¬ r.Completed handle e := by
  simp only [completedSince, List.mem_filter, mem_entries_iff, Completed, Bool.and_eq_true,
    Bool.not_eq_true', and_assoc]
  cases r.get? handle <;> simp

theorem nodup_completedSince (r s : Registry) : ((r.completedSince s).map Prod.fst).Nodup :=
  (nodup_entries s).sublist (List.Sublist.map _ List.filter_sublist)

theorem completedSince_eq_nil
    (old : ∀ {handle d}, s.Completed handle d → r.Completed handle d) :
    r.completedSince s = [] := by
  refine List.eq_nil_iff_forall_not_mem.mpr ?_
  rintro ⟨handle, d⟩ member
  obtain ⟨completed, fresh⟩ := mem_completedSince_iff.mp member
  exact fresh d (old completed)

theorem completedSince_eq_singleton
    (only : ∀ other e, (s.Completed other e ∧ ∀ f, ¬ r.Completed other f) ↔
      other = handle ∧ e = d) : r.completedSince s = [(handle, d)] := by
  refine List.perm_singleton.mp ?_
  refine (List.perm_ext_iff_of_nodup (nodup_completedSince r s).of_map (by simp)).mpr ?_
  rintro ⟨other, e⟩
  rw [mem_completedSince_iff, only, List.mem_singleton, Prod.mk.injEq]

theorem completedSince_of_descriptors (same : s.descriptors = r.descriptors) :
    r.completedSince s = [] :=
  completedSince_eq_nil fun completed => by rwa [Completed, get?, ← same]

theorem get?_push_eq_some_iff {new : Descriptor} : (r.push new).get? handle = some d ↔
    r.get? handle = some d ∨ handle = ⟨r.size⟩ ∧ d = new := by
  constructor
  · intro found
    by_cases older : handle.index < r.size
    · rw [get?, push, List.getElem?_append_left older] at found
      exact Or.inl found
    · have inside := (List.getElem?_eq_some_iff.mp found).1
      rw [push, List.length_append] at inside
      obtain rfl : handle = ⟨r.size⟩ := congrArg Handle.mk (show handle.index = r.size by
        have inside : handle.index < r.size + 1 := inside
        omega)
      exact Or.inr ⟨rfl, Option.some.inj (found.symm.trans (get?_push_size r new))⟩
  · rintro (found | ⟨rfl, rfl⟩)
    · exact get?_push_of_some found new
    · exact get?_push_size r d

theorem completedSince_push_open (isOpen : d.stop = none) : r.completedSince (r.push d) = [] := by
  refine completedSince_eq_nil ?_
  rintro handle e ⟨found, isComplete⟩
  rcases get?_push_eq_some_iff.mp found with older | ⟨-, rfl⟩
  · exact ⟨older, isComplete⟩
  · rw [Descriptor.isComplete, isOpen] at isComplete
    cases isComplete

theorem completedSince_push (isComplete : d.isComplete = true) :
    r.completedSince (r.push d) = [(⟨r.size⟩, d)] := by
  refine completedSince_eq_singleton fun other e => ?_
  constructor
  · rintro ⟨⟨found, isComplete⟩, fresh⟩
    rcases get?_push_eq_some_iff.mp found with older | new
    · exact absurd ⟨older, isComplete⟩ (fresh e)
    · exact new
  · rintro ⟨rfl, rfl⟩
    refine ⟨⟨get?_push_size r e, isComplete⟩, fun f completed => ?_⟩
    rw [Completed, get?_size] at completed
    cases completed.1

theorem completedSince_put {old : Descriptor} (found : r.get? handle = some old)
    (isOpen : old.stop = none) (isComplete : d.isComplete = true) :
    r.completedSince (r.put handle d) = [(handle, d)] := by
  refine completedSince_eq_singleton fun other e => ?_
  by_cases same : other = handle
  · subst same
    rw [Completed, get?_put_self found]
    constructor
    · rintro ⟨⟨isFound, -⟩, -⟩
      exact ⟨rfl, (Option.some.inj isFound).symm⟩
    · rintro ⟨-, rfl⟩
      refine ⟨⟨rfl, isComplete⟩, fun f completed => ?_⟩
      obtain rfl := Option.some.inj (found.symm.trans completed.1)
      have ends := completed.2
      rw [Descriptor.isComplete, isOpen] at ends
      cases ends
  · rw [Completed, get?_put_ne same]
    constructor
    · rintro ⟨completed, fresh⟩
      exact absurd completed (fresh e)
    · rintro ⟨rfl, -⟩
      exact absurd rfl same

-- What becomes complete from one registry to a third does so up to the one between or from it on.
theorem mem_completedSince_trans_iff (first : r.Keeps s) (second : s.Keeps t) :
    (handle, d) ∈ r.completedSince t ↔
      (handle, d) ∈ r.completedSince s ∨ (handle, d) ∈ s.completedSince t := by
  simp only [mem_completedSince_iff]
  constructor
  · rintro ⟨completed, fresh⟩
    by_cases already : ∃ e, s.Completed handle e
    · obtain ⟨e, already⟩ := already
      obtain rfl := Option.some.inj ((second.completed already).1.symm.trans completed.1)
      exact Or.inl ⟨already, fresh⟩
    · exact Or.inr ⟨completed, not_exists.mp already⟩
  · rintro (⟨completed, fresh⟩ | ⟨completed, fresh⟩)
    · exact ⟨second.completed completed, fresh⟩
    · exact ⟨completed, fun e already => fresh e (first.completed already)⟩

theorem completed_iff_of_completedSince (keeps : r.Keeps s) (none : r.completedSince s = []) :
    s.Completed handle d ↔ r.Completed handle d := by
  refine ⟨fun completed => ?_, keeps.completed⟩
  by_contra fresh
  by_cases already : ∃ e, r.Completed handle e
  · obtain ⟨e, already⟩ := already
    obtain rfl := Option.some.inj ((keeps.completed already).1.symm.trans completed.1)
    exact fresh already
  · have member := mem_completedSince_iff.mpr ⟨completed, not_exists.mp already⟩
    rw [none] at member
    cases member

theorem answers_iff_of_completedSince (keeps : r.Keeps s) (none : r.completedSince s = []) :
    s.Answers pc handle d ↔ r.Answers pc handle d :=
  answers_congr fun _ _ => completed_iff_of_completedSince keeps none

-- What has been registered before the descriptor that answers does not take over by becoming
-- complete.
theorem Keeps.answers_of_older (keeps : r.Keeps s) (answers : r.Answers pc handle d)
    (older : ∀ other e, (other, e) ∈ r.completedSince s → other.index ≤ handle.index) :
    s.Answers pc handle d := by
  have still := keeps.completed ⟨answers.found, isComplete_of_contains answers.contains⟩
  refine ⟨still.1, answers.contains, ?_⟩
  intro other e found contains
  by_cases already : ∃ f, r.Completed other f
  · obtain ⟨f, already⟩ := already
    obtain rfl := Option.some.inj ((keeps.completed already).1.symm.trans found)
    exact answers.newest already.1 contains
  · exact older other e (mem_completedSince_iff.mpr
      ⟨⟨found, isComplete_of_contains contains⟩, not_exists.mp already⟩)

end RuntimeStubs.Registry
