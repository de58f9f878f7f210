import Mathlib.Logic.Function.Basic
import Mathlib.Logic.Relation
import RuntimeStubs.Proofs.Registry.Calls

/-! The life of a descriptor.

Several generators share a registry, and each of them has at most one stub open. What one generator
does to the registry comes in a few turns (`Turn`): it gives up a stub, opens one, closes the one
that is open, or adds one that is complete. Nothing in the registry itself keeps a turn from closing
a descriptor that is complete already. What keeps it is that open stubs have handles of their own,
of descriptors without an end (`Orderly`). -/

set_option autoImplicit false

namespace RuntimeStubs

namespace Descriptor

def Ordered (d : Descriptor) : Prop := ∀ stop, d.stop = some stop → d.start ≤ stop

/-- A later descriptor of the same stub. -/
structure Grows (d e : Descriptor) : Prop where
  group : e.group = d.group
  name : e.name = d.name
  start : d.start ≤ e.start
  fixed : d.isComplete = true → e = d

variable {d e f : Descriptor}

theorem Grows.refl (d : Descriptor) : d.Grows d where
  group := rfl
  name := rfl
  start := Address.le_iff.mpr (Nat.le_refl _)
  fixed _ := rfl

theorem Grows.trans (first : d.Grows e) (second : e.Grows f) : d.Grows f where
  group := second.group.trans first.group
  name := second.name.trans first.name
  start := Address.le_iff.mpr
    (Nat.le_trans (Address.le_iff.mp first.start) (Address.le_iff.mp second.start))
  fixed complete := by
    obtain rfl := first.fixed complete
    exact second.fixed complete

theorem ordered_of_not_lt {stop : Address} (ends : d.stop = some stop) (ordered : ¬ stop < d.start) :
    d.Ordered := by
  intro other isEnd
  rw [ends, Option.some.injEq] at isEnd
  subst isEnd
  exact Address.le_iff.mpr (Nat.le_of_not_lt fun below => ordered (Address.lt_iff.mpr below))

end Descriptor

namespace Registry

def put (handle : Handle) (d : Descriptor) (r : Registry) : Registry :=
  { r with descriptors := r.descriptors.set handle.index d }

theorem put_push (r : Registry) (old d : Descriptor) : (r.push old).put ⟨r.size⟩ d = r.push d := by
  simp [put, push, size]

/-- Every handle still leads to its stub. -/
def Keeps (r changed : Registry) : Prop :=
  ∀ handle d, r.get? handle = some d → ∃ e, changed.get? handle = some e ∧ d.Grows e

variable {r s t : Registry} {d old : Descriptor} {handle : Handle}

theorem Keeps.of_descriptors (same : s.descriptors = r.descriptors) : r.Keeps s := by
  intro handle d found
  refine ⟨d, ?_, .refl d⟩
  rwa [get?, same]

theorem Keeps.refl (r : Registry) : r.Keeps r := .of_descriptors rfl

theorem Keeps.trans (first : r.Keeps s) (second : s.Keeps t) : r.Keeps t := by
  intro handle d found
  obtain ⟨e, found, grows⟩ := first handle d found
  obtain ⟨f, found, growsAgain⟩ := second handle e found
  exact ⟨f, found, grows.trans growsAgain⟩

theorem get?_size (r : Registry) : r.get? ⟨r.size⟩ = none :=
  List.getElem?_eq_none (Nat.le_refl _)

theorem Keeps.size_le (keeps : r.Keeps s) : r.size ≤ s.size := by
  refine Nat.le_of_not_lt fun shrunk => ?_
  obtain ⟨e, found, -⟩ := keeps ⟨s.size⟩ _ (List.getElem?_eq_getElem shrunk)
  rw [get?_size] at found
  cases found

theorem get?_push_of_some (found : r.get? handle = some d) (new : Descriptor) :
    (r.push new).get? handle = some d := by
  rw [get?] at found ⊢
  rw [push, List.getElem?_append_left (List.getElem?_eq_some_iff.mp found).1, found]

theorem size_push (r : Registry) (d : Descriptor) : (r.push d).size = r.size + 1 := by
  simp [push, size]

theorem size_put (r : Registry) (handle : Handle) (d : Descriptor) :
    (r.put handle d).size = r.size := List.length_set ..

theorem get?_push_size (r : Registry) (d : Descriptor) : (r.push d).get? ⟨r.size⟩ = some d :=
  List.getElem?_concat_length ..

theorem keeps_push (r : Registry) (new : Descriptor) : r.Keeps (r.push new) := fun _ d found =>
  ⟨d, get?_push_of_some found new, .refl d⟩

theorem get?_put_self (found : r.get? handle = some old) (d : Descriptor) :
    (r.put handle d).get? handle = some d := by
  rw [get?, put, List.getElem?_set_self (List.getElem?_eq_some_iff.mp found).1]

theorem get?_put_ne {other : Handle} (differ : other ≠ handle) (r : Registry) (d : Descriptor) :
    (r.put handle d).get? other = r.get? other := by
  have apart : handle.index ≠ other.index := by
    intro same
    cases other
    cases handle
    exact differ (congrArg _ same.symm)
  rw [get?, put, List.getElem?_set_ne apart, get?]

theorem keeps_put (found : r.get? handle = some old) (grows : old.Grows d) :
    r.Keeps (r.put handle d) := by
  intro other e isFound
  by_cases same : other = handle
  · subst same
    obtain rfl : old = e := Option.some.inj (found.symm.trans isFound)
    exact ⟨d, get?_put_self found d, grows⟩
  · exact ⟨e, (get?_put_ne same r d).trans isFound, .refl e⟩

/-! ### Turns of a generator -/

/-- What a generator does to the registry and to the handle of its open stub. -/
inductive Turn : Registry × Option Handle → Registry × Option Handle → Prop
  | abandon (r : Registry) (active : Option Handle) (d : Descriptor) :
    d.stop = none → Turn (r, active) (r.push d, active)
  | start (r : Registry) (d : Descriptor) :
    d.stop = none → Turn (r, none) (r.push d, some ⟨r.size⟩)
  | finish (r : Registry) (handle : Handle) (old : Descriptor) (stop : Address)
    (displacement : Nat) : r.get? handle = some old → ¬ stop < old.start →
    Turn (r, some handle)
      (r.put handle { old with stop := some stop, displacement := displacement }, none)
  | adopt (r : Registry) (active : Option Handle) (d : Descriptor) :
    d.Ordered → Turn (r, active) (r.push d, active)

/-- The open stubs have descriptors of their own, which are not complete. -/
structure Orderly {ι : Type} (r : Registry) (active : ι → Option Handle) : Prop where
  ordered : ∀ d ∈ r.descriptors, d.Ordered
  isOpen : ∀ i handle, active i = some handle → ∃ d, r.get? handle = some d ∧ d.stop = none
  distinct : ∀ i j handle, active i = some handle → active j = some handle → i = j

variable {ι : Type} {active : ι → Option Handle}

theorem orderly_empty : empty.Orderly fun _ : ι => none where
  ordered _ member := absurd member List.not_mem_nil
  isOpen _ _ isActive := by cases isActive
  distinct _ _ _ isActive := by cases isActive

theorem Orderly.push (orderly : r.Orderly active) (ordered : d.Ordered) :
    (r.push d).Orderly active where
  ordered e member := by
    rcases List.mem_append.mp member with older | new
    · exact orderly.ordered e older
    · rw [List.mem_singleton.mp new]
      exact ordered
  isOpen i handle isActive := by
    obtain ⟨e, found, noEnd⟩ := orderly.isOpen i handle isActive
    exact ⟨e, get?_push_of_some found d, noEnd⟩
  distinct := orderly.distinct

theorem descriptors_freeze (r : Registry) :
    (r.freeze.toOption.getD r).descriptors = r.descriptors := by
  unfold freeze
  split <;> rfl

theorem descriptors_unfreeze (r : Registry) :
    (r.unfreeze.toOption.getD r).descriptors = r.descriptors := by
  unfold unfreeze
  split <;> rfl

theorem Orderly.of_descriptors (orderly : r.Orderly active)
    (same : s.descriptors = r.descriptors) : s.Orderly active where
  ordered d member := orderly.ordered d (same ▸ member)
  isOpen i handle isActive := by
    obtain ⟨d, found, noEnd⟩ := orderly.isOpen i handle isActive
    refine ⟨d, ?_, noEnd⟩
    rwa [get?, same]
  distinct := orderly.distinct

-- A direct registration has its bounds checked, if it brings an end.
theorem Orderly.register (orderly : r.Orderly active) (group name : String) (start : Address)
    (stop : Option Address) :
    (r.call (.register group name start stop)).Orderly active ∧
      r.Keeps (r.call (.register group name start stop)) := by
  rw [call]
  cases registered : r.register group name start stop with
  | error fault => exact ⟨orderly, .refl r⟩
  | ok result =>
    obtain ⟨-, ordered, -, -, isPushed⟩ := register_eq_ok_iff.mp registered
    rw [settle, isPushed]
    refine ⟨orderly.push fun bound ends => ?_, keeps_push r _⟩
    exact Descriptor.ordered_of_not_lt ends (ordered bound ends) bound ends

theorem ordered_of_none (noEnd : d.stop = none) : d.Ordered := by
  intro stop isEnd
  rw [noEnd] at isEnd
  cases isEnd

section

variable [DecidableEq ι] {i : ι}

theorem Orderly.close (orderly : r.Orderly active) : r.Orderly (Function.update active i none) := by
  have kept {j : ι} {handle : Handle}
      (isActive : Function.update active i none j = some handle) : active j = some handle := by
    rw [Function.update_apply] at isActive
    split at isActive
    · cases isActive
    · exact isActive
  exact ⟨orderly.ordered, fun j handle isActive => orderly.isOpen j handle (kept isActive),
    fun j k handle first second => orderly.distinct j k handle (kept first) (kept second)⟩

-- The handle of a new descriptor is not yet in use, since handles in use lead to a descriptor.
theorem Orderly.start (orderly : r.Orderly active) (noEnd : d.stop = none) :
    (r.push d).Orderly (Function.update active i (some ⟨r.size⟩)) := by
  have unused (j : ι) : active j ≠ some ⟨r.size⟩ := by
    intro isActive
    obtain ⟨e, found, -⟩ := orderly.isOpen j _ isActive
    rw [get?_size] at found
    cases found
  have pushed := orderly.push (ordered_of_none noEnd)
  refine ⟨pushed.ordered, ?_, ?_⟩
  · intro j handle isActive
    rw [Function.update_apply] at isActive
    split at isActive
    · cases isActive
      exact ⟨d, get?_push_size r d, noEnd⟩
    · exact pushed.isOpen j handle isActive
  · intro j k handle first second
    rw [Function.update_apply] at first second
    split at first <;> split at second
    · next same other => rw [same, other]
    · cases first
      exact absurd second (unused k)
    · cases second
      exact absurd first (unused j)
    · exact orderly.distinct j k handle first second

-- The descriptor that gets its end is open for one generator only, and so it is no other's.
theorem Orderly.finish (orderly : r.Orderly active) (isActive : active i = some handle)
    (ordered : d.Ordered) : (r.put handle d).Orderly (Function.update active i none) := by
  refine ⟨?_, ?_, orderly.close.distinct⟩
  · intro e member
    rcases List.mem_or_eq_of_mem_set member with older | rfl
    · exact orderly.ordered e older
    · exact ordered
  · intro j other isOther
    rw [Function.update_apply] at isOther
    split at isOther
    · cases isOther
    · next differ =>
      have apart : other ≠ handle := by
        rintro rfl
        exact differ (orderly.distinct j i other isOther isActive)
      rw [get?_put_ne apart]
      exact orderly.isOpen j other isOther

theorem Orderly.turn {first last : Registry × Option Handle} (orderly : first.1.Orderly active)
    (isActive : active i = first.2) (turn : Turn first last) :
    last.1.Orderly (Function.update active i last.2) ∧ first.1.Keeps last.1 := by
  cases turn with
  | abandon r _ d noEnd =>
    rw [← isActive, Function.update_eq_self]
    exact ⟨orderly.push (ordered_of_none noEnd), keeps_push r d⟩
  | start r d noEnd => exact ⟨orderly.start noEnd, keeps_push r d⟩
  | finish r handle old stop displacement found ordered =>
    obtain ⟨e, isFound, noEnd⟩ := orderly.isOpen i handle isActive
    obtain rfl : old = e := Option.some.inj (found.symm.trans isFound)
    refine ⟨orderly.finish isActive (Descriptor.ordered_of_not_lt rfl ordered), ?_⟩
    refine keeps_put found ⟨rfl, rfl, Address.le_iff.mpr (Nat.le_refl _), fun complete => ?_⟩
    rw [Descriptor.isComplete, noEnd] at complete
    cases complete
  | adopt r _ d ordered =>
    rw [← isActive, Function.update_eq_self]
    exact ⟨orderly.push ordered, keeps_push r d⟩

theorem Orderly.turns {first last : Registry × Option Handle}
    (turns : Relation.ReflTransGen Turn first last) (isActive : active i = first.2)
    (orderly : first.1.Orderly active) :
    last.1.Orderly (Function.update active i last.2) ∧ first.1.Keeps last.1 := by
  induction turns with
  | refl =>
    rw [← isActive, Function.update_eq_self]
    exact ⟨orderly, .refl first.1⟩
  | tail _ turn ih =>
    obtain ⟨before, keeps⟩ := ih
    obtain ⟨now, keepsAgain⟩ := before.turn (Function.update_self ..) turn
    rw [Function.update_idem] at now
    exact ⟨now, keeps.trans keepsAgain⟩

end

end Registry

end RuntimeStubs
