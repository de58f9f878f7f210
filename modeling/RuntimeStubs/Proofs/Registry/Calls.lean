import RuntimeStubs.Registry

/-! Calls that write to a registry without freezing or unfreezing it.

These are the calls that sessions make, and the registrations that others make directly. None of
them touches the freeze, whatever it comes to. -/

set_option autoImplicit false

namespace RuntimeStubs

namespace Descriptor

variable {d changed : Descriptor}

theorem setStart_eq_ok_iff {start : Address} :
    d.setStart start = .ok changed ↔ ¬ start < d.start ∧
      (∀ stop, d.stop = some stop → ¬ stop < start) ∧ changed = { d with start := start } := by
  by_cases below : start < d.start
  · simp [setStart, below]
  · cases ends : d.stop with
    | none => simp [setStart, below, ends, eq_comm]
    | some stop => by_cases above : stop < start <;> simp [setStart, below, ends, above, eq_comm]

end Descriptor

inductive RegistryCall where
  | register (group name : String) (start : Address) (stop : Option Address)
  | setStart (handle : Handle) (start : Address)
  | finish (handle : Handle) (stop : Address) (displacement : Nat)
  | markHydrated (handle : Handle) (displacement : Nat)
  deriving DecidableEq, Repr

namespace Registry

def push (d : Descriptor) (r : Registry) : Registry :=
  { r with descriptors := r.descriptors ++ [d] }

def settle {α : Type} (r : Registry) : Except Fault (α × Registry) → Registry
  | .ok (_, changed) => changed
  | .error _ => r

def call (r : Registry) : RegistryCall → Registry
  | .register group name start stop => r.settle (r.register group name start stop)
  | .setStart handle start => r.settle (r.setStart handle start)
  | .finish handle stop displacement => r.settle (r.finish handle stop displacement)
  | .markHydrated handle displacement => r.settle (r.markHydrated handle displacement)

def Evolves (r changed : Registry) : Prop := ∃ calls, changed = List.foldl call r calls

theorem Evolves.refl (r : Registry) : r.Evolves r := ⟨[], rfl⟩

theorem Evolves.trans {r s t : Registry} (first : r.Evolves s) (second : s.Evolves t) :
    r.Evolves t := by
  obtain ⟨calls, rfl⟩ := first
  obtain ⟨more, rfl⟩ := second
  exact ⟨calls ++ more, (List.foldl_append ..).symm⟩

theorem evolves_call (r : Registry) (call : RegistryCall) : r.Evolves (r.call call) :=
  ⟨[call], rfl⟩

section

variable {r changed : Registry} {handle : Handle} {group name : String} {start : Address}
  {stop : Option Address}

theorem add_eq_ok_iff :
    register.add group name start stop r = .ok (handle, changed) ↔
      r.frozen = false ∧ handle = ⟨r.size⟩ ∧
        changed = r.push (.create group name start stop) := by
  cases frozen : r.frozen with
  | false => simp [register.add, push, frozen, eq_comm]
  | true => simp [register.add, frozen]

theorem register_eq_ok_iff :
    r.register group name start stop = .ok (handle, changed) ↔
      name ≠ "" ∧ (∀ bound, stop = some bound → ¬ bound < start) ∧ r.frozen = false ∧
        handle = ⟨r.size⟩ ∧
        changed = r.push (.create group name start stop) := by
  by_cases named : name = ""
  · simp [register, named]
  · cases stop with
    | none => simp [register, named, add_eq_ok_iff]
    | some bound =>
      by_cases ordered : bound < start <;> simp [register, named, ordered, add_eq_ok_iff]

theorem descriptor_eq_ok_iff {d : Descriptor} :
    r.descriptor handle = .ok d ↔ r.descriptors[handle.index]? = some d := by
  rw [descriptor, get?]
  cases r.descriptors[handle.index]? <;> simp

theorem update_eq_ok_iff {change : Descriptor → Except Fault Descriptor} {d : Descriptor} :
    r.update handle change = .ok (d, changed) ↔
      ∃ old, r.descriptors[handle.index]? = some old ∧ change old = .ok d ∧
        changed = { r with descriptors := r.descriptors.set handle.index d } := by
  constructor
  · intro updated
    unfold update at updated
    split at updated
    · cases updated
    · next old found =>
      split at updated
      · cases updated
      · next new made =>
        cases updated
        exact ⟨old, descriptor_eq_ok_iff.mp found, made, rfl⟩
  · rintro ⟨old, found, made, rfl⟩
    simp only [update, descriptor_eq_ok_iff.mpr found, made]

-- A session changes only the descriptor that it has registered last.
theorem descriptor_push (r : Registry) (d : Descriptor) :
    (r.push d).descriptor ⟨r.size⟩ = .ok d := by
  rw [descriptor_eq_ok_iff, push, size, List.getElem?_concat_length]

theorem update_push_eq_ok_iff {change : Descriptor → Except Fault Descriptor} {old d : Descriptor} :
    (r.push old).update ⟨r.size⟩ change = .ok (d, changed) ↔
      change old = .ok d ∧ changed = r.push d := by
  simp [update_eq_ok_iff, push, size]

theorem finish_push_eq_ok_iff {bound : Address} {displacement : Nat} {old d : Descriptor} :
    (r.push old).finish ⟨r.size⟩ bound displacement = .ok (d, changed) ↔ ¬ bound < old.start ∧
      d = { old with stop := some bound, displacement := displacement } ∧ changed = r.push d := by
  rw [finish, update_push_eq_ok_iff]
  by_cases below : bound < old.start <;> simp [Descriptor.setStop, below, eq_comm]

theorem markHydrated_push (r : Registry) (d : Descriptor) (displacement : Nat) :
    (r.push d).markHydrated ⟨r.size⟩ displacement =
      .ok ({ d with displacement := displacement, hydrated := true },
        r.push { d with displacement := displacement, hydrated := true }) :=
  update_push_eq_ok_iff.mpr ⟨rfl, rfl⟩

end

/-! ### The freeze -/

-- Neither a change that is made nor one that is refused touches the freeze.
theorem frozen_settle {α : Type} {r : Registry} {attempt : Except Fault (α × Registry)}
    (kept : ∀ value changed, attempt = .ok (value, changed) → changed.frozen = r.frozen) :
    (r.settle attempt).frozen = r.frozen := by
  cases attempt with
  | error fault => rfl
  | ok result => exact kept result.1 result.2 rfl

theorem frozen_update {r changed : Registry} {handle : Handle}
    {change : Descriptor → Except Fault Descriptor} {d : Descriptor}
    (updated : r.update handle change = .ok (d, changed)) : changed.frozen = r.frozen := by
  obtain ⟨old, -, -, rfl⟩ := update_eq_ok_iff.mp updated
  rfl

theorem frozen_call (r : Registry) (call : RegistryCall) : (r.call call).frozen = r.frozen := by
  cases call with
  | register =>
    refine frozen_settle fun handle changed registered => ?_
    obtain ⟨-, -, -, -, rfl⟩ := register_eq_ok_iff.mp registered
    rfl
  | setStart | finish | markHydrated => exact frozen_settle fun _ _ => frozen_update

-- The name and the bounds are checked before the freeze, so a refusal may have another reason; it
-- is never the freeze of a registry that is open.
theorem register_ne_frozen {r : Registry} (unfrozen : r.frozen = false) (group name : String)
    (start : Address) (stop : Option Address) (otherGroup otherName : String) :
    r.register group name start stop ≠ .error (.registryFrozen otherGroup otherName) := by
  intro refused
  unfold register at refused
  split at refused
  · cases refused
  · split at refused
    · split at refused
      · cases refused
      · simp [register.add, unfrozen] at refused
    · simp [register.add, unfrozen] at refused

theorem register_ne_ok {r : Registry} (frozen : r.frozen = true) (group name : String)
    (start : Address) (stop : Option Address) (result : Handle × Registry) :
    r.register group name start stop ≠ .ok result := by
  intro registered
  obtain ⟨-, -, unfrozen, -⟩ := register_eq_ok_iff.mp registered
  rw [frozen] at unfrozen
  cases unfrozen

theorem register_of_frozen {r : Registry} (frozen : r.frozen = true) (group : String)
    {name : String} {start : Address} {stop : Option Address} (named : name ≠ "")
    (ordered : ∀ bound, stop = some bound → ¬ bound < start) :
    r.register group name start stop = .error (.registryFrozen group name) := by
  cases stop with
  | none => simp [register, register.add, named, frozen]
  | some bound => simp [register, register.add, named, ordered bound rfl, frozen]

end Registry

end RuntimeStubs
