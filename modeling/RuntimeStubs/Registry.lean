import RuntimeStubs.Descriptor

/-! The registry of descriptors.

Descriptors are only ever added, and a `Handle` is a place in the order of registration. A look-up
by address prefers the descriptor registered last. A frozen registry accepts no new descriptor;
freezing and unfreezing must alternate. -/

set_option autoImplicit false

namespace RuntimeStubs

structure Registry where
  descriptors : List Descriptor
  frozen : Bool
  deriving DecidableEq, Repr

namespace Registry

def empty : Registry := ⟨[], false⟩

instance : Inhabited Registry := ⟨empty⟩

def size (r : Registry) : Nat := r.descriptors.length

def get? (r : Registry) (handle : Handle) : Option Descriptor := r.descriptors[handle.index]?

def descriptor (handle : Handle) (r : Registry) : Except Fault Descriptor :=
  match r.get? handle with
  | some d => .ok d
  | none => .error (.unknownDescriptor handle)

/-- The descriptors in the order in which look-up considers them. -/
def newestFirst (r : Registry) : List Descriptor := r.descriptors.reverse

def find? (r : Registry) (pc : Address) : Option Descriptor :=
  r.newestFirst.find? fun d => d.contains pc

/-- The descriptor registered last among those that contain the address, with its handle. -/
theorem find?_eq_some_iff {r : Registry} {pc : Address} {d : Descriptor} :
    r.find? pc = some d ↔
      ∃ older newer, r.descriptors = older ++ d :: newer ∧ d.contains pc = true ∧
        ∀ e ∈ newer, e.contains pc = false := by
  unfold find? newestFirst
  rw [List.find?_eq_some_iff_append]
  constructor
  · rintro ⟨found, newer, older, split, none⟩
    refine ⟨older.reverse, newer.reverse, ?_, found, ?_⟩
    · have := congrArg List.reverse split
      simpa using this
    · intro e member
      have := none e (List.mem_reverse.mp member)
      simpa using this
  · rintro ⟨older, newer, split, found, none⟩
    refine ⟨found, newer.reverse, older.reverse, by simp [split], ?_⟩
    intro e member
    simp [none e (List.mem_reverse.mp member)]

/-- Checks the name first, then the order of the bounds, then the freeze. -/
def register (group name : String) (start : Address) (stop : Option Address) (r : Registry) :
    Except Fault (Handle × Registry) :=
  if name = "" then .error (.emptyStubName group)
  else
    match stop with
    | some stop =>
      if stop < start then .error (.unorderedBounds name start stop)
      else add group name start (some stop) r
    | none => add group name start none r
where
  add (group name : String) (start : Address) (stop : Option Address) (r : Registry) :
      Except Fault (Handle × Registry) :=
    if r.frozen then .error (.registryFrozen group name)
    else .ok (⟨r.size⟩,
      { r with descriptors := r.descriptors ++ [Descriptor.create group name start stop] })

def freeze (r : Registry) : Except Fault Registry :=
  if r.frozen then .error .repeatedFreeze else .ok { r with frozen := true }

def unfreeze (r : Registry) : Except Fault Registry :=
  if r.frozen then .ok { r with frozen := false } else .error .repeatedUnfreeze

def update (handle : Handle) (change : Descriptor → Except Fault Descriptor) (r : Registry) :
    Except Fault (Descriptor × Registry) :=
  match r.descriptor handle with
  | .error fault => .error fault
  | .ok d =>
    match change d with
    | .error fault => .error fault
    | .ok d => .ok (d, { r with descriptors := r.descriptors.set handle.index d })

def setStart (handle : Handle) (start : Address) (r : Registry) :
    Except Fault (Descriptor × Registry) := r.update handle (·.setStart start)

def finish (handle : Handle) (stop : Address) (displacement : Nat) (r : Registry) :
    Except Fault (Descriptor × Registry) :=
  r.update handle fun d =>
    match d.setStop stop with
    | .error fault => .error fault
    | .ok d => .ok { d with displacement := displacement }

def markHydrated (handle : Handle) (displacement : Nat) (r : Registry) :
    Except Fault (Descriptor × Registry) :=
  r.update handle fun d => .ok { d with displacement := displacement, hydrated := true }

end Registry

end RuntimeStubs
