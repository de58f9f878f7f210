import RuntimeStubs.Fault

/-! Descriptors of generated code regions.

A descriptor ties the half-open range from `start` to `stop` to the group and name of a stub. The
range of a stub that is still being generated has no end yet, and such a descriptor contains no
address. Bounds are set through `setStart` and `setStop`, which refuse a start that moves back and
bounds in the wrong order. -/

set_option autoImplicit false

namespace RuntimeStubs

structure Descriptor where
  group : String
  name : String
  start : Address
  stop : Option Address
  displacement : Nat
  hydrated : Bool
  deriving DecidableEq, Repr

namespace Descriptor

def create (group name : String) (start : Address) (stop : Option Address) : Descriptor :=
  ⟨group, name, start, stop, 0, false⟩

def isComplete (d : Descriptor) : Bool := d.stop.isSome

/-- The end of the range, or its start as long as the end is not known. -/
def stopOrStart (d : Descriptor) : Address := d.stop.getD d.start

/-- The length of the range; zero as long as its end is not known. -/
def size (d : Descriptor) : Nat := (d.stop.bind fun stop => stop.offsetFrom d.start).getD 0

def contains (d : Descriptor) (pc : Address) : Bool :=
  match d.stop with
  | some stop => decide (d.start ≤ pc ∧ pc < stop)
  | none => false

theorem contains_iff {d : Descriptor} {pc : Address} :
    d.contains pc = true ↔ ∃ stop, d.stop = some stop ∧ d.start ≤ pc ∧ pc < stop := by
  unfold contains
  cases d.stop <;> simp

def setStart (start : Address) (d : Descriptor) : Except Fault Descriptor :=
  if start < d.start then .error (.beginDecreased d.name d.start start)
  else
    match d.stop with
    | some stop =>
      if stop < start then .error (.unorderedBounds d.name start stop)
      else .ok { d with start := start }
    | none => .ok { d with start := start }

def setStop (stop : Address) (d : Descriptor) : Except Fault Descriptor :=
  if stop < d.start then .error (.unorderedBounds d.name d.start stop)
  else .ok { d with stop := some stop }

def toText (d : Descriptor) : String :=
  let stop := match d.stop with
    | some stop => stop.toText
    | none => "?"
  d.group ++ "::" ++ d.name ++ " [" ++ d.start.toText ++ ", " ++ stop ++ "] (" ++ toString d.size ++
    " bytes)"

theorem toText_of_stop {d : Descriptor} {stop : Address} (complete : d.stop = some stop) :
    d.toText =
      s!"{d.group}::{d.name} [{d.start.toText}, {stop.toText}] ({d.size} bytes)" := by
  rw [toText, complete]
  rfl

instance : ToString Descriptor := ⟨toText⟩

end Descriptor

end RuntimeStubs
