import RuntimeStubs.Fault

/-! The archive of one phase: which addresses each of its stubs occupied.

All addresses stand in one array that only grows. A stub owns a run of it, which starts with its
entry address, ends with its exclusive end and holds the further entry points in between. A slot is
filled once and never changed; it remembers the name of its stub, so that an archive of another stub
table is noticed on retrieval. Retrieval is about the current stub, which the last look-up has
selected. -/

set_option autoImplicit false

namespace RuntimeStubs

structure Run where
  first : Nat
  count : Nat
  deriving DecidableEq, Repr

namespace Run

def last (run : Run) : Nat := run.first + run.count - 1

def bound (run : Run) : Nat := run.first + run.count

/-- The number of entry points between start and end. -/
def extraCount (run : Run) : Except Fault Nat :=
  if run.count < 2 then .error (.abort .subtraction) else .ok (run.count - 2)

end Run

structure Slot where
  run : Run
  name : String
  deriving DecidableEq, Repr

structure ArchivedStub where
  stub : Stub
  start : Address
  stop : Address
  entries : List Address
  deriving DecidableEq, Repr

structure Archive where
  kind : Phase
  slots : List (Option Slot)
  addresses : List Address
  current : Option Stub
  deriving DecidableEq, Repr

namespace Archive

def create (kind : Phase) : Archive := ⟨kind, List.replicate kind.stubCount none, [], none⟩

def slot? (a : Archive) (index : Nat) : Option Slot := (a.slots[index]?).join

def storedCount (a : Archive) : Nat := a.slots.countP Option.isSome

def slotIndex (a : Archive) (stub : Stub) : Except Fault Nat :=
  if stub.phase = a.kind then .ok stub.localIndex
  else .error (.wrongPhase stub a.kind stub.phase)

/-- Looks a stub up. A hit makes it current, a miss leaves no stub current. -/
def find (stub : Stub) (a : Archive) : Except Fault (Bool × Archive) :=
  match a.slotIndex stub with
  | .error fault => .error fault
  | .ok index =>
    let hit := (a.slot? index).isSome
    .ok (hit, { a with current := if hit then some stub else none })

/-- The current stub and its run, provided that the slot carries the name of the stub. -/
def currentRun (a : Archive) : Except Fault (Stub × Run) :=
  match a.current with
  | none => .error .noCurrentStub
  | some stub =>
    match a.slotIndex stub with
    | .error fault => .error fault
    | .ok index =>
      match a.slot? index with
      | none => .error .noCurrentStub
      | some slot =>
        if slot.name = stub.name then .ok (stub, slot.run)
        else .error (.stubNameMismatch stub.name slot.name)

def addressAt (a : Archive) (position : Nat) : Except Fault Address :=
  match a.addresses[position]? with
  | some address => .ok address
  | none => .error (.abort .outOfBounds)

def addressesIn (a : Archive) (first bound : Nat) : Except Fault (List Address) :=
  if bound ≤ a.addresses.length then .ok ((a.addresses.drop first).take (bound - first))
  else .error (.abort .outOfBounds)

def retrieve (extra : Nat) (a : Archive) : Except Fault ArchivedStub := do
  let (stub, run) ← a.currentRun
  let available ← run.extraCount
  if available < extra then
    .error (.entryOutOfRange stub extra run.count)
  else
    let start ← a.addressAt run.first
    let stop ← a.addressAt run.last
    let entries ← a.addressesIn (run.first + 1) (run.first + 1 + extra)
    .ok ⟨stub, start, stop, entries⟩

def retrieveAll (a : Archive) : Except Fault ArchivedStub := do
  let (_, run) ← a.currentRun
  let available ← run.extraCount
  a.retrieve available

/-- One entry point of the current stub. Its position in the run is a 64-bit number. -/
def entry (index : UInt64) (a : Archive) : Except Fault Address := do
  let (stub, run) ← a.currentRun
  if index.toNat + 1 = UInt64.size then
    .error (.abort .addition)
  else
    let available ← run.extraCount
    if available < index.toNat + 1 then
      .error (.entryOutOfRange stub index.toNat run.count)
    else
      a.addressAt (run.first + (index.toNat + 1))

def nextRun (a : Archive) (extras : List Address) : Run :=
  ⟨a.addresses.length, extras.length + 2⟩

/-- Fills the slot of a stub. Of two faults the one of the slot is named before one of an address,
and start before end before entry points. -/
def store (stub : Stub) (start stop : Address) (extras : List Address) (a : Archive) :
    Except Fault Archive :=
  match a.slotIndex stub with
  | .error fault => .error fault
  | .ok index =>
    if (a.slot? index).isSome then .error (.slotAlreadySet stub)
    else if start.isNull then .error (.nullAddress stub .start)
    else if stop.isNull then .error (.nullAddress stub .stop)
    else if extras.any Address.isNull then .error (.nullAddress stub .entry)
    else .ok { a with
      addresses := a.addresses ++ start :: extras ++ [stop]
      slots := a.slots.set index (some ⟨a.nextRun extras, stub.name⟩) }

def storeWithEntry (stub : Stub) (start entry stop : Address) (a : Archive) :
    Except Fault Archive := a.store stub start stop [entry]

def storeWithTwoEntries (stub : Stub) (start first second stop : Address) (a : Archive) :
    Except Fault Archive := a.store stub start stop [first, second]

theorem length_slots_create (kind : Phase) : (create kind).slots.length = kind.stubCount := by
  simp [create]

theorem slot?_create (kind : Phase) (index : Nat) : (create kind).slot? index = none := by
  unfold slot? create
  simp only [List.getElem?_replicate]
  split <;> rfl

end Archive

end RuntimeStubs
