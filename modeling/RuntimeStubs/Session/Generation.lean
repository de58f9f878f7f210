import RuntimeStubs.Session.Basic

/-! The operations of a session.

`openStub` and `closeStub` enclose the code of one stub: the first registers a descriptor without an
end, the second completes and publishes it, and only one stub can be open. `hydrate?` takes a stub
from the archive instead, as a descriptor that is complete from the start. `generate` tries the
archive first, and otherwise opens the stub, lets the caller emit its code, closes it and commits
its addresses to the archive. -/

set_option autoImplicit false

namespace RuntimeStubs.Session

variable {σ η : Type} [Sink σ]

/-- Opens a stub. Its range starts behind what the prolog emits. -/
def openStub (group name : String) : Action (Session σ η) Mark := do
  let s ← Action.get
  match s.active with
  | some handle =>
    Action.fail (.nestedStub (((s.registry.get? handle).map Descriptor.name).getD "") name)
  | none => do
    flush
    let place ← pc
    let handle ← onRegistry (Registry.register group name place none)
    let d ← descriptor handle
    runProlog d
    flush
    let start ← pc
    let _ ← onRegistry (Registry.setStart handle start)
    Action.modify fun s => { s with active := some handle }
    report (.generating group name)
    return ⟨handle, name⟩

/-- Closes the open stub, which must be the one of the mark, and publishes it. -/
def closeStub (mark : Mark) : Action (Session σ η) Descriptor := do
  let s ← Action.get
  if s.active ≠ some mark.handle then
    Action.fail (.markMismatch mark.name)
  else do
    flush
    let stop ← pc
    let opened ← descriptor mark.handle
    let offset ← displacement opened.start
    let d ← onRegistry (Registry.finish mark.handle stop offset)
    Action.modify fun s => { s with active := none }
    runEpilog d
    publish d
    return d

def lookUp (stub : Stub) : Action (Session σ η) (Option ArchivedStub) := fun s =>
  match s.archive with
  | none => (.ok none, s)
  | some archive =>
    match archive.find stub with
    | .error fault => (.error fault, s)
    | .ok (hit, archive) =>
      let s := { s with
        archive := some archive
        log := s.log.report (.archiveLookup archive.kind stub hit) }
      if hit then
        match archive.retrieveAll with
        | .ok archived => (.ok (some archived), s)
        | .error fault => (.error fault, s)
      else (.ok none, s)

/-- Registers an archived stub, complete from the start, and publishes it. -/
def adopt (name : String) (start stop : Address) : Action (Session σ η) Descriptor := do
  let handle ← onRegistry (Registry.register routinesGroup name start (some stop))
  let offset ← displacement start
  let d ← onRegistry (Registry.markHydrated handle offset)
  describe d none
  publish d
  return d

/-- Takes a stub from the archive if it is there, with exactly the expected number of further entry
points. -/
def hydrate? (stub : Stub) (extra : Nat) : Action (Session σ η) (Option StubEntries) := do
  match ← lookUp stub with
  | none => return none
  | some archived =>
    if archived.entries.length ≠ extra then
      Action.fail (.entryCountMismatch stub extra archived.entries.length)
    else do
      let d ← adopt stub.name archived.start archived.stop
      report (.hydrated d.name)
      return some ⟨stub, archived.start, archived.stop, archived.entries, true⟩

def archiveStub (stub : Stub) (start stop : Address) (extras : List Address) :
    Action (Session σ η) Unit := fun s =>
  match s.archive with
  | none => (.ok (), s)
  | some archive =>
    match archive.store stub start stop extras with
    | .error fault => (.error fault, s)
    | .ok stored =>
      (.ok (), { s with
        archive := some stored
        log := s.log.report
          (.archived stub start stop extras.length archive.addresses.length) })

/-- Stores the addresses of a fresh stub and publishes its entry addresses, with or without an
archive. -/
def commit (stub : Stub) (start stop : Address) (extras : List Address) :
    Action (Session σ η) Unit := do
  archiveStub stub start stop extras
  Action.modify (tellAll ((start :: extras).map Event.address))

/-- Hydrates a stub or generates it. `emit` writes the code and answers with exactly `extra` further
entry points. -/
def generate (stub : Stub) (extra : Nat) (emit : Action σ (List Address)) :
    Action (Session σ η) StubEntries := do
  match ← hydrate? stub extra with
  | some entries => return entries
  | none => do
    let mark ← openStub routinesGroup stub.name
    let entries ← onSink emit
    if entries.length ≠ extra then
      Action.fail (.entryCountMismatch stub extra entries.length)
    else do
      let d ← closeStub mark
      commit stub d.start d.stopOrStart entries
      return ⟨stub, d.start, d.stopOrStart, entries, false⟩

end RuntimeStubs.Session
