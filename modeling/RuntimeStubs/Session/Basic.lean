import RuntimeStubs.Archive
import RuntimeStubs.Listener
import RuntimeStubs.Registry
import RuntimeStubs.Sink

/-! Generators of stubs and the sessions in which they work.

A generator writes into one sink and owns its archive, hooks, listener and the count of what it has
published. A session is a generator together with the registry and the log, which it shares with
others between its own steps. This module holds the types and the single steps that touch one part
of a session each. -/

set_option autoImplicit false

namespace RuntimeStubs

/-- What happens around the code of every stub. The prolog may emit code, which then lies in front
of the stub. The epilog sees the finished descriptor and whether a listing is wanted, and cannot
refuse the stub. Both may keep something in mind. -/
structure Hooks (σ η : Type) where
  prolog : Descriptor → Action (σ × η) Unit
  epilog : σ → Descriptor → Bool → η × Log → Except Abort Unit × (η × Log)

/-- No prolog; the epilog reports the descriptor with the code that the sink holds for it. -/
def Hooks.standard {σ η : Type} [Sink σ] : Hooks σ η where
  prolog _ := pure ()
  epilog sink d listing both :=
    match both.2.describe d (Sink.codeBytes sink d.start d.stopOrStart) listing with
    | (result, log) => (result, (both.1, log))

structure Mark where
  handle : Handle
  name : String
  deriving DecidableEq, Repr

structure StubEntries where
  stub : Stub
  start : Address
  stop : Address
  entries : List Address
  hydrated : Bool
  deriving DecidableEq, Repr

structure Generator (σ η : Type) where
  sink : σ
  hooks : Hooks σ η
  memory : η
  archive : Option Archive
  listener : Listener
  listing : Bool
  active : Option Handle
  published : Nat
  events : List Event

namespace Generator

variable {σ η : Type}

def create (sink : σ) (hooks : Hooks σ η) (memory : η) (archive : Option Archive)
    (listener : Listener) (listing : Bool) : Generator σ η :=
  ⟨sink, hooks, memory, archive, listener, listing, none, 0, []⟩

end Generator

structure Session (σ η : Type) extends Generator σ η where
  registry : Registry
  log : Log

namespace Session

variable {σ η α : Type}

/-- The group of every stub that belongs to a phase. -/
def routinesGroup : String := "StubRoutines"

def onSink (action : Action σ α) : Action (Session σ η) α :=
  Action.focus (fun s => s.sink) (fun sink s => { s with sink := sink }) action

def onLog (action : Action Log α) : Action (Session σ η) α :=
  Action.focus (fun s => s.log) (fun log s => { s with log := log }) action

def onRegistry (change : Registry → Except Fault (α × Registry)) : Action (Session σ η) α :=
  fun s =>
    match change s.registry with
    | .ok (value, registry) => (.ok value, { s with registry := registry })
    | .error fault => (.error fault, s)

def descriptor (handle : Handle) : Action (Session σ η) Descriptor := fun s =>
  (s.registry.descriptor handle, s)

def report (d : Diagnostic) : Action (Session σ η) Unit :=
  Action.modify fun s => { s with log := s.log.report d }

def tell (event : Event) (s : Session σ η) : Session σ η :=
  { s with events := s.events ++ [event], log := s.listener.receive event s.log }

def tellAll (events : List Event) (s : Session σ η) : Session σ η :=
  events.foldl (fun s event => s.tell event) s

def publish (d : Descriptor) : Action (Session σ η) Unit :=
  Action.modify fun s =>
    let s := { s with published := s.published + 1 }.tell (.registered d.name d.start d.stopOrStart)
    if s.listener.wantsCode s.log s.events then s.tell (.posted d.name d.start d.stopOrStart)
    else s

def describe (d : Descriptor) (code : Option (List UInt8)) : Action (Session σ η) Unit := do
  let s ← Action.get
  onLog (Action.aborting (Log.describe d code s.listing))

def runProlog (d : Descriptor) : Action (Session σ η) Unit := do
  let s ← Action.get
  Action.focus (fun s => (s.sink, s.memory))
    (fun both s => { s with sink := both.1, memory := both.2 }) (s.hooks.prolog d)

def runEpilog (d : Descriptor) : Action (Session σ η) Unit := do
  let s ← Action.get
  Action.focus (fun s => (s.memory, s.log))
    (fun both s => { s with memory := both.1, log := both.2 })
    (Action.aborting (s.hooks.epilog s.sink d s.listing))

section

variable [Sink σ]

def flush : Action (Session σ η) Unit := onSink Sink.flush

def pc : Action (Session σ η) Address := do
  let s ← Action.get
  return Sink.pc s.sink

/-- The distance of an address from the base of the sink. Below the base it counts as zero, with a
warning. -/
def displacement (start : Address) : Action (Session σ η) Nat := do
  let s ← Action.get
  match start.offsetFrom (Sink.base s.sink) with
  | some offset => return offset
  | none =>
    report (.belowBase start (Sink.base s.sink))
    return 0

end

end Session

end RuntimeStubs
