import RuntimeStubs.Log
import RuntimeStubs.Registry

/-! The order of the phases of a bootstrap.

A phase is entered at most once and only when the phases it requires are done; between `enter` and
`leave` it is running. A phase whose body fails is never left and stays running. The registry is
frozen when the final phase is done and the compiler phase is not running: leaving the later of the
two freezes it, and entering a delayed compiler phase after the freeze reopens it. -/

set_option autoImplicit false

namespace RuntimeStubs

inductive PhaseStatus where
  | pending
  | running
  | done
  deriving DecidableEq, Repr

structure Bootstrap where
  /-- Compiler stubs may come after the final phase. -/
  delayed : Bool
  listing : Bool
  status : Phase → PhaseStatus

namespace Bootstrap

def create (delayed listing : Bool) : Bootstrap := ⟨delayed, listing, fun _ => .pending⟩

def isGenerated (b : Bootstrap) (kind : Phase) : Bool := b.status kind == .done

def withStatus (kind : Phase) (status : PhaseStatus) (b : Bootstrap) : Bootstrap :=
  { b with status := fun other => if other = kind then status else b.status other }

def missing? (b : Bootstrap) (kind : Phase) : Option Phase :=
  (kind.requires b.delayed).find? fun required => b.status required != .done

def check (kind : Phase) (archive : Option Phase) (b : Bootstrap) : Except Fault Unit :=
  if archive.any fun actual => actual != kind then
    .error (.archiveKindMismatch kind (archive.getD kind))
  else if b.status kind ≠ .pending then .error (.phaseAlreadyGenerated kind)
  else
    match b.missing? kind with
    | some required => .error (.phaseOrder kind required)
    | none => .ok ()

end Bootstrap

structure BootstrapState where
  bootstrap : Bootstrap
  registry : Registry
  log : Log

/-- Changes the registry and reports the change, unless it is refused. -/
def Registry.reported (change : Registry → Except Fault Registry)
    (diagnostic : Registry → Diagnostic) : Action (Registry × Log) Unit := fun s =>
  match change s.1 with
  | .ok registry => (.ok (), (registry, s.2.report (diagnostic registry)))
  | .error fault => (.error fault, s)

def Registry.freezing : Action (Registry × Log) Unit :=
  reported freeze fun registry => .frozen registry.size

def Registry.unfreezing : Action (Registry × Log) Unit := reported unfreeze fun _ => .unfrozen

namespace BootstrapState

def report (d : Diagnostic) : Action BootstrapState Unit :=
  Action.modify fun s => { s with log := s.log.report d }

def onRegistry (action : Action (Registry × Log) Unit) : Action BootstrapState Unit :=
  Action.focus (fun s => (s.registry, s.log))
    (fun both s => { s with registry := both.1, log := both.2 }) action

def setStatus (kind : Phase) (status : PhaseStatus) : Action BootstrapState Unit :=
  Action.modify fun s => { s with bootstrap := s.bootstrap.withStatus kind status }

def enter (kind : Phase) (archive : Option Phase) : Action BootstrapState Unit := do
  let s ← Action.get
  Action.ofExcept (s.bootstrap.check kind archive)
  if kind = .compiler ∧ s.registry.frozen = true then do
    report .reopening
    onRegistry Registry.unfreezing
  setStatus kind .running
  report (.phaseStarted kind)

/-- Whether nothing more is to be registered. -/
def isOver (b : Bootstrap) : Bool :=
  b.status .final == .done && b.status .compiler != .running

def leave (kind : Phase) (published : Nat) : Action BootstrapState Unit := do
  report (.phaseDone kind published)
  setStatus kind .done
  let s ← Action.get
  if isOver s.bootstrap = true ∧ s.registry.frozen = false then
    onRegistry Registry.freezing

end BootstrapState

end RuntimeStubs
