import RuntimeStubs.Bootstrap
import RuntimeStubs.Session.Generation

/-! Workers that carry a phase through.

A worker enters its phase, generates one stub after the other and leaves the phase; a fault ends its
work. `Worker.step` is one such step. Two workers over the same bootstrap take their steps in any
order that a schedule gives, and then run to their ends. -/

set_option autoImplicit false

namespace RuntimeStubs

/-- A stub to generate: how many further entry points it has, and how its code is emitted. -/
structure Task (σ : Type) where
  stub : Stub
  extra : Nat
  emit : Action σ (List Address)

inductive Progress where
  | waiting
  | working
  | finished
  | failed (fault : Fault)
  deriving DecidableEq, Repr

structure Worker (σ η : Type) where
  kind : Phase
  generator : Generator σ η
  tasks : List (Task σ)
  progress : Progress
  results : List (Except Fault StubEntries)

namespace Worker

variable {σ τ η θ : Type}

def create (kind : Phase) (generator : Generator σ η) (tasks : List (Task σ)) : Worker σ η :=
  ⟨kind, generator, tasks, .waiting, []⟩

section

variable [Sink σ]

def attempt (task : Task σ) (rest : List (Task σ)) (w : Worker σ η) (s : BootstrapState) :
    Worker σ η × BootstrapState :=
  match Session.generate task.stub task.extra task.emit ⟨w.generator, s.registry, s.log⟩ with
  | (result, session) =>
    ({ w with
        generator := session.toGenerator
        tasks := rest
        results := w.results ++ [result]
        progress := match result with
          | .ok _ => .working
          | .error fault => .failed fault },
      { s with registry := session.registry, log := session.log })

def step (w : Worker σ η) (s : BootstrapState) : Worker σ η × BootstrapState :=
  match w.progress with
  | .waiting =>
    match BootstrapState.enter w.kind (w.generator.archive.map Archive.kind) s with
    | (.ok _, s) =>
      ({ w with progress := .working, generator.listing := s.bootstrap.listing }, s)
    | (.error fault, s) => ({ w with progress := .failed fault }, s)
  | .working =>
    match w.tasks with
    | task :: rest => w.attempt task rest s
    | [] =>
      match BootstrapState.leave w.kind w.generator.published s with
      | (.ok _, s) => ({ w with progress := .finished }, s)
      | (.error fault, s) => ({ w with progress := .failed fault }, s)
  | .finished | .failed _ => (w, s)

def steps : Nat → Worker σ η → BootstrapState → Worker σ η × BootstrapState
  | 0, w, s => (w, s)
  | n + 1, w, s =>
    let (w, s) := w.step s
    steps n w s

/-- Enough steps to enter the phase, do every task and leave the phase. -/
def run (w : Worker σ η) (s : BootstrapState) : Worker σ η × BootstrapState :=
  steps (w.tasks.length + 2) w s

/-- Follows a schedule, in which `true` is a step of the first worker and `false` one of the second,
and then lets the first and after it the second run to its end. -/
def interleave [Sink τ] : List Bool → Worker σ η → Worker τ θ → BootstrapState →
    (Worker σ η × Worker τ θ) × BootstrapState
  | [], first, second, s =>
    let (first, s) := first.run s
    let (second, s) := second.run s
    ((first, second), s)
  | true :: schedule, first, second, s =>
    let (first, s) := first.step s
    interleave schedule first second s
  | false :: schedule, first, second, s =>
    let (second, s) := second.step s
    interleave schedule first second s

end

def fault? (w : Worker σ η) : Option Fault :=
  match w.progress with
  | .failed fault => some fault
  | _ => none

end Worker

end RuntimeStubs
