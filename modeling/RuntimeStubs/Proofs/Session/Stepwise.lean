import RuntimeStubs.Session.Generation

/-! Operations of a session, one step at a time.

Sessions share the registry and the log. A computation that others may interrupt is a chain of
steps, each of which sees the state as it is by then (`Stepwise`). The operations are written out
here so that each of their accesses to the registry is a step of its own; without interruption they
are the operations of a session (`run_generateSteps`). -/

set_option autoImplicit false

namespace RuntimeStubs

inductive Stepwise (σ α : Type) where
  | done (result : Except Fault α)
  /-- The state moves on, and what comes next depends on what has been found. -/
  | step (move : σ → σ) (next : σ → Stepwise σ α)

namespace Stepwise

variable {σ α β : Type}

def bind (f : α → Stepwise σ β) : Stepwise σ α → Stepwise σ β
  | done (.ok value) => f value
  | done (.error fault) => done (.error fault)
  | step move next => step move fun s => (next s).bind f

instance : Monad (Stepwise σ) where
  pure value := done (.ok value)
  bind computation f := computation.bind f

def fail (fault : Fault) : Stepwise σ α := done (.error fault)

def atom (action : Action σ α) : Stepwise σ α :=
  step (fun s => (action s).2) fun s => done (action s).1

def run : Stepwise σ α → Action σ α
  | done result => fun s => (result, s)
  | step move next => fun s => (next s).run (move s)

@[simp] theorem run_pure (value : α) : (pure value : Stepwise σ α).run = pure value := rfl

@[simp] theorem run_fail (fault : Fault) :
    (fail fault : Stepwise σ α).run = Action.fail fault := rfl

@[simp] theorem run_atom (action : Action σ α) : (atom action).run = action := rfl

@[simp] theorem run_bind (computation : Stepwise σ α) (f : α → Stepwise σ β) :
    (computation >>= f).run = computation.run >>= fun value => (f value).run := by
  funext s
  induction computation generalizing s with
  | done result => cases result <;> rfl
  | step move next ih => exact ih s (move s)

end Stepwise

namespace Session

open Stepwise (atom)

variable {σ η : Type} [Sink σ]

def openStubSteps (group name : String) : Stepwise (Session σ η) Mark := do
  let s ← atom Action.get
  match s.active with
  | some handle => .fail (.nestedStub (((s.registry.get? handle).map Descriptor.name).getD "") name)
  | none => do
    atom flush
    let place ← atom pc
    let handle ← atom (onRegistry (Registry.register group name place none))
    let d ← atom (descriptor handle)
    atom (runProlog d)
    atom flush
    let start ← atom pc
    let _ ← atom (onRegistry (Registry.setStart handle start))
    atom (Action.modify fun s => { s with active := some handle })
    atom (report (.generating group name))
    return ⟨handle, name⟩

theorem run_openStubSteps (group name : String) :
    (openStubSteps group name : Stepwise (Session σ η) Mark).run = openStub group name := by
  rw [openStubSteps, openStub, Stepwise.run_bind]
  congr 1
  funext s
  cases s.active <;>
    simp only [Stepwise.run_bind, Stepwise.run_atom, Stepwise.run_fail, Stepwise.run_pure]

def closeStubSteps (mark : Mark) : Stepwise (Session σ η) Descriptor := do
  let s ← atom Action.get
  if s.active ≠ some mark.handle then .fail (.markMismatch mark.name)
  else do
    atom flush
    let stop ← atom pc
    let opened ← atom (descriptor mark.handle)
    let offset ← atom (displacement opened.start)
    let d ← atom (onRegistry (Registry.finish mark.handle stop offset))
    atom (Action.modify fun s => { s with active := none })
    atom (runEpilog d)
    atom (publish d)
    return d

theorem run_closeStubSteps (mark : Mark) :
    (closeStubSteps mark : Stepwise (Session σ η) Descriptor).run = closeStub mark := by
  rw [closeStubSteps, closeStub, Stepwise.run_bind]
  congr 1
  funext s
  split <;> simp only [Stepwise.run_bind, Stepwise.run_atom, Stepwise.run_fail, Stepwise.run_pure]

def adoptSteps (name : String) (start stop : Address) : Stepwise (Session σ η) Descriptor := do
  let handle ← atom (onRegistry (Registry.register routinesGroup name start (some stop)))
  let offset ← atom (displacement start)
  let d ← atom (onRegistry (Registry.markHydrated handle offset))
  atom (describe d none)
  atom (publish d)
  return d

theorem run_adoptSteps (name : String) (start stop : Address) :
    (adoptSteps name start stop : Stepwise (Session σ η) Descriptor).run =
      adopt name start stop := by
  simp only [adoptSteps, adopt, Stepwise.run_bind, Stepwise.run_atom, Stepwise.run_pure]

def hydrateSteps (stub : Stub) (extra : Nat) :
    Stepwise (Session σ η) (Option StubEntries) := do
  match ← atom (lookUp stub) with
  | none => return none
  | some archived =>
    if archived.entries.length ≠ extra then
      .fail (.entryCountMismatch stub extra archived.entries.length)
    else do
      let d ← adoptSteps stub.name archived.start archived.stop
      atom (report (.hydrated d.name))
      return some ⟨stub, archived.start, archived.stop, archived.entries, true⟩

theorem run_hydrateSteps (stub : Stub) (extra : Nat) :
    (hydrateSteps stub extra : Stepwise (Session σ η) (Option StubEntries)).run =
      hydrate? stub extra := by
  rw [hydrateSteps, hydrate?, Stepwise.run_bind]
  congr 1
  funext archived?
  cases archived? with
  | none => rfl
  | some archived =>
    dsimp only
    split <;>
      simp only [Stepwise.run_bind, Stepwise.run_atom, Stepwise.run_fail, Stepwise.run_pure,
        run_adoptSteps]

def commitSteps (stub : Stub) (start stop : Address) (extras : List Address) :
    Stepwise (Session σ η) Unit := do
  atom (archiveStub stub start stop extras)
  atom (Action.modify (tellAll ((start :: extras).map Event.address)))

def generateSteps (stub : Stub) (extra : Nat) (emit : Action σ (List Address)) :
    Stepwise (Session σ η) StubEntries := do
  match ← hydrateSteps stub extra with
  | some entries => return entries
  | none => do
    let mark ← openStubSteps routinesGroup stub.name
    let entries ← atom (onSink emit)
    if entries.length ≠ extra then
      .fail (.entryCountMismatch stub extra entries.length)
    else do
      let d ← closeStubSteps mark
      commitSteps stub d.start d.stopOrStart entries
      return ⟨stub, d.start, d.stopOrStart, entries, false⟩

theorem run_generateSteps (stub : Stub) (extra : Nat) (emit : Action σ (List Address)) :
    (generateSteps stub extra emit : Stepwise (Session σ η) StubEntries).run =
      generate stub extra emit := by
  rw [generateSteps, generate, Stepwise.run_bind, run_hydrateSteps]
  congr 1
  funext hydrated?
  cases hydrated? with
  | some entries => rfl
  | none =>
    simp only [Stepwise.run_bind, Stepwise.run_atom, run_openStubSteps]
    congr 1
    funext mark
    congr 1
    funext entries
    split
    · rfl
    · simp only [Stepwise.run_bind, Stepwise.run_pure, Stepwise.run_atom, run_closeStubSteps,
        commitSteps, commit]

end Session

end RuntimeStubs
