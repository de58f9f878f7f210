import RuntimeStubs.Scenario.World

/-! Running a scenario.

`Command.run` follows the nesting of commands and bodies. A phase is entered before its body runs
and left after a body that succeeds; a body ends at its first failing step, unless it is to keep
going. Whatever happens to a session, its archive and its buffer return to the world. -/

set_option autoImplicit false

namespace RuntimeStubs.Scenario

/-- A session that is under way: its generator, the identity of its registry, and the world without
its archive and its buffer. -/
structure Stage where
  world : World
  generator : Generator Buffer (List HookCall)
  registry : Nat

namespace Stage

variable {α : Type}

def session (action : Action (Session Buffer (List HookCall)) α) : Action Stage α := fun stage =>
  match action ⟨stage.generator, stage.world.registryAt stage.registry, stage.world.log⟩ with
  | (result, session) =>
    (result, { stage with
      generator := session.toGenerator
      world := { stage.world.setRegistry stage.registry session.registry with
        log := session.log } })

def onWorld (action : Action World α) : Action Stage α :=
  Action.focus (fun stage => stage.world) (fun world stage => { stage with world := world }) action

end Stage

open Stage in
def SessionOperation.run : SessionOperation → Action Stage Answer
  | openStub group name => do
    let mark ← session (Session.openStub group name)
    onWorld (Action.modify fun w => { w.addHandle mark.handle with marks := w.marks ++ [some mark] })
    return .mark mark
  | closeStub index => do
    let stage ← Action.get
    match (stage.world.marks[index]?).join with
    | none => return .missing .mark
    | some mark => do
      onWorld (Action.modify fun w => { w with marks := w.marks.set index none })
      let d ← session (Session.closeStub mark)
      return .descriptor d
  | emit code => do
    let entries ← session (Session.onSink (Emission.runAll code))
    let stage ← Action.get
    return .emitted entries stage.generator.sink.pc
  | generate number extra code => do
    let stub ← World.stub number
    let entries ← session (Session.generate stub extra (Emission.runAll code))
    return .entries? (some entries)
  | hydrate number extra => do
    let stub ← World.stub number
    let entries ← session (Session.hydrate? stub extra)
    return .entries? entries
  | commit number start stop extras => do
    let stub ← World.stub number
    session (Session.commit stub start stop extras)
    return .nothing
  | published => do
    let stage ← Action.get
    return .count stage.generator.published
  | registrySize => do
    let stage ← Action.get
    return .count (stage.world.registryAt stage.registry).size
  | sink => do
    let stage ← Action.get
    return .sink stage.generator.sink

def ListenerKind.listener : ListenerKind → Listener
  | silent => Listener.silent
  | logging => .logging
  | recording wantsCode => .watching fun _ => wantsCode

def ListenerKind.kept (events : List Event) : ListenerKind → Option (List Event)
  | recording _ => some events
  | silent | logging => none

namespace HookKind

def emitting (code : List Emission) : Action (Buffer × List HookCall) Unit := do
  let _ ← Action.focus Prod.fst (fun buffer s => (buffer, s.2)) (Emission.runAll code)

def keep {τ : Type} (call : HookCall) : Action (τ × List HookCall) Unit :=
  Action.modify fun s => (s.1, s.2 ++ [call])

def hooks : HookKind → Hooks Buffer (List HookCall)
  | standard => Hooks.standard
  | prolog code => { Hooks.standard with prolog := fun _ => emitting code }
  | recording code =>
    { prolog := fun d => do
        keep (.prolog d)
        emitting code
      epilog := fun buffer d listing s =>
        (.ok (), (s.1 ++ [.epilog d listing (buffer.codeBytes d.start d.stopOrStart)], s.2)) }

def kept (calls : List HookCall) : HookKind → Option (List HookCall)
  | recording _ => some calls
  | standard | prolog _ => none

end HookKind

namespace World

def onBootstrap {α : Type} (id : Nat) (site : BootstrapSite)
    (action : Action BootstrapState α) : Action World α := fun w =>
  match action ⟨site.bootstrap, w.registryAt site.registry, w.log⟩ with
  | (result, shared) =>
    (result, { w.setRegistry site.registry shared.registry with
      sites := w.sites.set id { site with bootstrap := shared.bootstrap }
      log := shared.log })

def resources (setup : Setup) (w : World) : Except Missing (Buffer × Option Archive) :=
  match setup.archive with
  | none =>
    match lookup setup.buffer w.buffers with
    | some buffer => .ok (buffer, none)
    | none => .error .buffer
  | some name =>
    match lookup name w.archives, lookup setup.buffer w.buffers with
    | none, _ => .error .archive
    | some _, none => .error .buffer
    | some archive, some buffer => .ok (buffer, some archive)

def withdraw (setup : Setup) (w : World) : World :=
  { w with
    buffers := erase setup.buffer w.buffers
    archives := setup.archive.elim w.archives fun name => erase name w.archives }

def giveBack (setup : Setup) (generator : Generator Buffer (List HookCall)) (w : World) : World :=
  let w := w.putBuffer setup.buffer generator.sink
  match setup.archive, generator.archive with
  | some name, some archive => w.putArchive name archive
  | _, _ => w

end World

structure BodyResult where
  steps : List (Except Fault Answer)
  fault : Option Fault

def sessionAnswer (setup : Setup) (hooks : HookKind) (body : BodyResult)
    (standing : Option (Nat × Bool)) (generator : Generator Buffer (List HookCall)) : Answer :=
  .session body.fault body.steps standing (setup.listener.kept generator.events)
    (hooks.kept generator.memory) generator.sink.pc

def standingOf (generator : Generator Buffer (List HookCall)) : Option (Nat × Bool) :=
  some (generator.published, generator.archive.isSome)

def runGenerator (registry : Nat) (setup : Setup) (hooks : HookKind) (listing : Bool)
    (body : Stage → BodyResult × Stage) : Action World Answer := fun w =>
  match w.resources setup with
  | .error what => (.ok (.missing what), w)
  | .ok (buffer, archive) =>
    let generator := Generator.create buffer hooks.hooks [] archive setup.listener.listener listing
    match body ⟨w.withdraw setup, generator, w.registryId registry⟩ with
    | (result, stage) =>
      (.ok (sessionAnswer setup hooks result (standingOf stage.generator) stage.generator),
        stage.world.giveBack setup stage.generator)

/-- What follows the body of a phase. Only a body that succeeds lets the phase be left. -/
def endPhase (kind : Phase) (setup : Setup) (id : Nat) (result : BodyResult)
    (generator : Generator Buffer (List HookCall)) : Action World Answer := fun w =>
  match result.fault, w.sites[id]? with
  | none, some site =>
    match World.onBootstrap id site (BootstrapState.leave kind generator.published) w with
    | (left, w) =>
      let fault := match left with
        | .ok _ => none
        | .error fault => some fault
      (.ok (sessionAnswer setup .standard ⟨result.steps, fault⟩ (standingOf generator) generator), w)
  | _, _ => (.ok (sessionAnswer setup .standard result (standingOf generator) generator), w)

/-- Runs a phase of the bootstrap in the world, with `body` as its body. Should the body make
another bootstrap, the phase still belongs to the one it was entered in. -/
def runPhase (kind : Phase) (setup : Setup) (body : Stage → BodyResult × Stage) :
    Action World Answer := fun w =>
  match w.resources setup, w.site.bind fun id => (w.sites[id]?).map fun site => (id, site) with
  | .error what, _ => (.ok (.missing what), w)
  | .ok _, none => (.ok (.missing .bootstrap), w)
  | .ok (buffer, archive), some (id, site) =>
    let generator := Generator.create buffer HookKind.standard.hooks [] archive
      setup.listener.listener site.bootstrap.listing
    match World.onBootstrap id site (BootstrapState.enter kind (archive.map Archive.kind)) w with
    | (.error fault, w) =>
      (.ok (sessionAnswer setup .standard ⟨[], some fault⟩ none generator), w)
    | (.ok _, w) =>
      match body ⟨w.withdraw setup, generator, site.registry⟩ with
      | (result, stage) =>
        endPhase kind setup id result stage.generator (stage.world.giveBack setup stage.generator)

mutual

def Command.run : Command → Action World Answer
  | .operation operation => operation.run
  | .phase kind setup body => runPhase kind setup (runBody setup.keepGoing body)
  | .generator registry setup hooks listing body =>
    runGenerator registry setup hooks listing (runBody setup.keepGoing body)

def BodyStep.run : BodyStep → Action Stage Answer
  | .session operation => operation.run
  | .outer command => Stage.onWorld command.run

def runBody (keepGoing : Bool) : List BodyStep → Stage → BodyResult × Stage
  | [], stage => (⟨[], none⟩, stage)
  | step :: rest, stage =>
    match step.run stage with
    | (.error fault, stage) =>
      if keepGoing then
        match runBody keepGoing rest stage with
        | (result, stage) => (⟨.error fault :: result.steps, result.fault⟩, stage)
      else (⟨[.error fault], some fault⟩, stage)
    | (.ok answer, stage) =>
      match runBody keepGoing rest stage with
      | (result, stage) => (⟨.ok answer :: result.steps, result.fault⟩, stage)

end

def runAll : List Command → World → List (Except Fault Answer) × World
  | [], w => ([], w)
  | command :: rest, w =>
    match command.run w with
    | (result, w) =>
      match runAll rest w with
      | (results, w) => (result :: results, w)

/-- Runs a scenario from the beginning and answers with its results and with what was reported at
the given rank or below. -/
def run (limit : Nat) (commands : List Command) : List (Except Fault Answer) × List Diagnostic :=
  match runAll commands (World.create (Filter.upTo limit)) with
  | (results, w) => (results, w.log.records)

end RuntimeStubs.Scenario
