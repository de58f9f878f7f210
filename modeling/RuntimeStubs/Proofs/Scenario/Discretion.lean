import RuntimeStubs.Proofs.Scenario.Worlds

/-! Scenarios that report more or less.

A scenario run with more levels taken by the log, or with code listed by more of its sessions,
answers the same and leaves the same registries, archives and buffers. Main statement
(`run_discreet`): so do any two runs of it; a log of fewer levels is the part of the log of all
levels that has them, and listing the code of more sessions inserts reports of level `info` and
nothing else. -/

set_option autoImplicit false

namespace RuntimeStubs.Scenario

open RuntimeStubs.Action

variable {allowed : Prop} {L : Log → Log → Prop} {α : Type}

/-! ### Hooks -/

instance : BoundedSink Buffer where
  fits {buffer} := by
    cases buffer with
    | code buffer => exact CodeBuffer.fits_of_codeBytes
    | scripted sink => simp [Sink.codeBytes, Buffer.codeBytes]

def SameCalls (first second : List HookCall) : Prop :=
  first.map HookCall.plain = second.map HookCall.plain

theorem SameCalls.append {first second : List HookCall} (same : SameCalls first second)
    {call other : HookCall} (plain : call.plain = other.plain) :
    SameCalls (first ++ [call]) (second ++ [other]) := by
  rw [SameCalls, List.map_append, List.map_append, same, List.map_singleton, List.map_singleton,
    plain]

namespace HookKind

-- What is emitted does not depend on what is kept.
theorem emitting_apply (code : List Emission) (buffer : Buffer) (calls : List HookCall) :
    emitting code (buffer, calls) = ((Emission.runAll code buffer).1.map fun _ => (),
      (Emission.runAll code buffer).2, calls) := by
  rw [emitting, bind_apply, focus_apply]
  cases (Emission.runAll code buffer).1 <;> rfl

theorem discreet_hooks (louder : Louder allowed L) (kind : HookKind) :
    kind.hooks.Discreet allowed L SameCalls := by
  cases kind with
  | standard => exact Hooks.discreet_standard louder
  | prolog code =>
    refine Hooks.discreet_of_standard louder rfl ?_
    intro d sink memory other same
    simp only [hooks, emitting_apply]
    exact ⟨trivial, trivial, same⟩
  | recording code =>
    refine ⟨?_, ?_⟩
    · intro d sink memory other same
      simp only [hooks, keep, modify_bind, emitting_apply]
      exact ⟨trivial, trivial, same.append rfl⟩
    · intro sink d first second memory other quiet loud _ same logs
      exact ⟨rfl, same.append rfl, logs⟩

end HookKind

/-! ### Stages -/

/-- The second stage is the first, but more may have been reported, and its session and the sites of
its world may list code. -/
def Stage.Discreet (allowed : Prop) (L : Log → Log → Prop) (listener : Listener) (a b : Stage) :
    Prop :=
  ∃ world generator, a.world.Discreet allowed L world ∧
    a.generator.Discreet allowed L SameCalls listener generator ∧
    b = { a with world := world, generator := generator }

namespace Stage

variable {listener : Listener}

theorem discreet_session {action : Action (Session Buffer (List HookCall)) α}
    (couples : Couples (Session.Discreet allowed L SameCalls listener) action action) :
    Couples (Stage.Discreet allowed L listener) (Stage.session action) (Stage.session action) := by
  rintro ⟨w, g, id⟩ _ ⟨_, h, ⟨sites, log, related, logs, rfl⟩, generators, rfl⟩
  obtain ⟨same, sessions⟩ := couples _ _ (generators (w.registryAt id) w.log log logs)
  obtain ⟨-, -, -, registry⟩ := sessions.same
  refine ⟨same, _, _, ⟨sites, _, related, sessions.varies.log, ?_⟩, sessions.generator, rfl⟩
  simp only [Stage.session] at registry ⊢
  rw [show World.registryAt id { w with sites := sites, log := log } = w.registryAt id from rfl,
    registry]
  rfl

theorem discreet_onWorld {action other : Action World α}
    (couples : Couples (World.Discreet allowed L) action other) :
    Couples (Stage.Discreet allowed L listener) (onWorld action) (onWorld other) := by
  rintro ⟨w, g, id⟩ _ ⟨v, h, worlds, generators, rfl⟩
  obtain ⟨same, worlds⟩ := couples w v worlds
  exact ⟨same, _, h, worlds, generators, rfl⟩

theorem Discreet.shown {a b : Stage} (related : Stage.Discreet allowed L listener a b) :
    b.world.registries = a.world.registries ∧ b.world.marks = a.world.marks ∧
      b.registry = a.registry ∧ b.generator.sink = a.generator.sink ∧
      b.generator.published = a.generator.published := by
  obtain ⟨_, h, ⟨sites, log, -, logs, rfl⟩, generators, rfl⟩ := related
  obtain ⟨sink, -, published, -⟩ := (generators .empty _ _ logs).same
  exact ⟨rfl, rfl, rfl, sink, published⟩

end Stage

open Stage in
theorem SessionOperation.discreet_run {listener : Listener} (louder : Louder allowed L)
    (operation : SessionOperation) :
    Couples (Stage.Discreet allowed L listener) operation.run operation.run := by
  have archives : Session.Archives (Session.Discreet allowed L SameCalls listener :
      Session Buffer (List HookCall) → Session Buffer (List HookCall) → Prop) :=
    Session.archives_discreet louder
  have pures (answer : Answer) :
      Couples (Stage.Discreet allowed L listener) (pure answer) (pure answer) := Couples.pure answer
  cases operation with
  | openStub group name =>
    refine (discreet_session (archives.openStub group name)).bind fun mark => ?_
    exact (discreet_onWorld (World.discreet_modify fun _ _ _ => rfl)).bind fun _ => pures _
  | closeStub index =>
    refine Couples.get fun a b related => ?_
    rw [related.shown.2.1]
    cases (a.world.marks[index]?).join with
    | none => exact pures _ a b related
    | some mark =>
      refine (discreet_onWorld (World.discreet_modify fun _ _ _ => rfl)).bind (fun _ => ?_) a b
        related
      exact (discreet_session (archives.closeStub mark)).bind fun d => pures _
  | emit code =>
    refine (discreet_session (Session.discreet_onSink _)).bind fun entries => ?_
    refine Couples.get fun a b related => ?_
    rw [related.shown.2.2.2.1]
    exact pures _ a b related
  | generate number extra code =>
    refine (World.couples_stub number).bind fun stub => ?_
    exact (discreet_session (archives.generate (Session.discreet_onSink _))).bind fun _ => pures _
  | hydrate number extra =>
    refine (World.couples_stub number).bind fun stub => ?_
    exact (discreet_session (archives.hydrate? (archives.lookUp stub))).bind fun _ => pures _
  | commit number start stop extras =>
    refine (World.couples_stub number).bind fun stub => ?_
    refine (discreet_session fun s t related => ?_).bind fun _ => pures _
    exact archives.toBridges.commit (archives.archiveStub stub start stop extras s t related)
  | published =>
    refine Couples.get fun a b related => ?_
    rw [related.shown.2.2.2.2]
    exact pures _ a b related
  | registrySize =>
    refine Couples.get fun a b related => ?_
    obtain ⟨registries, -, registry, -⟩ := related.shown
    rw [registry, World.registryAt, World.registryAt, registries]
    exact pures _ a b related
  | sink =>
    refine Couples.get fun a b related => ?_
    rw [related.shown.2.2.2.1]
    exact pures _ a b related

/-! ### Sessions of a world -/

/-- The same answer in plain sight, or the same fault, in related states. -/
def Agree {σ : Type} (R : σ → σ → Prop) (x y : Except Fault Answer × σ) : Prop :=
  x.1.map Answer.plain = y.1.map Answer.plain ∧ R x.2 y.2

theorem agree_of_coupled {σ : Type} {R : σ → σ → Prop} {x y : Except Fault Answer × σ}
    (coupled : Coupled R x y) : Agree R x y := ⟨congrArg _ coupled.1, coupled.2⟩

/-- Bodies that come to the same, step by step. -/
def BodiesAgree (allowed : Prop) (L : Log → Log → Prop)
    (first second : Stage → BodyResult × Stage) : Prop :=
  ∀ listener a b, Stage.Discreet allowed L listener a b →
    Answer.plainAll (first a).1.steps = Answer.plainAll (second b).1.steps ∧
      (first a).1.fault = (second b).1.fault ∧
      Stage.Discreet allowed L listener (first a).2 (second b).2

namespace World

theorem Discreet.log {w v : World} (related : w.Discreet allowed L v) : L w.log v.log := by
  obtain ⟨_, _, -, logs, rfl⟩ := related
  exact logs

theorem Discreet.sitesAt {w v : World} (related : w.Discreet allowed L v) (id : Nat) :
    Option.Rel (BootstrapSite.Discreet allowed) w.sites[id]? v.sites[id]? := by
  obtain ⟨_, _, sites, -, rfl⟩ := related
  exact forall₂_getElem? sites id

theorem Discreet.resources {w v : World} (related : w.Discreet allowed L v) (setup : Setup) :
    v.resources setup = w.resources setup := by
  obtain ⟨_, _, -, -, rfl⟩ := related
  rfl

theorem Discreet.withdraw {w v : World} (related : w.Discreet allowed L v) (setup : Setup) :
    (w.withdraw setup).Discreet allowed L (v.withdraw setup) :=
  (discreet_modify (fun _ _ _ => rfl) w v related).2

theorem Discreet.giveBack {w v : World} (related : w.Discreet allowed L v) (setup : Setup)
    {listener : Listener} {g h : Generator Buffer (List HookCall)}
    (generators : g.Discreet allowed L SameCalls listener h) :
    (w.giveBack setup g).Discreet allowed L (v.giveBack setup h) := by
  obtain ⟨sink, archive, -⟩ := (generators .empty _ _ related.log).same
  have same (v : World) : v.giveBack setup h = v.giveBack setup g := by
    simp only [World.giveBack, show h.sink = g.sink from sink,
      show h.archive = g.archive from archive]
  rw [same]
  refine (discreet_modify (f := fun w => w.giveBack setup g) ?_ w v related).2
  intro w sites log
  cases name : setup.archive <;> cases attached : g.archive <;>
    simp only [World.giveBack, name, attached] <;> rfl

theorem discreet_onBootstrap (id : Nat) {site other : BootstrapSite}
    (sameSite : site.Discreet allowed other) {action : Action BootstrapState α}
    (couples : Couples (BootstrapState.Discreet allowed L) action action) :
    Couples (Discreet allowed L) (onBootstrap id site action) (onBootstrap id other action) := by
  rintro w v ⟨sites, log, related, logs, rfl⟩
  obtain ⟨listing, switched, rfl⟩ := sameSite
  obtain ⟨same, listed, after, switches, logs, state⟩ :=
    couples ⟨site.bootstrap, w.registryAt site.registry, w.log⟩
      ⟨{ site.bootstrap with listing := listing }, w.registryAt site.registry, log⟩
      ⟨listing, log, switched, logs, rfl⟩
  refine ⟨same, _, after, forall₂_set related ⟨listed, switches, rfl⟩ id, logs, ?_⟩
  simp only [onBootstrap]
  rw [show registryAt site.registry { w with sites := sites, log := log } =
    w.registryAt site.registry from rfl, state]
  rfl

end World

/-- Only a listener that logs can have been told more, and what it is told is not kept. -/
theorem kept_events {kind : ListenerKind} {g h : Generator Buffer (List HookCall)}
    {quiet loud : Log} (generators : g.Discreet allowed L SameCalls kind.listener h)
    (logs : L quiet loud) : kind.kept h.events = kind.kept g.events := by
  have told := (generators .empty _ _ logs).varies.events
  cases kind with
  | silent | logging => rfl
  | recording wants => exact congrArg some (told.resolve_left (by simp [ListenerKind.listener]))

theorem sessionAnswer_plain {setup : Setup} (hooks : HookKind) {first second : BodyResult}
    (steps : Answer.plainAll first.steps = Answer.plainAll second.steps)
    (fault : first.fault = second.fault) {g h : Generator Buffer (List HookCall)} {quiet loud : Log}
    (generators : g.Discreet allowed L SameCalls setup.listener.listener h) (logs : L quiet loud)
    (state : Option (Nat × Bool)) :
    (sessionAnswer setup hooks first state g).plain =
      (sessionAnswer setup hooks second state h).plain := by
  have related := generators .empty _ _ logs
  have calls : (hooks.kept g.memory).map (List.map HookCall.plain) =
      (hooks.kept h.memory).map (List.map HookCall.plain) := by
    cases hooks with
    | standard | prolog => rfl
    | recording code => exact congrArg some related.varies.memory
  simp only [sessionAnswer, Answer.plain, steps, fault, calls, kept_events generators logs,
    show h.sink = g.sink from related.same.1]

theorem standingOf_same {listener : Listener} {g h : Generator Buffer (List HookCall)}
    {quiet loud : Log} (generators : g.Discreet allowed L SameCalls listener h)
    (logs : L quiet loud) : standingOf h = standingOf g := by
  obtain ⟨-, archive, published, -⟩ := (generators .empty _ _ logs).same
  simp only [standingOf, show h.archive = g.archive from archive,
    show h.published = g.published from published]

theorem runGenerator_discreet (louder : Louder allowed L) (registry : Nat) (setup : Setup)
    (hooks : HookKind) {listing other : Bool} (switched : Switched allowed listing other)
    {first second : Stage → BodyResult × Stage} (bodies : BodiesAgree allowed L first second)
    {w v : World} (related : w.Discreet allowed L v) :
    Agree (World.Discreet allowed L) (runGenerator registry setup hooks listing first w)
      (runGenerator registry setup hooks other second v) := by
  rw [runGenerator, runGenerator, related.resources]
  cases w.resources setup with
  | error what => exact ⟨rfl, related⟩
  | ok found =>
    obtain ⟨buffer, archive⟩ := found
    have sameId : v.registryId registry = w.registryId registry := by
      obtain ⟨_, _, -, -, rfl⟩ := related
      rfl
    have stages : Stage.Discreet allowed L setup.listener.listener
        ⟨w.withdraw setup, Generator.create buffer hooks.hooks [] archive setup.listener.listener
          listing, w.registryId registry⟩
        ⟨v.withdraw setup, Generator.create buffer hooks.hooks [] archive setup.listener.listener
          other, w.registryId registry⟩ :=
      ⟨_, _, related.withdraw setup, Generator.discreet_create (hooks.discreet_hooks louder)
        (Eq.refl _ : SameCalls [] []) switched buffer archive, rfl⟩
    have agreed := bodies _ _ _ stages
    simp only [sameId]
    generalize first _ = x at agreed ⊢
    generalize second _ = y at agreed ⊢
    obtain ⟨⟨result, stage⟩, ⟨outcome, final⟩⟩ := x, y
    obtain ⟨steps, fault, world, generator, worlds, generators, rfl⟩ := agreed
    refine ⟨?_, worlds.giveBack setup generators⟩
    simp only [Except.map, standingOf_same generators worlds.log]
    rw [sessionAnswer_plain hooks steps fault generators worlds.log]

theorem BootstrapSite.Discreet.switched {site other : BootstrapSite}
    (same : site.Discreet allowed other) :
    Switched allowed site.bootstrap.listing other.bootstrap.listing := by
  obtain ⟨_, switched, rfl⟩ := same
  exact switched

theorem BootstrapSite.Discreet.registry {site other : BootstrapSite}
    (same : site.Discreet allowed other) : other.registry = site.registry := by
  obtain ⟨_, _, rfl⟩ := same
  rfl

theorem endPhase_discreet (louder : Louder allowed L) (kind : Phase) (setup : Setup) (id : Nat)
    {first second : BodyResult}
    (steps : Answer.plainAll first.steps = Answer.plainAll second.steps)
    (fault : first.fault = second.fault) {g h : Generator Buffer (List HookCall)}
    (generators : g.Discreet allowed L SameCalls setup.listener.listener h) {w v : World}
    (related : w.Discreet allowed L v) :
    Agree (World.Discreet allowed L) (endPhase kind setup id first g w)
      (endPhase kind setup id second h v) := by
  have published : h.published = g.published := (generators .empty _ _ related.log).same.2.2.1
  have answers {results others : BodyResult}
      (steps : Answer.plainAll results.steps = Answer.plainAll others.steps)
      (fault : results.fault = others.fault) :
      (sessionAnswer setup .standard results (standingOf g) g).plain =
        (sessionAnswer setup .standard others (standingOf g) h).plain :=
    sessionAnswer_plain .standard steps fault generators related.log _
  have sites := related.sitesAt id
  rw [endPhase, endPhase, standingOf_same generators related.log, published, ← fault]
  generalize w.sites[id]? = site at sites ⊢
  generalize v.sites[id]? = other at sites ⊢
  cases first.fault with
  | some what => exact ⟨congrArg Except.ok (answers steps fault), related⟩
  | none =>
    cases sites with
    | none => exact ⟨congrArg Except.ok (answers steps fault), related⟩
    | some sameSite =>
      have left := World.discreet_onBootstrap id sameSite
        (BootstrapState.discreet_leave louder kind g.published) w v related
      dsimp only
      generalize World.onBootstrap id _ _ w = x at left ⊢
      generalize World.onBootstrap id _ _ v = y at left ⊢
      obtain ⟨⟨left, w⟩, ⟨_, v⟩⟩ := x, y
      obtain ⟨rfl, related⟩ := left
      exact ⟨congrArg Except.ok (answers steps rfl), related⟩

theorem runPhase_discreet (louder : Louder allowed L) (kind : Phase) (setup : Setup)
    {first second : Stage → BodyResult × Stage} (bodies : BodiesAgree allowed L first second)
    {w v : World} (related : w.Discreet allowed L v) :
    Agree (World.Discreet allowed L) (runPhase kind setup first w)
      (runPhase kind setup second v) := by
  have sameSite := related.site?
  rw [World.site?, World.site?] at sameSite
  rw [runPhase, runPhase, related.resources]
  generalize (w.site.bind fun id => (w.sites[id]?).map fun site => (id, site)) = here at sameSite ⊢
  generalize (v.site.bind fun id => (v.sites[id]?).map fun site => (id, site)) = there
    at sameSite ⊢
  cases w.resources setup with
  | error what => cases sameSite <;> exact ⟨rfl, related⟩
  | ok found =>
    obtain ⟨buffer, archive⟩ := found
    cases sameSite with
    | none => exact ⟨rfl, related⟩
    | @some a b same =>
      obtain ⟨id, site⟩ := a
      obtain ⟨other, sameSite, rfl⟩ := same
      have created : (Generator.create buffer HookKind.standard.hooks [] archive
            setup.listener.listener site.bootstrap.listing).Discreet allowed L SameCalls
          setup.listener.listener (Generator.create buffer HookKind.standard.hooks [] archive
            setup.listener.listener other.bootstrap.listing) :=
        Generator.discreet_create (HookKind.standard.discreet_hooks louder) (Eq.refl _)
          sameSite.switched buffer archive
      have entered := World.discreet_onBootstrap id sameSite
        (BootstrapState.discreet_enter louder kind (archive.map Archive.kind)) w v related
      dsimp only
      generalize World.onBootstrap id site _ w = x at entered ⊢
      generalize World.onBootstrap id other _ v = y at entered ⊢
      obtain ⟨⟨result, w⟩, ⟨_, v⟩⟩ := x, y
      obtain ⟨rfl, related⟩ := entered
      cases result with
      | error fault =>
        refine ⟨congrArg Except.ok ?_, related⟩
        exact sessionAnswer_plain .standard rfl rfl created related.log none
      | ok _ =>
        have stages : Stage.Discreet allowed L setup.listener.listener
            ⟨w.withdraw setup, Generator.create buffer HookKind.standard.hooks [] archive
              setup.listener.listener site.bootstrap.listing, site.registry⟩
            ⟨v.withdraw setup, Generator.create buffer HookKind.standard.hooks [] archive
              setup.listener.listener other.bootstrap.listing, other.registry⟩ :=
          ⟨_, _, related.withdraw setup, created, by rw [sameSite.registry]⟩
        have agreed := bodies _ _ _ stages
        dsimp only
        generalize first _ = x at agreed ⊢
        generalize second _ = y at agreed ⊢
        obtain ⟨⟨result, stage⟩, ⟨outcome, final⟩⟩ := x, y
        obtain ⟨steps, fault, world, generator, worlds, generators, rfl⟩ := agreed
        exact endPhase_discreet louder kind setup id steps fault generators
          (worlds.giveBack setup generators)

/-! ### Commands and bodies -/

mutual

theorem Command.discreet_run (louder : Louder allowed L) : ∀ {command other : Command},
    command.Louder allowed other → ∀ {w v : World}, w.Discreet allowed L v →
      Agree (World.Discreet allowed L) (command.run w) (other.run v)
  | _, _, .operation operation, w, v, related => by
    rw [Command.run]
    exact agree_of_coupled (operation.discreet_run louder w v related)
  | _, _, .newBootstrap registry delayed switched, w, v, related => by
    rw [Command.run, Command.run]
    exact agree_of_coupled (newBootstrap_discreet registry delayed switched w v related)
  | _, _, .phase kind setup bodies, w, v, related => by
    rw [Command.run, Command.run]
    exact runPhase_discreet louder kind setup (runBody_discreet louder setup.keepGoing bodies)
      related
  | _, _, .generator registry setup hooks switched bodies, w, v, related => by
    rw [Command.run, Command.run]
    exact runGenerator_discreet louder registry setup hooks switched
      (runBody_discreet louder setup.keepGoing bodies) related

theorem BodyStep.discreet_run (louder : Louder allowed L) : ∀ {step other : BodyStep},
    step.Louder allowed other → ∀ {listener : Listener} {s t : Stage},
      Stage.Discreet allowed L listener s t →
        Agree (Stage.Discreet allowed L listener) (step.run s) (other.run t)
  | _, _, .session operation, listener, s, t, related => by
    rw [BodyStep.run]
    exact agree_of_coupled (operation.discreet_run louder s t related)
  | _, _, .outer same, listener, s, t, related => by
    obtain ⟨v, generator, worlds, generators, rfl⟩ := related
    rw [BodyStep.run, BodyStep.run]
    obtain ⟨answers, worlds⟩ := Command.discreet_run louder same worlds
    exact ⟨answers, _, generator, worlds, generators, rfl⟩

theorem runBody_discreet (louder : Louder allowed L) (keepGoing : Bool) :
    ∀ {body other : List BodyStep}, BodyStep.AllLouder allowed body other →
      BodiesAgree allowed L (runBody keepGoing body) (runBody keepGoing other)
  | _, _, .nil, listener, s, t, related => by
    rw [runBody, runBody]
    exact ⟨rfl, rfl, related⟩
  | _, _, @BodyStep.AllLouder.cons _ step other rest others same more, listener, s, t, related => by
    have stepped := BodyStep.discreet_run louder same related
    rw [runBody, runBody]
    generalize step.run s = x at stepped ⊢
    generalize other.run t = y at stepped ⊢
    obtain ⟨⟨first, s⟩, ⟨second, t⟩⟩ := x, y
    obtain ⟨answers, related⟩ := stepped
    obtain ⟨steps, faults, final⟩ := runBody_discreet louder keepGoing more listener s t related
    cases first with
    | ok answer =>
      cases second with
      | error fault => cases answers
      | ok answer' =>
        have plain : answer.plain = answer'.plain := Except.ok.inj answers
        exact ⟨by simp only [Answer.plainAll, plain, steps], faults, final⟩
    | error fault =>
      cases second with
      | ok answer' => cases answers
      | error fault' =>
        cases answers
        cases keepGoing with
        | true => exact ⟨by simp only [if_true, Answer.plainAll_cons, steps], faults, final⟩
        | false => exact ⟨rfl, rfl, related⟩

end

/-! ### Runs -/

theorem runAll_couples (louder : Louder allowed L) {commands others : List Command}
    (same : List.Forall₂ (Command.Louder allowed) commands others) {w v : World}
    (related : w.Discreet allowed L v) :
    Answer.plainAll (runAll commands w).1 = Answer.plainAll (runAll others v).1 ∧
      (runAll commands w).2.Discreet allowed L (runAll others v).2 := by
  induction same generalizing w v with
  | nil => exact ⟨rfl, related⟩
  | @cons command other rest others same _ ih =>
    have stepped := Command.discreet_run louder same related
    rw [runAll, runAll]
    generalize command.run w = x at stepped ⊢
    generalize other.run v = y at stepped ⊢
    obtain ⟨⟨first, w⟩, ⟨second, v⟩⟩ := x, y
    obtain ⟨answers, related⟩ := stepped
    obtain ⟨results, related⟩ := ih related
    refine ⟨?_, related⟩
    rw [Answer.plainAll_cons, Answer.plainAll_cons, results]
    exact congrArg (· :: _) answers

def BootstrapSite.plain (site : BootstrapSite) : BootstrapSite :=
  { site with bootstrap := { site.bootstrap with listing := false } }

/-- A world without what has been reported and without which of its sites list code. -/
def World.plain (w : World) : World :=
  { w with sites := w.sites.map BootstrapSite.plain, log := Log.create (.upTo 0) }

theorem map_plain {sites others : List BootstrapSite}
    (related : List.Forall₂ (BootstrapSite.Discreet allowed) sites others) :
    sites.map BootstrapSite.plain = others.map BootstrapSite.plain := by
  induction related with
  | nil => rfl
  | cons same _ ih =>
    obtain ⟨_, -, rfl⟩ := same
    rw [List.map_cons, List.map_cons, ih]
    rfl

theorem World.Discreet.plain {w v : World} (related : w.Discreet allowed L v) :
    w.plain = v.plain := by
  obtain ⟨sites, log, related, -, rfl⟩ := related
  rw [World.plain, World.plain, map_plain related]

def final (limit : Nat) (commands : List Command) : World :=
  (runAll commands (World.create (.upTo limit))).2

theorem run_couples {limit higher : Nat} (le : limit ≤ higher) {commands others : List Command}
    (same : List.Forall₂ (Command.Louder allowed) commands others) :
    Answer.plainAll (run limit commands).1 = Answer.plainAll (run higher others).1 ∧
      (final limit commands).Discreet allowed (Overheard allowed limit higher)
        (final higher others) :=
  runAll_couples (louder_overheard allowed le) same ⟨[], _, .nil, Overheard.create, rfl⟩

-- What two runs have in common is the run of the same scenario that lists and keeps nothing.
theorem run_couples_unlisted (limit : Nat) (commands : List Command) :
    Answer.plainAll (run 0 (commands.map Command.unlisted)).1 =
        Answer.plainAll (run limit commands).1 ∧
      (final 0 (commands.map Command.unlisted)).plain = (final limit commands).plain := by
  have louder : List.Forall₂ (Command.Louder True) (commands.map Command.unlisted) commands :=
    List.forall₂_map_left_iff.mpr (List.forall₂_same.mpr fun command _ =>
      command.louder_unlisted)
  obtain ⟨results, worlds⟩ := run_couples (Nat.zero_le limit) louder
  exact ⟨results, worlds.plain⟩

/-- Two runs of scenarios that differ in which sessions list code, under two limits of the log,
answer the same and end in the same world. If nothing differs but the limit, the log of the lower
limit has the records of the other that are within it. If the second lists more and the limits are
the same, its log has additional records of level `info`. -/
theorem run_discreet {commands others : List Command}
    (same : commands.map Command.unlisted = others.map Command.unlisted) (limit other : Nat) :
    Answer.plainAll (run limit commands).1 = Answer.plainAll (run other others).1 ∧
      (final limit commands).plain = (final other others).plain ∧
      (commands = others → limit ≤ other →
        (run limit commands).2 =
          (run other others).2.filter fun d => decide (d.level.rank ≤ limit)) ∧
      (limit = other → List.Forall₂ (Command.Louder True) commands others →
        Interspersed True (run limit commands).2 (run other others).2) := by
  obtain ⟨quietResults, quietWorld⟩ := run_couples_unlisted limit commands
  obtain ⟨results, world⟩ := run_couples_unlisted other others
  refine ⟨?_, ?_, ?_, ?_⟩
  · rw [← quietResults, ← results, same]
  · rw [← quietWorld, ← world, same]
  · rintro rfl le
    have unchanged : List.Forall₂ (Command.Louder False) commands commands :=
      List.forall₂_same.mpr fun command _ => Command.Louder.refl command
    have overheard := (run_couples le unchanged).2.log
    exact overheard.records.eq_of_not not_false
  · rintro rfl louder
    exact (run_couples (Nat.le_refl limit) louder).2.log.interspersed

def oneRoutine (listing : Bool) : List Command :=
  [.operation (.newBuffer "code" ⟨0x1000⟩ 64), .operation (.newBootstrap 0 false listing),
    .phase .initial ⟨"code", none, .logging, false⟩
      [.session (.openStub "Boot" "first"), .session (.emit [.instruction .ret]),
        .session (.closeStub 0)]]

-- The listing of the routine is the one additional record.
theorem run_discreet_oneRoutine :
    (oneRoutine false).map Command.unlisted = (oneRoutine true).map Command.unlisted ∧
      Interspersed True (run 3 (oneRoutine false)).2 (run 3 (oneRoutine true)).2 ∧
      (run 3 (oneRoutine true)).2.length = (run 3 (oneRoutine false)).2.length + 1 ∧
      (run 3 (oneRoutine true)).2 =
        (run 5 (oneRoutine true)).2.filter fun d => decide (d.level.rank ≤ 3) := by
  have same : (oneRoutine false).map Command.unlisted = (oneRoutine true).map Command.unlisted :=
    rfl
  have louder : List.Forall₂ (Command.Louder True) (oneRoutine false) (oneRoutine true) :=
    .cons (.operation _) (.cons (.newBootstrap 0 false (switched_off true))
      (.cons (.phase .initial _ (.cons (.session _) (.cons (.session _) (.cons (.session _) .nil))))
        .nil))
  exact ⟨same, (run_discreet same 3 3).2.2.2 rfl louder, by decide +kernel,
    (run_discreet rfl 3 5).2.2.1 rfl (by decide)⟩

end RuntimeStubs.Scenario
