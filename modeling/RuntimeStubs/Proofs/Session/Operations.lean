import RuntimeStubs.Bootstrap.Worker
import RuntimeStubs.Proofs.Session.Steps

/-! Operations of a session as sequences of steps.

What every step respects, every operation respects. Two uses follow: a registry only evolves, and
the base of a sink stays the same if neither flushing nor prolog nor emitted code moves it. -/

set_option autoImplicit false

namespace RuntimeStubs

namespace Session

variable {σ η : Type} [Sink σ]

/-- Attempts every task, one after the other, whatever the earlier ones have come to. -/
def attemptAll : List (Task σ) → Session σ η → List (Except Fault StubEntries) × Session σ η
  | [], s => ([], s)
  | task :: rest, s =>
    let (result, s) := generate task.stub task.extra task.emit s
    let (results, s) := attemptAll rest s
    (result :: results, s)

theorem attemptAll_cons_eq_iff {task : Task σ} {rest : List (Task σ)} {s t : Session σ η}
    {result : Except Fault StubEntries} {results : List (Except Fault StubEntries)} :
    attemptAll (task :: rest) s = (result :: results, t) ↔
      ∃ middle, generate task.stub task.extra task.emit s = (result, middle) ∧
        attemptAll rest middle = (results, t) := by
  constructor
  · intro ran
    cases ran
    exact ⟨_, rfl, rfl⟩
  · rintro ⟨middle, first, others⟩
    simp only [attemptAll, first, others]

namespace Admits

variable {R : Session σ η → Session σ η → Prop}

theorem openStub (admits : Admits R) (group name : String) :
    (Session.openStub group name : Action (Session σ η) Mark).Respects R := by
  apply admits.bind admits.get
  intro s
  cases s.active with
  | some handle => exact admits.fail _
  | none =>
    apply admits.bind admits.flush
    intro _
    apply admits.bind admits.pc
    intro place
    apply admits.bind (admits.onRegistry (.register group name place none) fun _ => rfl)
    intro handle
    apply admits.bind (admits.descriptor handle)
    intro d
    apply admits.bind (admits.prolog d)
    intro _
    apply admits.bind admits.flush
    intro _
    apply admits.bind admits.pc
    intro start
    apply admits.bind (admits.onRegistry (.setStart handle start) fun _ => rfl)
    intro _
    apply admits.bind (admits.setActive (some handle))
    intro _
    exact admits.bind (admits.report _) fun _ => admits.pure _

theorem closeStub (admits : Admits R) (mark : Mark) :
    (Session.closeStub mark : Action (Session σ η) Descriptor).Respects R := by
  apply admits.bind admits.get
  intro s
  split
  · exact admits.fail _
  · apply admits.bind admits.flush
    intro _
    apply admits.bind admits.pc
    intro stop
    apply admits.bind (admits.descriptor mark.handle)
    intro opened
    apply admits.bind (admits.displacement opened.start)
    intro offset
    apply admits.bind (admits.onRegistry (.finish mark.handle stop offset) fun _ => rfl)
    intro d
    apply admits.bind (admits.setActive none)
    intro _
    apply admits.bind fun s => admits.silent (silent_runEpilog d s)
    intro _
    exact admits.bind (admits.publish d) fun _ => admits.pure d

theorem lookUp (admits : Admits R) (stub : Stub) :
    (Session.lookUp stub : Action (Session σ η) (Option ArchivedStub)).Respects R := by
  intro s
  cases attached : s.archive with
  | none =>
    simp only [Session.lookUp, attached]
    exact admits.refl s
  | some a =>
    have asked := admits.request s a (.find stub) attached
    simp only [Session.lookUp, attached]
    rcases found : a.find stub with fault | ⟨hit, b⟩
    -- A stub of another phase is refused before the archive or the log has changed.
    · exact admits.refl s
    · simp only [Archive.serve, found] at asked
      have looked : R s { s with
          archive := some b
          log := s.log.report (.archiveLookup b.kind stub hit) } :=
        admits.trans asked (admits.silent ⟨_, _, _, _, rfl⟩)
      cases hit with
      | false => exact looked
      | true => cases retrieved : b.retrieveAll <;> simpa [retrieved] using looked

theorem adopt (admits : Admits R) (name : String) (start stop : Address) :
    (Session.adopt name start stop : Action (Session σ η) Descriptor).Respects R := by
  apply admits.bind
    (admits.onRegistry (.register routinesGroup name start (some stop)) fun _ => rfl)
  intro handle
  apply admits.bind (admits.displacement start)
  intro offset
  apply admits.bind (admits.onRegistry (.markHydrated handle offset) fun _ => rfl)
  intro d
  apply admits.bind fun s => admits.silent (silent_describe d none s)
  intro _
  exact admits.bind (admits.publish d) fun _ => admits.pure d

theorem hydrate? (admits : Admits R) (stub : Stub) (extra : Nat) :
    (Session.hydrate? stub extra : Action (Session σ η) (Option StubEntries)).Respects R := by
  apply admits.bind (admits.lookUp stub)
  intro archived
  cases archived with
  | none => exact admits.pure none
  | some archived =>
    dsimp only
    split
    · exact admits.fail _
    · apply admits.bind (admits.adopt _ _ _)
      intro d
      exact admits.bind (admits.report _) fun _ => admits.pure _

theorem archiveStub (admits : Admits R) (stub : Stub) (start stop : Address)
    (extras : List Address) :
    (Session.archiveStub stub start stop extras : Action (Session σ η) Unit).Respects R := by
  intro s
  cases attached : s.archive with
  | none =>
    simp only [Session.archiveStub, attached]
    exact admits.refl s
  | some a =>
    have asked := admits.request s a (.store stub start stop extras) attached
    simp only [Session.archiveStub, attached]
    cases accepted : a.store stub start stop extras with
    | error fault => exact admits.refl s
    | ok b =>
      simp only [Archive.serve, accepted, Archive.settle] at asked
      exact admits.trans asked (admits.silent ⟨_, _, _, _, rfl⟩)

theorem commit (admits : Admits R) (stub : Stub) (start stop : Address) (extras : List Address) :
    (Session.commit stub start stop extras : Action (Session σ η) Unit).Respects R :=
  admits.bind (admits.archiveStub stub start stop extras) fun _ s =>
    admits.silent (silent_tellAll _ s)

theorem generate (admits : Admits R) (stub : Stub) (extra : Nat)
    {emit : Action σ (List Address)}
    (emits : (onSink emit : Action (Session σ η) (List Address)).Respects R) :
    (Session.generate stub extra emit : Action (Session σ η) StubEntries).Respects R := by
  apply admits.bind (admits.hydrate? stub extra)
  intro hydrated
  cases hydrated with
  | some entries => exact admits.pure entries
  | none =>
    apply admits.bind (admits.openStub _ _)
    intro mark
    apply admits.bind emits
    intro entries
    split
    · exact admits.fail _
    · apply admits.bind (admits.closeStub mark)
      intro d
      exact admits.bind (admits.commit _ _ _ _) fun _ => admits.pure _

end Admits

/-! ### The registry and the base of the sink -/

-- A session never freezes or unfreezes its registry, and never takes a descriptor out of it.
theorem admits_evolves : Admits fun s t : Session σ η => s.registry.Evolves t.registry where
  refl s := .refl s.registry
  trans := .trans
  silent := by
    rintro s t ⟨_, _, _, _, rfl⟩
    exact .refl s.registry
  flush s := .refl s.registry
  prolog _ s := .refl s.registry
  call s := Registry.evolves_call s.registry
  request s _ _ _ := .refl s.registry
  active s _ := .refl s.registry

structure Steady (base : Address) (hooks : Hooks σ η) : Prop where
  flush : ∀ sink : σ, Sink.base sink = base → Sink.base (Sink.flush sink).2 = base
  prolog : ∀ d (sink : σ) memory, Sink.base sink = base →
    Sink.base (hooks.prolog d (sink, memory)).2.1 = base

/-- The sink of a session with steady hooks starts at an address that stays. -/
def Based (base : Address) (s : Session σ η) : Prop := Steady base s.hooks ∧ Sink.base s.sink = base

theorem admits_based (base : Address) :
    Admits fun s t : Session σ η => s.Based base → t.Based base where
  refl _ := id
  trans first second := second ∘ first
  silent := by
    rintro s t ⟨_, _, _, _, rfl⟩ based
    exact based
  flush s := by
    rintro ⟨steady, isBase⟩
    exact ⟨steady, steady.flush s.sink isBase⟩
  prolog d s := by
    rintro ⟨steady, isBase⟩
    exact ⟨steady, steady.prolog d s.sink s.memory isBase⟩
  call _ _ := id
  request _ _ _ _ := id
  active _ _ := id

end Session

end RuntimeStubs
