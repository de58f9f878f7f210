import RuntimeStubs.Proofs.Archive.Holding
import RuntimeStubs.Proofs.Session.Steps

/-! What the operations of a session come to.

For each operation that succeeds: what it has found, and what it leaves behind apart from reports. A
stub that is opened and closed and a stub that is adopted end up as one more descriptor in the
registry. Main statement: generating a stub in a session with an archive has two ways to succeed,
one for a stub that the archive holds and one for a stub that it lacks (`generate_ok_cases`). -/

set_option autoImplicit false

namespace RuntimeStubs

theorem Stub.name_ne_empty (stub : Stub) : stub.name ≠ "" := by
  cases stub <;> decide

namespace StubEntries

def archived (e : StubEntries) : ArchivedStub := ⟨e.stub, e.start, e.stop, e.entries⟩

end StubEntries

namespace Session

def complete (base : Address) (name : String) (start stop : Address) (hydrated : Bool) :
    Descriptor :=
  ⟨routinesGroup, name, start, some stop, (start.offsetFrom base).getD 0, hydrated⟩

variable {σ η α : Type} {s t : Session σ η}

theorem onSink_eq_iff {action : Action σ α} {result : Except Fault α} :
    onSink action s = (result, t) ↔
      ∃ sink, action s.sink = (result, sink) ∧ t = { s with sink := sink } := by
  rw [onSink, Action.focus_apply]
  constructor
  · rintro ⟨⟩
    exact ⟨_, rfl, rfl⟩
  · rintro ⟨sink, ran, rfl⟩
    rw [ran]

theorem exists_sink_of_onSink {action : Action σ α} {result : Except Fault α}
    (ran : onSink action s = (result, t)) : ∃ sink, t = { s with sink := sink } := by
  obtain ⟨sink, -, rfl⟩ := onSink_eq_iff.mp ran
  exact ⟨sink, rfl⟩

theorem exists_sink_of_runProlog {d : Descriptor} {result : Except Fault Unit}
    (ran : runProlog d s = (result, t)) :
    ∃ sink memory, t = { s with sink := sink, memory := memory } := by
  cases ran
  exact ⟨_, _, rfl⟩

theorem silent_of_runEpilog {d : Descriptor} {result : Except Fault Unit}
    (ran : runEpilog d s = (result, t)) : s.Silent t := by
  cases ran
  exact silent_runEpilog d s

theorem silent_of_publish {d : Descriptor} {result : Except Fault Unit}
    (ran : publish d s = (result, t)) : s.Silent t := by
  obtain ⟨_, published, silent⟩ := publish_eq d s
  cases published.symm.trans ran
  exact silent

theorem descriptor_eq_ok_iff {handle : Handle} {d : Descriptor} :
    descriptor handle s = (.ok d, t) ↔ s.registry.descriptor handle = .ok d ∧ t = s := by
  rw [descriptor, Prod.mk.injEq, eq_comm (a := s)]

section

variable [Sink σ]

/-! ### Opening and closing a stub -/

-- The descriptor is the last one of the registry when the prolog returns, because neither flushing
-- nor the prolog can reach the registry.
theorem openStub_ok {group name : String} {mark : Mark}
    (opened : openStub group name s = (.ok mark, t)) :
    name ≠ "" ∧ s.registry.frozen = false ∧ mark.handle = ⟨s.registry.size⟩ ∧
      t.archive = s.archive ∧
      t.registry = s.registry.push (.create group name (Sink.pc t.sink) none) ∧
      ∃ sink, Sink.flush sink = (.ok (), t.sink) := by
  rw [openStub, Action.get_bind] at opened
  cases active : s.active with
  | some handle =>
    rw [active] at opened
    cases opened
  | none =>
    rw [active] at opened
    obtain ⟨_, _, flushed, opened⟩ := Action.bind_eq_ok_iff.mp opened
    obtain ⟨_, rfl⟩ := exists_sink_of_onSink flushed
    rw [pc_bind] at opened
    obtain ⟨handle, _, registers, opened⟩ := Action.bind_eq_ok_iff.mp opened
    obtain ⟨_, registered, rfl⟩ := onRegistry_eq_ok_iff.mp registers
    obtain ⟨named, -, unfrozen, rfl, rfl⟩ := Registry.register_eq_ok_iff.mp registered
    obtain ⟨d, _, described, opened⟩ := Action.bind_eq_ok_iff.mp opened
    obtain ⟨-, rfl⟩ := descriptor_eq_ok_iff.mp described
    obtain ⟨_, _, emitted, opened⟩ := Action.bind_eq_ok_iff.mp opened
    obtain ⟨_, _, rfl⟩ := exists_sink_of_runProlog emitted
    obtain ⟨_, _, flushedAgain, opened⟩ := Action.bind_eq_ok_iff.mp opened
    rw [flush, onSink_eq_iff] at flushedAgain
    obtain ⟨sink, flushedAgain, rfl⟩ := flushedAgain
    rw [pc_bind] at opened
    obtain ⟨_, _, moves, opened⟩ := Action.bind_eq_ok_iff.mp opened
    obtain ⟨_, updated, rfl⟩ := onRegistry_eq_ok_iff.mp moves
    obtain ⟨moved, rfl⟩ := Registry.update_push_eq_ok_iff.mp updated
    obtain ⟨-, -, rfl⟩ := Descriptor.setStart_eq_ok_iff.mp moved
    rw [Action.modify_bind, report_bind] at opened
    cases opened
    exact ⟨named, unfrozen, rfl, rfl, rfl, _, flushedAgain⟩

-- Nothing after the flush moves the sink, so the base that the displacement refers to is that of
-- the sink in the end.
theorem closeStub_ok {mark : Mark} {r : Registry} {opened d : Descriptor}
    (registry : s.registry = r.push opened) (handle : mark.handle = ⟨r.size⟩)
    (closed : closeStub mark s = (.ok d, t)) :
    t.archive = s.archive ∧ t.registry = r.push d ∧ ∃ stop, ¬ stop < opened.start ∧
      d = { opened with
        stop := some stop
        displacement := (opened.start.offsetFrom (Sink.base t.sink)).getD 0 } := by
  rw [closeStub, Action.get_bind] at closed
  split at closed
  · cases closed
  · obtain ⟨_, _, flushed, closed⟩ := Action.bind_eq_ok_iff.mp closed
    obtain ⟨sink, rfl⟩ := exists_sink_of_onSink flushed
    rw [pc_bind] at closed
    obtain ⟨found, _, finds, closed⟩ := Action.bind_eq_ok_iff.mp closed
    obtain ⟨isFound, rfl⟩ := descriptor_eq_ok_iff.mp finds
    rw [registry, handle, Registry.descriptor_push, Except.ok.injEq] at isFound
    subst isFound
    obtain ⟨offset, _, displaces, closed⟩ := Action.bind_eq_ok_iff.mp closed
    obtain ⟨_, displaced, silent⟩ := displacement_eq opened.start { s with sink := sink }
    cases displaces.symm.trans displaced
    obtain ⟨_, _, _, _, rfl⟩ := silent
    obtain ⟨_, _, finishes, closed⟩ := Action.bind_eq_ok_iff.mp closed
    obtain ⟨_, updated, rfl⟩ := onRegistry_eq_ok_iff.mp finishes
    dsimp only at updated
    rw [registry, handle] at updated
    obtain ⟨ordered, rfl, rfl⟩ := Registry.finish_push_eq_ok_iff.mp updated
    rw [Action.modify_bind] at closed
    obtain ⟨_, _, ended, closed⟩ := Action.bind_eq_ok_iff.mp closed
    obtain ⟨_, _, _, _, rfl⟩ := silent_of_runEpilog ended
    obtain ⟨_, _, publishes, closed⟩ := Action.bind_eq_ok_iff.mp closed
    obtain ⟨_, _, _, _, rfl⟩ := silent_of_publish publishes
    cases closed
    exact ⟨rfl, rfl, _, ordered, rfl⟩

/-! ### Stubs from the archive -/

theorem adopt_ok {name : String} {start stop : Address} {d : Descriptor}
    (adopted : adopt name start stop s = (.ok d, t)) :
    name ≠ "" ∧ ¬ stop < start ∧ s.registry.frozen = false := by
  obtain ⟨_, _, registers, -⟩ := Action.bind_eq_ok_iff.mp adopted
  obtain ⟨_, registered, -⟩ := onRegistry_eq_ok_iff.mp registers
  obtain ⟨named, ordered, unfrozen, -, -⟩ := Registry.register_eq_ok_iff.mp registered
  exact ⟨named, ordered stop rfl, unfrozen⟩

theorem adopt_eq {name : String} {start stop : Address} (named : name ≠ "")
    (ordered : ¬ stop < start) (unfrozen : s.registry.frozen = false) :
    ∃ t, adopt name start stop s = (.ok (complete (Sink.base s.sink) name start stop true), t) ∧
      Silent { s with
        registry := s.registry.push (complete (Sink.base s.sink) name start stop true) } t := by
  have registered : s.registry.register routinesGroup name start (some stop) =
      .ok (⟨s.registry.size⟩, s.registry.push (.create routinesGroup name start (some stop))) := by
    refine Registry.register_eq_ok_iff.mpr ⟨named, ?_, unfrozen, rfl, rfl⟩
    rintro bound ⟨⟩
    exact ordered
  rw [adopt, Action.bind_of_ok (onRegistry_eq_ok_iff.mpr ⟨_, registered, rfl⟩)]
  obtain ⟨_, displaced, _, _, _, _, rfl⟩ := displacement_eq start { s with
    registry := s.registry.push (.create routinesGroup name start (some stop)) }
  rw [Action.bind_of_ok displaced, Action.bind_of_ok (onRegistry_eq_ok_iff.mpr
    ⟨_, Registry.markHydrated_push s.registry _ _, rfl⟩)]
  obtain ⟨_, described, _, _, _, _, rfl⟩ := describe_none_eq _ _
  rw [Action.bind_of_ok described]
  obtain ⟨_, published, _, _, _, _, rfl⟩ := publish_eq _ _
  rw [Action.bind_of_ok published]
  exact ⟨_, rfl, _, _, _, _, rfl⟩

section

variable {a b : Archive} {stub : Stub} {archived : ArchivedStub} {extra : Nat}

omit [Sink σ] in
theorem lookUp_eq {hit : Bool} (attached : s.archive = some a)
    (found : a.find stub = .ok (hit, b)) :
    ∃ t, lookUp stub s = (if hit then b.retrieveAll.map some else .ok none, t) ∧
      Silent { s with archive := some b } t := by
  refine ⟨{ s with
    archive := some b
    log := s.log.report (.archiveLookup b.kind stub hit) }, ?_, ⟨_, _, _, _, rfl⟩⟩
  cases hit with
  | false => simp [lookUp, attached, found]
  | true =>
    simp only [lookUp, attached, found, if_true]
    cases b.retrieveAll <;> rfl

def hydrated (a : Archive) (archived : ArchivedStub) (s : Session σ η) : Session σ η :=
  { s with
    archive := some { a with current := some archived.stub }
    registry := s.registry.push
      (complete (Sink.base s.sink) archived.stub.name archived.start archived.stop true) }

theorem hydrate?_of_holds (attached : s.archive = some a) (sound : a.Sound)
    (holds : a.Holds archived) (ordered : ¬ archived.stop < archived.start)
    (unfrozen : s.registry.frozen = false) :
    ∃ t, hydrate? archived.stub archived.entries.length s =
        (.ok (some ⟨archived.stub, archived.start, archived.stop, archived.entries, true⟩), t) ∧
      (s.hydrated a archived).Silent t := by
  obtain ⟨t, looked, silent⟩ := lookUp_eq attached holds.find
  rw [if_pos rfl, holds.retrieveAll sound] at looked
  rw [hydrate?, Action.bind_of_ok looked]
  dsimp only
  rw [if_neg (not_not.mpr rfl)]
  have unfrozenStill : t.registry.frozen = false := by
    obtain ⟨_, _, _, _, rfl⟩ := silent
    exact unfrozen
  obtain ⟨u, adopted, silentAgain⟩ := adopt_eq archived.stub.name_ne_empty ordered unfrozenStill
  rw [Action.bind_of_ok adopted, report_bind]
  obtain ⟨_, _, _, _, rfl⟩ := silent
  obtain ⟨_, _, _, _, rfl⟩ := silentAgain
  exact ⟨_, rfl, _, _, _, _, rfl⟩

-- What the archive lacks is not hydrated, and what it holds is hydrated as it is held. In the
-- second case the session is the one that `hydrate?_of_holds` computes, since actions are
-- functions.
theorem hydrate?_ok_cases {result : Option StubEntries} (attached : s.archive = some a)
    (sound : a.Sound) (ran : hydrate? stub extra s = (.ok result, t)) :
    (result = none ∧ ∃ b, a.find stub = .ok (false, b) ∧ Silent { s with archive := some b } t) ∨
      ∃ archived, archived.stub = stub ∧ a.Holds archived ∧ archived.entries.length = extra ∧
        ¬ archived.stop < archived.start ∧ s.registry.frozen = false ∧
        result = some ⟨stub, archived.start, archived.stop, archived.entries, true⟩ ∧
        (s.hydrated a archived).Silent t := by
  obtain ⟨looked?, middle, looks, rest⟩ := Action.bind_eq_ok_iff.mp ran
  cases found : a.find stub with
  | error fault =>
    simp only [lookUp, attached, found] at looks
    cases looks
  | ok found? =>
    obtain ⟨hit, b⟩ := found?
    obtain ⟨_, looked, silent⟩ := lookUp_eq attached found
    rw [looked] at looks
    cases hit with
    | false =>
      cases looks
      cases rest
      exact Or.inl ⟨rfl, b, rfl, silent⟩
    | true =>
      cases retrieved : b.retrieveAll with
      | error fault =>
        rw [if_pos rfl, retrieved] at looks
        cases looks
      | ok archived =>
        rw [if_pos rfl, retrieved] at looks
        cases looks
        obtain ⟨rfl, holds⟩ := (Archive.retrieveAll_eq_ok_iff sound found).mp retrieved
        dsimp only at rest
        split at rest
        · cases rest
        · next count =>
          obtain ⟨d, _, adopts, -⟩ := Action.bind_eq_ok_iff.mp rest
          obtain ⟨-, ordered, unfrozen⟩ := adopt_ok adopts
          obtain ⟨_, _, _, _, rfl⟩ := silent
          obtain ⟨_, again, hydrates⟩ := hydrate?_of_holds attached sound holds ordered unfrozen
          rw [not_not.mp count] at again
          cases again.symm.trans ran
          exact Or.inr ⟨archived, rfl, holds, not_not.mp count, ordered, unfrozen, rfl, hydrates⟩

/-! ### Generating a stub -/

omit [Sink σ] in
theorem commit_ok {start stop : Address} {extras : List Address} (attached : s.archive = some a)
    (committed : commit stub start stop extras s = (.ok (), t)) :
    ∃ b, a.store stub start stop extras = .ok b ∧ Silent { s with archive := some b } t := by
  obtain ⟨_, _, stores, told⟩ := Action.bind_eq_ok_iff.mp committed
  simp only [archiveStub, attached] at stores
  cases stored : a.store stub start stop extras with
  | error fault =>
    rw [stored] at stores
    cases stores
  | ok b =>
    rw [stored] at stores
    cases stores
    cases told
    refine ⟨b, rfl, Silent.trans ?_ (silent_tellAll ..)⟩
    exact ⟨_, _, _, _, rfl⟩

/-- What a fresh stub leaves behind. Its addresses are those of its descriptor, and the archive,
which has just missed it, stores them. -/
structure Fresh (a b : Archive) (stub : Stub) (e : StubEntries) (s t : Session σ η) : Prop where
  stub_eq : e.stub = stub
  hydrated : e.hydrated = false
  missed : a.find stub = .ok (false, { a with current := none })
  stored : Archive.store stub e.start e.stop e.entries { a with current := none } = .ok b
  attached : t.archive = some b
  ordered : ¬ e.stop < e.start
  unfrozen : s.registry.frozen = false
  registry : t.registry =
    s.registry.push (complete (Sink.base t.sink) stub.name e.start e.stop false)

structure Taken (a : Archive) (stub : Stub) (e : StubEntries) (s t : Session σ η) : Prop where
  stub_eq : e.stub = stub
  hydrated : e.hydrated = true
  holds : a.Holds e.archived
  attached : t.archive = some { a with current := some stub }
  ordered : ¬ e.stop < e.start
  unfrozen : s.registry.frozen = false
  sink : t.sink = s.sink
  registry : t.registry =
    s.registry.push (complete (Sink.base s.sink) stub.name e.start e.stop true)

-- A stub is fresh exactly if the look-up misses; the archive then still lacks it when the addresses
-- are committed, as neither opening nor closing a stub touches the archive.
theorem generate_ok_cases {emit : Action σ (List Address)} {e : StubEntries}
    (attached : s.archive = some a) (sound : a.Sound)
    (generated : generate stub extra emit s = (.ok e, t)) :
    e.entries.length = extra ∧ (Taken a stub e s t ∨ ∃ b, Fresh a b stub e s t) := by
  obtain ⟨hydrated?, _, hydrates, rest⟩ := Action.bind_eq_ok_iff.mp generated
  rcases hydrate?_ok_cases attached sound hydrates with
    ⟨rfl, b, missed, silent⟩ |
      ⟨archived, rfl, holds, count, ordered, unfrozen, rfl, silent⟩
  · obtain ⟨-, noHit, rfl⟩ := Archive.find_eq_ok_iff.mp missed
    obtain ⟨_, _, _, _, rfl⟩ := silent
    obtain ⟨mark, opened, opens, rest⟩ := Action.bind_eq_ok_iff.mp rest
    obtain ⟨-, unfrozen, isHandle, sameArchive, registered, -⟩ := openStub_ok opens
    obtain ⟨entries, _, emits, rest⟩ := Action.bind_eq_ok_iff.mp rest
    obtain ⟨sink, rfl⟩ := exists_sink_of_onSink emits
    split at rest
    · cases rest
    · next count =>
      obtain ⟨d, closed, closes, rest⟩ := Action.bind_eq_ok_iff.mp rest
      obtain ⟨archiveKept, finished, stop, ordered, rfl⟩ :=
        closeStub_ok (s := { opened with sink := sink }) registered isHandle closes
      obtain ⟨_, _, commits, rest⟩ := Action.bind_eq_ok_iff.mp rest
      obtain ⟨c, stored, silent⟩ := commit_ok (archiveKept.trans sameArchive) commits
      obtain ⟨_, _, _, _, rfl⟩ := silent
      cases rest
      exact ⟨not_not.mp count,
        Or.inr ⟨c, rfl, rfl, missed, stored, rfl, ordered, unfrozen, finished⟩⟩
  · cases rest
    obtain ⟨_, _, _, _, rfl⟩ := silent
    exact ⟨count, Or.inl ⟨rfl, rfl, holds, rfl, ordered, unfrozen, rfl, rfl⟩⟩

-- A stub that the archive holds is generated without emitting any code: the session reached is the
-- same for every `emit`.
theorem generate_of_holds (attached : s.archive = some a) (sound : a.Sound)
    (holds : a.Holds archived) (ordered : ¬ archived.stop < archived.start)
    (unfrozen : s.registry.frozen = false) :
    ∃ t, (∀ emit, generate archived.stub archived.entries.length emit s =
        (.ok ⟨archived.stub, archived.start, archived.stop, archived.entries, true⟩, t)) ∧
      (s.hydrated a archived).Silent t := by
  obtain ⟨t, hydrates, silent⟩ := hydrate?_of_holds attached sound holds ordered unfrozen
  refine ⟨t, ?_, silent⟩
  intro emit
  rw [generate, Action.bind_of_ok hydrates]
  rfl

end

end

end Session

end RuntimeStubs
