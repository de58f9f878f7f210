import Mathlib.Data.List.Induction
import RuntimeStubs.Proofs.Archive.Extension
import RuntimeStubs.Proofs.Session.Coupling
import RuntimeStubs.Proofs.Session.Restoration

/-! Which code a session emits over its archive.

To count emissions, a task is made to mark the sink before it emits its code (`Task.tallied`). The
marks change nothing else: a session over marked sinks runs in step with the session itself. Main
statement (`attemptAll_settles`): successful attempts emit exactly the stubs that the archive lacks,
each of them once, at the first attempt that asks for it; the archive keeps what it had, gains the
fresh stubs in this order, and answers from then on what the attempts have returned. -/

set_option autoImplicit false

namespace RuntimeStubs

variable {σ η : Type}

/-- A sink with marks of what has been emitted into it. -/
structure Tallied (σ : Type) where
  sink : σ
  marks : List Nat

namespace Tallied

def onSink {α : Type} (action : Action σ α) : Action (Tallied σ) α :=
  Action.focus Tallied.sink (fun sink t => { t with sink := sink }) action

def mark (mark : Nat) : Action (Tallied σ) Unit :=
  Action.modify fun t => { t with marks := t.marks ++ [mark] }

instance [Sink σ] : Sink (Tallied σ) where
  pc t := Sink.pc t.sink
  base t := Sink.base t.sink
  flush := onSink Sink.flush
  codeBytes t := Sink.codeBytes t.sink

end Tallied

def Hooks.tallied (hooks : Hooks σ η) : Hooks (Tallied σ) η where
  prolog d := Action.focus (fun s => (s.1.sink, s.2))
    (fun both s => ({ s.1 with sink := both.1 }, both.2)) (hooks.prolog d)
  epilog t := hooks.epilog t.sink

def Task.tallied (mark : Nat) (task : Task σ) : Task (Tallied σ) where
  stub := task.stub
  extra := task.extra
  emit := do
    Tallied.mark mark
    Tallied.onSink task.emit

def Task.talliedFrom (place : Nat) (tasks : List (Task σ)) : List (Task (Tallied σ)) :=
  (tasks.zipIdx place).map fun (task, place) => task.tallied place

namespace StubEntries

def emittedFrom (place : Nat) (entries : List StubEntries) : List Nat :=
  ((entries.zipIdx place).filter fun (e, _) => !e.hydrated).map Prod.snd

def fresh (entries : List StubEntries) : List StubEntries := entries.filter fun e => !e.hydrated

def deposit (e : StubEntries) : Deposit := ⟨e.stub, e.start, e.entries, e.stop⟩

theorem fresh_cons_of_hydrated {e : StubEntries} (hydrated : e.hydrated = true)
    (rest : List StubEntries) : fresh (e :: rest) = fresh rest :=
  List.filter_cons_of_neg (by simp [hydrated])

theorem fresh_cons_of_emitted {e : StubEntries} (emitted : e.hydrated = false)
    (rest : List StubEntries) : fresh (e :: rest) = e :: fresh rest :=
  List.filter_cons_of_pos (by simp [emitted])

theorem mem_fresh {e : StubEntries} {entries : List StubEntries} :
    e ∈ fresh entries ↔ e ∈ entries ∧ e.hydrated = false := by simp [fresh]

/-- The code of a stub has been emitted if the archive lacked the stub and no earlier attempt had
asked for it. -/
def FirstComeIn (a : Archive) (entries : List StubEntries) : Prop :=
  ∀ {older newer : List StubEntries} {e : StubEntries}, entries = older ++ e :: newer →
    (e.hydrated = false ↔
      a.slot? e.stub.localIndex = none ∧ ∀ earlier ∈ older, earlier.stub ≠ e.stub)

namespace FirstComeIn

variable {a : Archive} {entries : List StubEntries}

theorem init {e : StubEntries} (first : FirstComeIn a (entries ++ [e])) :
    FirstComeIn a entries := by
  intro older newer other split
  have splitAll : entries ++ [e] = older ++ other :: (newer ++ [e]) := by
    rw [split, List.append_assoc, List.cons_append]
  exact first splitAll

-- From the end: the last stub is fresh only if it is not among the earlier ones.
theorem nodup (first : FirstComeIn a entries) : ((fresh entries).map stub).Nodup := by
  induction entries using List.reverseRecOn with
  | nil => exact .nil
  | append_singleton entries e ih =>
    rw [fresh, List.filter_append, ← fresh, ← fresh, List.map_append]
    cases emitted : e.hydrated with
    | true =>
      rw [fresh_cons_of_hydrated emitted]
      simpa [fresh] using ih first.init
    | false =>
      rw [fresh_cons_of_emitted emitted]
      refine List.nodup_append.mpr ⟨ih first.init, List.pairwise_singleton .., ?_⟩
      simp only [List.forall_mem_map, fresh, List.filter_nil, List.mem_singleton, forall_eq]
      intro earlier isFresh
      exact ((first rfl).mp emitted).2 earlier (mem_fresh.mp isFresh).1

-- Of the attempts that ask for a stub the first one counts.
theorem mem_fresh_iff (first : FirstComeIn a entries) {stub : Stub} :
    stub ∈ (fresh entries).map StubEntries.stub ↔
      stub ∈ entries.map StubEntries.stub ∧ a.slot? stub.localIndex = none := by
  constructor
  · intro member
    obtain ⟨e, isFresh, rfl⟩ := List.mem_map.mp member
    obtain ⟨member, emitted⟩ := mem_fresh.mp isFresh
    obtain ⟨older, newer, split⟩ := List.append_of_mem member
    exact ⟨List.mem_map_of_mem member, ((first split).mp emitted).1⟩
  · rintro ⟨member, empty⟩
    obtain ⟨before, after, split, isFirst⟩ := List.eq_append_cons_of_mem member
    obtain ⟨older, rest, rfl, rfl, others⟩ := List.map_eq_append_iff.mp split
    obtain ⟨e, newer, rfl, rfl, -⟩ := List.map_eq_cons_iff.mp others
    refine List.mem_map_of_mem (mem_fresh.mpr ⟨by simp, (first rfl).mpr ⟨empty, ?_⟩⟩)
    intro earlier isEarlier same
    exact isFirst (same ▸ List.mem_map_of_mem isEarlier)

end FirstComeIn

end StubEntries

namespace Session

open RuntimeStubs.Action

def tallied (marks : List Nat) (s : Session σ η) : Session (Tallied σ) η where
  sink := ⟨s.sink, marks⟩
  hooks := s.hooks.tallied
  memory := s.memory
  archive := s.archive
  listener := s.listener
  listing := s.listing
  active := s.active
  published := s.published
  events := s.events
  registry := s.registry
  log := s.log

variable [Sink σ] {s t : Session σ η}

/-! ### Marks change nothing else -/

theorem archives_tallied (marks : List Nat) :
    Archives fun (s : Session σ η) t => t = s.tallied marks where
  registry := by
    rintro s _ rfl
    rfl
  active := by
    rintro s _ rfl
    rfl
  pc := by
    rintro s _ rfl
    rfl
  base := by
    rintro s _ rfl
    rfl
  setRegistry := by
    rintro s _ r rfl
    rfl
  setActive := by
    rintro s _ active rfl
    rfl
  report := by
    rintro s _ d rfl
    rfl
  flush := by
    rintro s _ rfl
    exact ⟨rfl, rfl⟩
  prolog := by
    rintro d s _ rfl
    exact ⟨rfl, rfl⟩
  epilog := by
    rintro d s _ rfl
    exact ⟨rfl, rfl⟩
  describe := by
    rintro d s _ rfl
    exact ⟨rfl, rfl⟩
  publish := by
    rintro d s _ rfl
    refine ⟨rfl, ?_⟩
    simp only [publish, modify_apply, apply_ite (tallied marks)]
    rfl
  address := by
    rintro s _ a rfl
    rfl
  archive := by
    rintro s _ rfl
    rfl
  setArchive := by
    rintro s _ a rfl
    rfl

theorem hydrate?_hydrated {stub : Stub} {extra : Nat} {e : StubEntries}
    (ran : hydrate? stub extra s = (.ok (some e), t)) : e.hydrated = true := by
  cases (hydrate?_ends stub extra s).of_eq ran
  rfl

theorem generateFresh_emitted {stub : Stub} {extra : Nat} {emit : Action σ (List Address)}
    {e : StubEntries} (ran : generateFresh stub extra emit s = (.ok e, t)) :
    e.hydrated = false := by
  obtain ⟨mark, _, -, ran⟩ := bind_eq_ok_iff.mp ran
  obtain ⟨entries, _, -, ran⟩ := bind_eq_ok_iff.mp ran
  split at ran
  · cases ran
  · obtain ⟨d, _, -, ran⟩ := bind_eq_ok_iff.mp ran
    obtain ⟨_, _, -, ran⟩ := bind_eq_ok_iff.mp ran
    cases ran
    rfl

-- Only emitting the code passes from one list of marks to the next.
theorem generate_tallied {task : Task σ} {e : StubEntries} (marks : List Nat) (mark : Nat)
    (ran : generate task.stub task.extra task.emit s = (.ok e, t)) :
    generate task.stub task.extra (task.tallied mark).emit (s.tallied marks) =
      (.ok e, t.tallied (if e.hydrated then marks else marks ++ [mark])) := by
  have before := archives_tallied (σ := σ) (η := η) marks
  have after := archives_tallied (σ := σ) (η := η) (marks ++ [mark])
  have hydrating : Coupled (fun s t => t = s.tallied marks) (hydrate? task.stub task.extra s)
      (hydrate? task.stub task.extra (s.tallied marks)) :=
    before.toBridges.hydrate? (before.lookUp task.stub) s _ rfl
  obtain ⟨same, related⟩ := hydrating
  obtain ⟨hydrated?, middle, hydrates, rest⟩ := bind_eq_ok_iff.mp ran
  rw [hydrates] at same related
  rw [generate_eq, bind_of_ok (Prod.ext same.symm related)]
  cases hydrated? with
  | some found =>
    cases rest
    rw [hydrate?_hydrated hydrates]
    rfl
  | none =>
    let Good (outcome : Except Fault StubEntries × Session σ η) : Prop := outcome.1 = .ok e
    have emits (s : Session σ η) (t : Session (Tallied σ) η) (related : t = s.tallied marks) :
        Coupled (fun (s : Session σ η) t => t = s.tallied (marks ++ [mark])) (onSink task.emit s)
          (onSink (task.tallied mark).emit t) := by
      subst related
      exact ⟨rfl, rfl⟩
    change generateFresh task.stub task.extra task.emit middle = (.ok e, t) at rest
    have generating : Coupled (fun s t => t = s.tallied (marks ++ [mark]))
        (generateFresh task.stub task.extra task.emit middle)
        (generateFresh task.stub task.extra (task.tallied mark).emit (middle.tallied marks)) :=
      before.toBridges.generateFresh after.toBridges (P := Good)
        (fun _ _ _ failed => by cases failed) emits (fun _ _ _ failed => by cases failed)
        (fun _ _ s t _ related _ => after.toBridges.commit (after.archiveStub _ _ _ _ s t related))
        rfl (congrArg Prod.fst rest)
    obtain ⟨same, related⟩ := generating
    rw [rest] at same related
    rw [generateFresh_emitted rest]
    exact Prod.ext same.symm related

theorem attemptAll_tallied {tasks : List (Task σ)} {entries : List StubEntries}
    (marks : List Nat) (place : Nat) (ran : attemptAll tasks s = (entries.map .ok, t)) :
    attemptAll (Task.talliedFrom place tasks) (s.tallied marks) =
      (entries.map .ok, t.tallied (marks ++ StubEntries.emittedFrom place entries)) := by
  induction tasks generalizing s marks place entries with
  | nil =>
    cases entries with
    | nil =>
      cases ran
      exact congrArg (fun marks => ([], tallied marks _)) (List.append_nil marks).symm
    | cons e entries => cases ran
  | cons task rest ih =>
    cases entries with
    | nil => cases ran
    | cons e entries =>
      obtain ⟨middle, generated, ranRest⟩ := attemptAll_cons_eq_iff.mp ran
      refine attemptAll_cons_eq_iff.mpr ⟨_, generate_tallied marks place generated, ?_⟩
      refine (ih _ (place + 1) ranRest).trans ?_
      rw [StubEntries.emittedFrom, StubEntries.emittedFrom]
      cases emitted : e.hydrated <;> simp [emitted]

/-! ### What becomes of the archive -/

/-- A successful attempt finds its stub in the archive or deposits it there. -/
def Provides (e : StubEntries) (a b : Archive) : Prop :=
  e.hydrated = true ∧ a.Holds e.archived ∧ b = { a with current := some e.stub } ∨
    e.hydrated = false ∧
      Archive.store e.stub e.start e.stop e.entries { a with current := none } = .ok b

section

variable {a b : Archive} {e : StubEntries}

theorem generate_provides {task : Task σ} (sound : a.Sound) (attached : s.archive = some a)
    (generated : generate task.stub task.extra task.emit s = (.ok e, t)) :
    ∃ b, t.archive = some b ∧ Provides e a b := by
  obtain ⟨-, taken | ⟨b, fresh⟩⟩ := generate_ok_cases attached sound generated
  · exact ⟨_, taken.attached, Or.inl ⟨taken.hydrated, taken.holds, by rw [taken.stub_eq]⟩⟩
  · refine ⟨b, fresh.attached, Or.inr ⟨fresh.hydrated, ?_⟩⟩
    rw [fresh.stub_eq]
    exact fresh.stored

theorem Provides.emitted_iff (provides : Provides e a b) :
    e.hydrated = false ↔ a.slot? e.stub.localIndex = none := by
  rcases provides with ⟨hydrated, holds, -⟩ | ⟨emitted, stored⟩
  · have filled : (a.slot? e.stub.localIndex).isSome = true := holds.filled
    rw [hydrated, ← Option.isNone_iff_eq_none, ← Option.not_isSome, filled]
    decide
  · exact iff_of_true emitted (Archive.store_eq_ok_iff.mp stored).2.1

theorem Provides.phase (provides : Provides e a b) : e.stub.phase = a.kind ∧ b.kind = a.kind := by
  rcases provides with ⟨-, holds, rfl⟩ | ⟨-, stored⟩
  · exact ⟨holds.1, rfl⟩
  · obtain ⟨phase, -, -, -, -, rfl⟩ := Archive.store_eq_ok_iff.mp stored
    exact ⟨phase, rfl⟩

-- After the attempt the archive lacks what it has lacked before, other than the stub itself.
theorem Provides.empty_iff (provides : Provides e a b) (sound : a.Sound) {stub : Stub}
    (phase : stub.phase = a.kind) :
    b.slot? stub.localIndex = none ↔ a.slot? stub.localIndex = none ∧ e.stub ≠ stub := by
  rcases provides with ⟨-, holds, rfl⟩ | ⟨-, stored⟩
  · refine ⟨fun empty => ⟨empty, ?_⟩, And.left⟩
    rintro rfl
    have filled : (a.slot? e.stub.localIndex).isSome = true := holds.filled
    rw [show a.slot? e.stub.localIndex = none from empty] at filled
    cases filled
  · obtain ⟨samePhase, -, -, -, -, rfl⟩ := Archive.store_eq_ok_iff.mp stored
    by_cases same : e.stub = stub
    · subst same
      rw [Archive.slot?_stored_self (sound.select none (by simp)) samePhase]
      simp
    · rw [Archive.slot?_stored_ne
        fun index => same (Stub.localIndex_inj (samePhase.trans phase.symm) index)]
      exact ⟨fun empty => ⟨empty, same⟩, And.left⟩

theorem Provides.extends (provides : Provides e a b) (sound : a.Sound) {c : Archive}
    {rest : List StubEntries}
    (later : Archive.Extends ((StubEntries.fresh rest).map StubEntries.deposit) b c) :
    Archive.Extends ((StubEntries.fresh (e :: rest)).map StubEntries.deposit) a c := by
  rcases provides with ⟨hydrated, -, rfl⟩ | ⟨emitted, stored⟩
  · rw [StubEntries.fresh_cons_of_hydrated hydrated]
    exact later.select
  · rw [StubEntries.fresh_cons_of_emitted emitted]
    exact Archive.Extends.select (later.store (sound.select none (by simp)) stored)

end

structure Settles (tasks : List (Task σ)) (entries : List StubEntries) (a b : Archive) : Prop where
  requests : entries.map StubEntries.request = tasks.map Task.request
  first : StubEntries.FirstComeIn a entries
  once : ((StubEntries.fresh entries).map StubEntries.stub).Nodup
  lacked : ∀ stub, stub ∈ (StubEntries.fresh entries).map StubEntries.stub ↔
    stub ∈ tasks.map Task.stub ∧ a.slot? stub.localIndex = none
  extended : a.Extends ((StubEntries.fresh entries).map StubEntries.deposit) b
  unchanged : ∀ {index : Nat} {slot : Slot}, a.slot? index = some slot → b.slot? index = some slot
  found : ∀ e ∈ entries,
    ∃ c, b.find e.stub = .ok (true, c) ∧ c.retrieveAll = .ok e.archived

-- Induction on the tasks. Which of the later attempts come first is judged by the archive as the
-- first attempt leaves it.
theorem attemptAll_firstComeIn {tasks : List (Task σ)} {entries : List StubEntries} {a b : Archive}
    (reachable : a.Reachable) (attached : s.archive = some a) (attachedLast : t.archive = some b)
    (ran : attemptAll tasks s = (entries.map .ok, t)) :
    (∀ e ∈ entries, e.stub.phase = a.kind) ∧ StubEntries.FirstComeIn a entries ∧
      a.Extends ((StubEntries.fresh entries).map StubEntries.deposit) b := by
  induction tasks generalizing s a entries with
  | nil =>
    cases entries with
    | nil =>
      cases ran
      cases attached.symm.trans attachedLast
      exact ⟨by simp, fun split => by simp at split, .refl _⟩
    | cons e entries => cases ran
  | cons task rest ih =>
    cases entries with
    | nil => cases ran
    | cons e entries =>
      obtain ⟨middle, generated, ranRest⟩ := attemptAll_cons_eq_iff.mp ran
      obtain ⟨-, -, m, attachedMiddle, reachableMiddle, -⟩ :=
        generate_recorded reachable attached generated
      obtain ⟨same, attachedSame, provides⟩ := generate_provides reachable.sound attached generated
      cases attachedMiddle.symm.trans attachedSame
      obtain ⟨phases, first, extended⟩ := ih reachableMiddle attachedMiddle ranRest
      obtain ⟨phase, kind⟩ := provides.phase
      rw [kind] at phases
      refine ⟨List.forall_mem_cons.mpr ⟨phase, phases⟩, ?_,
        provides.extends reachable.sound extended⟩
      intro older newer other split
      rcases List.cons_eq_append_iff.mp split with ⟨rfl, same⟩ | ⟨others, rfl, inside⟩
      · cases same
        simpa using provides.emitted_iff
      · have member : other ∈ entries := inside ▸ List.mem_append_right _ List.mem_cons_self
        rw [first inside, provides.empty_iff reachable.sound (phases other member),
          List.forall_mem_cons, and_assoc]

/-- Marking the emissions changes nothing, and the marks that are left are those of the stubs that
the archive lacked, at the first attempts that ask for them. -/
theorem attemptAll_settles {tasks : List (Task σ)} {entries : List StubEntries} {a : Archive}
    (reachable : a.Reachable) (attached : s.archive = some a)
    (ran : attemptAll tasks s = (entries.map .ok, t)) :
    attemptAll (Task.talliedFrom 0 tasks) (s.tallied []) =
        (entries.map .ok, t.tallied (StubEntries.emittedFrom 0 entries)) ∧
      ∃ b, t.archive = some b ∧ Settles tasks entries a b := by
  obtain ⟨b, _, recording⟩ := attemptAll_recorded reachable attached ran
  obtain ⟨-, first, extended⟩ :=
    attemptAll_firstComeIn reachable attached recording.attached ran
  have stubs : entries.map StubEntries.stub = tasks.map Task.stub := by
    simpa [Function.comp_def, StubEntries.request, Task.request] using
      congrArg (List.map Prod.fst) recording.requests
  refine ⟨attemptAll_tallied [] 0 ran, b, recording.attached, recording.requests, first,
    first.nodup, ?_, extended, extended.filled, ?_⟩
  · intro stub
    rw [← stubs]
    exact first.mem_fresh_iff
  · intro e member
    have holds := (recording.recorded e member).1
    exact ⟨_, holds.find, holds.retrieveAll recording.reachable.sound⟩

def stocked : Archive := ((Archive.create .initial).serve (.store .fence ⟨0x9000⟩ ⟨0x9010⟩ [])).2

theorem attemptAll_settles_calls :
    (attemptAll (Task.talliedFrom 0 calls) ((callsSession stocked).tallied [])).2.sink.marks = [0] ∧
      ∃ b, (attemptAll calls (callsSession stocked)).2.archive = some b ∧
        b.addresses = [⟨0x9000⟩, ⟨0x9010⟩, ⟨0x1000⟩, ⟨0x100e⟩, ⟨0x1018⟩] ∧
        ∃ c, b.find .fence = .ok (true, c) ∧
          c.retrieveAll = .ok ⟨.fence, ⟨0x9000⟩, ⟨0x9010⟩, []⟩ := by
  let entries : List StubEntries :=
    [⟨.callStub, ⟨0x1000⟩, ⟨0x1018⟩, [⟨0x100e⟩], false⟩, ⟨.fence, ⟨0x9000⟩, ⟨0x9010⟩, [], true⟩,
      ⟨.callStub, ⟨0x1000⟩, ⟨0x1018⟩, [⟨0x100e⟩], true⟩]
  have ran : attemptAll calls (callsSession stocked) =
      (entries.map .ok, (attemptAll calls (callsSession stocked)).2) := Prod.ext (by rfl) rfl
  obtain ⟨marked, b, attached, settles⟩ :=
    attemptAll_settles (.served _ (.created .initial)) rfl ran
  refine ⟨?_, b, attached, settles.extended.addresses, settles.found entries[1] (by decide)⟩
  rw [marked]
  rfl

end Session

end RuntimeStubs
