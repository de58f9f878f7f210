import RuntimeStubs.Proofs.Session.Operations
import RuntimeStubs.Proofs.Session.Publication

/-! Two runs of the operations of a session.

Actions over different states are coupled by a relation between these states if, from related
states, they come to the same result and to related states again. A relation that is kept by every
step which the operations of a session consist of (`Bridges`) couples the operations, however they
end (`Bridges.generate`). How the two runs treat their archives is asked separately, since a run may
have an archive where the other has none; if both have the same one, nothing more is to be asked
(`Archives.generate`). -/

set_option autoImplicit false

namespace RuntimeStubs

namespace Action

variable {σ τ α β : Type} {R : σ → τ → Prop}

/-- The same result, in related states. -/
def Coupled (R : σ → τ → Prop) (x : Except Fault α × σ) (y : Except Fault α × τ) : Prop :=
  x.1 = y.1 ∧ R x.2 y.2

/-- From related states, two actions come to the same result and to related states. -/
def Couples (R : σ → τ → Prop) (first : Action σ α) (second : Action τ α) : Prop :=
  ∀ s t, R s t → Coupled R (first s) (second t)

section

variable {first : Action σ α} {second : Action τ α} {next : α → Action σ β}
  {other : α → Action τ β} {s : σ} {t : τ}

-- On the way the states may be related in another way than in the end. What follows a step may use
-- that the step has succeeded, and what is known of the outcome as a whole.
theorem Coupled.bind_within {Q : σ → τ → Prop} {P : Except Fault β × σ → Prop}
    (coupled : Coupled Q (first s) (second t))
    (weaken : ∀ fault u v, P (.error fault, u) → Q u v → R u v) (outcome : P ((first >>= next) s))
    (rest : ∀ value u v, first s = (.ok value, u) → Q u v → P (next value u) →
      Coupled R (next value u) (other value v)) :
    Coupled R ((first >>= next) s) ((second >>= other) t) := by
  obtain ⟨same, related⟩ := coupled
  rcases ran : first s with ⟨fault | value, u⟩ <;> rcases also : second t with ⟨result, v⟩ <;>
    rw [ran, also] at same related <;> cases same
  · rw [bind_of_error ran] at outcome ⊢
    rw [bind_of_error also]
    exact ⟨rfl, weaken fault u v outcome related⟩
  · rw [bind_of_ok ran] at outcome ⊢
    rw [bind_of_ok also]
    exact rest value u v ran related outcome

theorem Coupled.bind (coupled : Coupled R (first s) (second t))
    (rest : ∀ value, Couples R (next value) (other value)) :
    Coupled R ((first >>= next) s) ((second >>= other) t) :=
  coupled.bind_within (P := fun _ => True) (fun _ _ _ _ related => related) trivial
    fun value u v _ related _ => rest value u v related

theorem Couples.bind (coupled : Couples R first second)
    (rest : ∀ value, Couples R (next value) (other value)) :
    Couples R (first >>= next) (second >>= other) := fun s t related =>
  (coupled s t related).bind rest

end

theorem Couples.get {next : σ → Action σ α} {other : τ → Action τ α}
    (rest : ∀ s t, R s t → Coupled R (next s s) (other t t)) :
    Couples R (Action.get >>= next) (Action.get >>= other) := rest

theorem Couples.pure (value : α) :
    Couples R (Pure.pure value : Action σ α) (Pure.pure value) :=
  fun _ _ related => ⟨rfl, related⟩

theorem Couples.fail (fault : Fault) :
    Couples R (Action.fail fault : Action σ α) (Action.fail fault) :=
  fun _ _ related => ⟨rfl, related⟩

theorem Couples.modify {f : σ → σ} {g : τ → τ} (kept : ∀ s t, R s t → R (f s) (g t)) :
    Couples R (Action.modify f) (Action.modify g) := fun s t related => ⟨rfl, kept s t related⟩

end Action

namespace Session

open RuntimeStubs.Action

variable {σ τ η θ α : Type} [Sink σ] [Sink τ]

/-- A relation between sessions that have the same registry and the same open stub, and see their
sinks at the same place, which every step apart from the requests to the archive keeps. -/
structure Bridges (R : Session σ η → Session τ θ → Prop) : Prop where
  registry : ∀ {s t}, R s t → t.registry = s.registry
  active : ∀ {s t}, R s t → t.active = s.active
  pc : ∀ {s t}, R s t → Sink.pc t.sink = Sink.pc s.sink
  base : ∀ {s t}, R s t → Sink.base t.sink = Sink.base s.sink
  setRegistry : ∀ {s t} r, R s t → R { s with registry := r } { t with registry := r }
  setActive : ∀ {s t} open?, R s t → R { s with active := open? } { t with active := open? }
  report : ∀ {s t} d, R s t →
    R { s with log := s.log.report d } { t with log := t.log.report d }
  flush : Couples R flush flush
  prolog : ∀ d, Couples R (runProlog d) (runProlog d)
  epilog : ∀ d, Couples R (runEpilog d) (runEpilog d)
  describe : ∀ d, Couples R (describe d none) (describe d none)
  publish : ∀ d, Couples R (publish d) (publish d)
  address : ∀ {s t} a, R s t → R (s.tell (.address a)) (t.tell (.address a))

namespace Bridges

variable {R : Session σ η → Session τ θ → Prop} (bridges : Bridges R)

include bridges

theorem onRegistry (change : Registry → Except Fault (α × Registry)) :
    Couples R (Session.onRegistry change) (Session.onRegistry change) := by
  intro s t related
  rw [Session.onRegistry, Session.onRegistry, bridges.registry related]
  cases change s.registry with
  | error fault => exact ⟨rfl, related⟩
  | ok result => exact ⟨rfl, bridges.setRegistry result.2 related⟩

theorem descriptor (handle : Handle) :
    Couples R (Session.descriptor handle) (Session.descriptor handle) := fun _ _ related =>
  ⟨by rw [Session.descriptor, Session.descriptor, bridges.registry related], related⟩

theorem cursor : Couples R Session.pc Session.pc := fun _ _ related =>
  ⟨congrArg Except.ok (bridges.pc related).symm, related⟩

theorem reporting (d : Diagnostic) : Couples R (Session.report d) (Session.report d) :=
  Couples.modify fun _ _ => bridges.report d

theorem displacement (start : Address) :
    Couples R (Session.displacement start) (Session.displacement start) := by
  refine Couples.get fun s t related => ?_
  rw [bridges.base related]
  cases start.offsetFrom (Sink.base s.sink) with
  | some offset => exact ⟨rfl, related⟩
  | none => exact (bridges.reporting _).bind (fun _ => Couples.pure 0) s t related

theorem openStub (group name : String) :
    Couples R (Session.openStub group name) (Session.openStub group name) := by
  refine Couples.get fun s t related => ?_
  rw [bridges.active related, bridges.registry related]
  cases s.active with
  | some handle => exact Couples.fail _ s t related
  | none =>
    refine (bridges.flush s t related).bind fun _ => ?_
    refine bridges.cursor.bind fun place => ?_
    refine (bridges.onRegistry _).bind fun handle => ?_
    refine (bridges.descriptor handle).bind fun d => ?_
    refine (bridges.prolog d).bind fun _ => ?_
    refine bridges.flush.bind fun _ => ?_
    refine bridges.cursor.bind fun start => ?_
    refine (bridges.onRegistry _).bind fun _ => ?_
    refine (Couples.modify fun _ _ => bridges.setActive _).bind fun _ => ?_
    exact (bridges.reporting _).bind fun _ => Couples.pure _

theorem closeStub (mark : Mark) :
    Couples R (Session.closeStub mark) (Session.closeStub mark) := by
  refine Couples.get fun s t related => ?_
  rw [bridges.active related]
  split
  · exact Couples.fail _ s t related
  · refine (bridges.flush s t related).bind fun _ => ?_
    refine bridges.cursor.bind fun stop => ?_
    refine (bridges.descriptor _).bind fun opened => ?_
    refine (bridges.displacement _).bind fun offset => ?_
    refine (bridges.onRegistry _).bind fun d => ?_
    refine (Couples.modify fun _ _ => bridges.setActive _).bind fun _ => ?_
    refine (bridges.epilog d).bind fun _ => ?_
    exact (bridges.publish d).bind fun _ => Couples.pure d

theorem adopt (name : String) (start stop : Address) :
    Couples R (Session.adopt name start stop) (Session.adopt name start stop) := by
  refine (bridges.onRegistry _).bind fun handle => ?_
  refine (bridges.displacement start).bind fun offset => ?_
  refine (bridges.onRegistry _).bind fun d => ?_
  refine (bridges.describe d).bind fun _ => ?_
  exact (bridges.publish d).bind fun _ => Couples.pure d

theorem tellAll (addresses : List Address) {s : Session σ η} {t : Session τ θ} (related : R s t) :
    R (Session.tellAll (addresses.map Event.address) s)
      (Session.tellAll (addresses.map Event.address) t) := by
  induction addresses generalizing s t with
  | nil => exact related
  | cons a rest ih => exact ih (bridges.address a related)

/-! ### Requests to the archive -/

section

variable {stub : Stub} {extra : Nat}

theorem hydrate? (looks : Couples R (Session.lookUp stub) (Session.lookUp stub)) :
    Couples R (Session.hydrate? stub extra) (Session.hydrate? stub extra) := by
  refine looks.bind fun archived? => ?_
  cases archived? with
  | none => exact Couples.pure none
  | some archived =>
    dsimp only
    split
    · exact Couples.fail _
    · refine (bridges.adopt _ _ _).bind fun d => ?_
      exact (bridges.reporting _).bind fun _ => Couples.pure _

theorem commit {start stop : Address} {extras : List Address} {s : Session σ η}
    {t : Session τ θ}
    (stores : Coupled R (archiveStub stub start stop extras s)
      (archiveStub stub start stop extras t)) :
    Coupled R (Session.commit stub start stop extras s)
      (Session.commit stub start stop extras t) :=
  stores.bind fun _ => Couples.modify fun _ _ => bridges.tellAll (start :: extras)

-- The relation may change when the code is emitted and when the addresses are stored. The last step
-- is reached with a descriptor that does not end below its start.
theorem generateFresh {S Q : Session σ η → Session τ θ → Prop} (after : Bridges S)
    {P : Except Fault StubEntries × Session σ η → Prop} {emit : Action σ (List Address)}
    {other : Action τ (List Address)}
    (unopened : ∀ fault s t, P (.error fault, s) → R s t → Q s t)
    (emits : ∀ s t, R s t → Coupled S (onSink emit s) (onSink other t))
    (unclosed : ∀ fault s t, P (.error fault, s) → S s t → Q s t)
    (stores : ∀ (d : Descriptor) entries s t, ¬ d.stopOrStart < d.start → S s t →
      P ((do
        Session.commit stub d.start d.stopOrStart entries
        return ⟨stub, d.start, d.stopOrStart, entries, false⟩ : Action _ StubEntries) s) →
      Coupled Q (Session.commit stub d.start d.stopOrStart entries s)
        (Session.commit stub d.start d.stopOrStart entries t))
    {s : Session σ η} {t : Session τ θ} (related : R s t)
    (outcome : P (Session.generateFresh stub extra emit s)) :
    Coupled Q (Session.generateFresh stub extra emit s)
      (Session.generateFresh stub extra other t) := by
  refine (bridges.openStub _ _ s t related).bind_within unopened outcome ?_
  intro mark u v _ related outcome
  refine (emits u v related).bind_within unclosed outcome ?_
  intro entries u v _ related outcome
  by_cases count : entries.length ≠ extra
  · rw [if_pos count] at outcome
    rw [if_pos count, if_pos count]
    exact ⟨rfl, unclosed _ u v outcome related⟩
  · rw [if_neg count] at outcome
    rw [if_neg count, if_neg count]
    refine (after.closeStub mark u v related).bind_within unclosed outcome ?_
    intro d u v closed related outcome
    have ordered : ¬ d.stopOrStart < d.start := by
      cases (closeStub_ends mark _).of_eq closed with
      | closed _ completes =>
        obtain ⟨opened, -, -, -, ordered, rfl⟩ := completes
        exact ordered
    exact (stores d entries u v ordered related outcome).bind fun _ => Couples.pure _

theorem generate {emit : Action σ (List Address)} {other : Action τ (List Address)}
    (looks : Couples R (Session.lookUp stub) (Session.lookUp stub))
    (emits : Couples R (onSink emit) (onSink other))
    (stores : ∀ start stop extras,
      Couples R (archiveStub stub start stop extras) (archiveStub stub start stop extras)) :
    Couples R (Session.generate stub extra emit) (Session.generate stub extra other) := by
  refine (bridges.hydrate? looks).bind fun hydrated? => ?_
  cases hydrated? with
  | some entries => exact Couples.pure entries
  | none =>
    intro s t related
    have same (_ : Fault) (s : Session σ η) (t : Session τ θ) (_ : True) (related : R s t) : R s t :=
      related
    refine bridges.generateFresh bridges (P := fun _ => True) same emits same ?_ related trivial
    intro d entries s t _ related _
    exact bridges.commit (stores _ _ _ s t related)

end

end Bridges

/-! ### Runs with the same archive -/

structure Archives (R : Session σ η → Session τ θ → Prop) : Prop extends Bridges R where
  archive : ∀ {s t}, R s t → t.archive = s.archive
  setArchive : ∀ {s t} a, R s t → R { s with archive := some a } { t with archive := some a }

namespace Archives

variable {R : Session σ η → Session τ θ → Prop} (archives : Archives R)

include archives

theorem lookUp (stub : Stub) : Couples R (Session.lookUp stub) (Session.lookUp stub) := by
  intro s t related
  cases attached : s.archive with
  | none => simpa only [Session.lookUp, archives.archive related, attached] using ⟨rfl, related⟩
  | some a =>
    simp only [Session.lookUp, archives.archive related, attached]
    rcases a.find stub with fault | ⟨hit, b⟩
    · exact ⟨rfl, related⟩
    · have looked := archives.report (.archiveLookup b.kind stub hit) (archives.setArchive b related)
      cases hit with
      | false => exact ⟨rfl, looked⟩
      | true =>
        dsimp only
        cases b.retrieveAll <;> exact ⟨rfl, looked⟩

theorem archiveStub (stub : Stub) (start stop : Address) (extras : List Address) :
    Couples R (Session.archiveStub stub start stop extras)
      (Session.archiveStub stub start stop extras) := by
  intro s t related
  cases attached : s.archive with
  | none => simpa only [Session.archiveStub, archives.archive related, attached] using ⟨rfl, related⟩
  | some a =>
    simp only [Session.archiveStub, archives.archive related, attached]
    cases a.store stub start stop extras with
    | error fault => exact ⟨rfl, related⟩
    | ok b => exact ⟨rfl, archives.report _ (archives.setArchive b related)⟩

theorem generate {stub : Stub} {extra : Nat} {emit : Action σ (List Address)}
    {other : Action τ (List Address)}
    (emits : Couples R (onSink emit) (onSink other)) :
    Couples R (Session.generate stub extra emit) (Session.generate stub extra other) :=
  archives.toBridges.generate (archives.lookUp stub) emits (archives.archiveStub stub)

end Archives

end Session

end RuntimeStubs
