import Mathlib.Data.List.Perm.Basic
import RuntimeStubs.Bootstrap
import RuntimeStubs.Proofs.Registry.Calls

/-! Timelines of a bootstrap.

A timeline is what happens to one bootstrap from its creation on, in any order: phases are asked
for, their bodies work on the registry and end well or badly, and others register too. Nothing is
said about who does what, so the phases of a timeline may be nested in each other's bodies or run
side by side. Entering and leaving a phase are single events, as they happen under one lock.
`Sequenced` is the invariant of all timelines. -/

set_option autoImplicit false

namespace RuntimeStubs

namespace Bootstrap

@[simp] theorem delayed_withStatus (kind : Phase) (status : PhaseStatus) (b : Bootstrap) :
    (b.withStatus kind status).delayed = b.delayed := rfl

theorem status_withStatus (kind : Phase) (status : PhaseStatus) (b : Bootstrap) (other : Phase) :
    (b.withStatus kind status).status other = if other = kind then status else b.status other := rfl

@[simp] theorem status_withStatus_self (kind : Phase) (status : PhaseStatus) (b : Bootstrap) :
    (b.withStatus kind status).status kind = status := if_pos rfl

theorem status_withStatus_ne {kind other : Phase} (differ : other ≠ kind) (status : PhaseStatus)
    (b : Bootstrap) : (b.withStatus kind status).status other = b.status other := if_neg differ

theorem missing?_eq_none_iff {b : Bootstrap} {kind : Phase} :
    b.missing? kind = none ↔ ∀ required ∈ kind.requires b.delayed, b.status required = .done := by
  simp [missing?, List.find?_eq_none]

theorem check_eq_ok_iff {b : Bootstrap} {kind : Phase} {archive : Option Phase} :
    b.check kind archive = .ok () ↔ (∀ actual, archive = some actual → actual = kind) ∧
      b.status kind = .pending ∧
      ∀ required ∈ kind.requires b.delayed, b.status required = .done := by
  rw [← missing?_eq_none_iff, check]
  cases archive with
  | none =>
    by_cases pending : b.status kind = .pending <;> cases b.missing? kind <;> simp [pending]
  | some actual =>
    by_cases same : actual = kind <;> by_cases pending : b.status kind = .pending <;>
      cases b.missing? kind <;> simp [same, pending]

/-- Whatever has started has its requirements done. -/
def Founded (b : Bootstrap) : Prop :=
  ∀ kind, b.status kind ≠ .pending →
    ∀ required ∈ kind.requires b.delayed, b.status required = .done

-- No requirement can be the phase that starts, since requirements are done and it is pending.
theorem Founded.enter {b : Bootstrap} (founded : b.Founded) {kind : Phase}
    (pending : b.status kind = .pending)
    (requirements : ∀ required ∈ kind.requires b.delayed, b.status required = .done) :
    (b.withStatus kind .running).Founded := by
  intro phase started required requires
  have done : b.status required = .done := by
    by_cases same : phase = kind
    · subst same
      exact requirements required requires
    · rw [status_withStatus_ne same] at started
      exact founded phase started required requires
  have differ : required ≠ kind := by
    rintro rfl
    rw [done] at pending
    cases pending
  exact (status_withStatus_ne differ ..).trans done

theorem Founded.leave {b : Bootstrap} (founded : b.Founded) {kind : Phase}
    (running : b.status kind = .running) : (b.withStatus kind .done).Founded := by
  intro phase started required requires
  have before : b.status phase ≠ .pending := by
    by_cases same : phase = kind
    · rw [same, running]
      decide
    · rwa [status_withStatus_ne same] at started
  by_cases same : required = kind
  · rw [same, status_withStatus_self]
  · exact (status_withStatus_ne same ..).trans (founded phase before required requires)

theorem fault_of_check {b : Bootstrap} {kind : Phase} {archive : Option Phase} {fault : Fault}
    (refused : b.check kind archive = .error fault) :
    (∃ actual, fault = .archiveKindMismatch kind actual) ∨ fault = .phaseAlreadyGenerated kind ∨
      ∃ required, fault = .phaseOrder kind required := by
  unfold check at refused
  split at refused
  · cases refused
    exact Or.inl ⟨_, rfl⟩
  · split at refused
    · cases refused
      exact Or.inr (Or.inl rfl)
    · split at refused
      · cases refused
        exact Or.inr (Or.inr ⟨_, rfl⟩)
      · cases refused

end Bootstrap

/-! ### Entering and leaving a phase -/

namespace BootstrapState

-- A phase that is refused leaves no trace at all.
theorem enter_of_check_error {kind : Phase} {archive : Option Phase} {s : BootstrapState}
    {fault : Fault} (refused : s.bootstrap.check kind archive = .error fault) :
    enter kind archive s = (.error fault, s) := by
  simp [enter, Action.bind_apply, refused]

/-- The registry opens for the compiler phase, and for no other. -/
theorem enter_of_check_ok {kind : Phase} {archive : Option Phase} {s : BootstrapState}
    (accepted : s.bootstrap.check kind archive = .ok ()) :
    ∃ log, enter kind archive s = (.ok (), ⟨s.bootstrap.withStatus kind .running,
      { s.registry with frozen := s.registry.frozen && kind != .compiler }, log⟩) := by
  by_cases reopens : kind = .compiler ∧ s.registry.frozen = true
  · obtain ⟨rfl, frozen⟩ := reopens
    refine ⟨((s.log.report .reopening).report .unfrozen).report (.phaseStarted .compiler), ?_⟩
    simp [enter, Action.bind_apply, accepted, frozen, report, onRegistry, setStatus,
      Registry.unfreezing, Registry.reported, Registry.unfreeze]
  · have kept : (s.registry.frozen && kind != .compiler) = s.registry.frozen := by
      cases frozen : s.registry.frozen <;> simp_all
    refine ⟨s.log.report (.phaseStarted kind), ?_⟩
    rw [kept]
    simp [enter, Action.bind_apply, accepted, reopens, report, setStatus]

theorem leave_eq (kind : Phase) (published : Nat) (s : BootstrapState) :
    ∃ log, leave kind published s = (.ok (), ⟨s.bootstrap.withStatus kind .done,
      { s.registry with
        frozen := s.registry.frozen || isOver (s.bootstrap.withStatus kind .done) }, log⟩) := by
  by_cases freezes : isOver (s.bootstrap.withStatus kind .done) = true ∧ s.registry.frozen = false
  · refine ⟨(s.log.report (.phaseDone kind published)).report (.frozen s.registry.size), ?_⟩
    simp [leave, Action.bind_apply, freezes, report, onRegistry, setStatus, Registry.freezing,
      Registry.reported, Registry.freeze, Registry.size]
  · have kept : (s.registry.frozen || isOver (s.bootstrap.withStatus kind .done)) =
        s.registry.frozen := by
      cases frozen : s.registry.frozen <;> simp_all
    refine ⟨s.log.report (.phaseDone kind published), ?_⟩
    rw [kept]
    simp [leave, Action.bind_apply, freezes, report, setStatus]

/-- The registry is frozen when the final phase is done, but not while the compiler phase runs. -/
def Sealed (s : BootstrapState) : Prop :=
  s.registry.frozen = true ↔
    s.bootstrap.status .final = .done ∧ s.bootstrap.status .compiler ≠ .running

-- Starting the compiler phase opens the registry, and the registry is open as long as the final
-- phase is pending.
theorem Sealed.enter {s : BootstrapState} (isSealed : s.Sealed) {kind : Phase}
    (pending : s.bootstrap.status kind = .pending) (log : Log) :
    Sealed ⟨s.bootstrap.withStatus kind .running,
      { s.registry with frozen := s.registry.frozen && kind != .compiler }, log⟩ := by
  simp only [Sealed, Bootstrap.status_withStatus, Bool.and_eq_true] at isSealed ⊢
  rw [isSealed]
  cases kind <;> simp_all

theorem Sealed.leave {s : BootstrapState} (isSealed : s.Sealed) {kind : Phase}
    (running : s.bootstrap.status kind = .running) (log : Log) :
    Sealed ⟨s.bootstrap.withStatus kind .done, { s.registry with
      frozen := s.registry.frozen || isOver (s.bootstrap.withStatus kind .done) }, log⟩ := by
  simp only [Sealed, Bootstrap.status_withStatus, isOver, Bool.or_eq_true] at isSealed ⊢
  rw [isSealed]
  cases kind <;> simp_all

end BootstrapState

/-! ### Timelines -/

structure Timeline where
  shared : BootstrapState
  /-- The phases whose bodies are executing, the one entered last first. -/
  executing : List Phase
  returned : List (Phase × Except Fault Unit)

namespace Timeline

inductive Event where
  | ask (kind : Phase) (archive : Option Phase)
  | call (call : RegistryCall)
  | log (log : Log)
  | succeed (kind : Phase) (published : Nat)
  | fail (kind : Phase) (fault : Fault)

def start (delayed listing : Bool) (log : Log) : Timeline :=
  ⟨⟨.create delayed listing, .empty, log⟩, [], []⟩

/-- Only a body that is executing can end. -/
def step (t : Timeline) : Event → Timeline
  | .ask kind archive =>
    match BootstrapState.enter kind archive t.shared with
    | (.ok _, shared) => { t with shared := shared, executing := kind :: t.executing }
    | (.error fault, shared) =>
      { t with shared := shared, returned := t.returned ++ [(kind, .error fault)] }
  | .call call => { t with shared.registry := t.shared.registry.call call }
  | .log log => { t with shared.log := log }
  | .succeed kind published =>
    if kind ∈ t.executing then
      match BootstrapState.leave kind published t.shared with
      | (result, shared) => ⟨shared, t.executing.erase kind, t.returned ++ [(kind, result)]⟩
    else t
  | .fail kind fault =>
    if kind ∈ t.executing then
      { t with
        executing := t.executing.erase kind
        returned := t.returned ++ [(kind, .error fault)] }
    else t

def run (t : Timeline) (events : List Event) : Timeline := events.foldl step t

def status (t : Timeline) (kind : Phase) : PhaseStatus := t.shared.bootstrap.status kind

/-- The order of the phases and what it means for the freeze. -/
structure Sequenced (t : Timeline) : Prop where
  nodup : t.executing.Nodup
  running : ∀ kind ∈ t.executing, t.status kind = .running
  required : ∀ kind, t.status kind ≠ .pending →
    ∀ required ∈ kind.requires t.shared.bootstrap.delayed, t.status required = .done
  frozen : t.shared.registry.frozen = true ↔ t.status .final = .done ∧ t.status .compiler ≠ .running

theorem sequenced_start (delayed listing : Bool) (log : Log) :
    (start delayed listing log).Sequenced where
  nodup := List.nodup_nil
  running _ executing := absurd executing List.not_mem_nil
  required _ started := absurd rfl started
  frozen := by simp [start, status, Bootstrap.create, Registry.empty]

-- The phase that starts was pending before. Every other phase keeps its status.
theorem Sequenced.enter {t : Timeline} (sequenced : t.Sequenced) {kind : Phase}
    {archive : Option Phase} (accepted : t.shared.bootstrap.check kind archive = .ok ())
    (log : Log) :
    Sequenced { t with
      shared := ⟨t.shared.bootstrap.withStatus kind .running,
        { t.shared.registry with frozen := t.shared.registry.frozen && kind != .compiler }, log⟩
      executing := kind :: t.executing } := by
  obtain ⟨-, pending, requirements⟩ := Bootstrap.check_eq_ok_iff.mp accepted
  -- What is done or running is another phase.
  have other {phase : Phase} (started : t.status phase ≠ .pending) : phase ≠ kind := by
    rintro rfl
    exact started pending
  refine ⟨?_, ?_, ?_, ?_⟩
  · refine List.nodup_cons.mpr ⟨?_, sequenced.nodup⟩
    intro executing
    have := sequenced.running kind executing
    rw [status, pending] at this
    cases this
  · intro phase executing
    rcases List.mem_cons.mp executing with rfl | executing
    · exact Bootstrap.status_withStatus_self ..
    · have running := sequenced.running phase executing
      have differ : phase ≠ kind := other (by rw [running]; decide)
      exact (Bootstrap.status_withStatus_ne differ ..).trans running
  · exact Bootstrap.Founded.enter sequenced.required pending requirements
  · exact BootstrapState.Sealed.enter sequenced.frozen pending log

-- The phase that ends was running. It may be the final phase, or the compiler phase after it.
theorem Sequenced.leave {t : Timeline} (sequenced : t.Sequenced) {kind : Phase}
    (executing : kind ∈ t.executing) (returned : List (Phase × Except Fault Unit)) (log : Log) :
    Sequenced ⟨⟨t.shared.bootstrap.withStatus kind .done,
      { t.shared.registry with frozen := t.shared.registry.frozen ||
          BootstrapState.isOver (t.shared.bootstrap.withStatus kind .done) }, log⟩,
      t.executing.erase kind, returned⟩ := by
  have running := sequenced.running kind executing
  refine ⟨sequenced.nodup.erase kind, ?_, ?_, ?_⟩
  · intro phase member
    obtain ⟨differ, member⟩ := sequenced.nodup.mem_erase_iff.mp member
    exact (Bootstrap.status_withStatus_ne differ ..).trans (sequenced.running phase member)
  · exact Bootstrap.Founded.leave sequenced.required running
  · exact BootstrapState.Sealed.leave sequenced.frozen running log

theorem Sequenced.step {t : Timeline} (sequenced : t.Sequenced) (event : Event) :
    (t.step event).Sequenced := by
  cases event with
  | ask kind archive =>
    cases checked : t.shared.bootstrap.check kind archive with
    | error fault =>
      simp only [Timeline.step, BootstrapState.enter_of_check_error checked]
      exact ⟨sequenced.nodup, sequenced.running, sequenced.required, sequenced.frozen⟩
    | ok =>
      obtain ⟨log, entered⟩ := BootstrapState.enter_of_check_ok checked
      simp only [Timeline.step, entered]
      exact sequenced.enter checked log
  | call call =>
    refine ⟨sequenced.nodup, sequenced.running, sequenced.required, ?_⟩
    rw [Timeline.step, Registry.frozen_call]
    exact sequenced.frozen
  | log log => exact ⟨sequenced.nodup, sequenced.running, sequenced.required, sequenced.frozen⟩
  | succeed kind published =>
    by_cases executing : kind ∈ t.executing
    · obtain ⟨log, left⟩ := BootstrapState.leave_eq kind published t.shared
      simp only [Timeline.step, if_pos executing, left]
      exact sequenced.leave executing _ log
    · simpa only [Timeline.step, if_neg executing] using sequenced
  | fail kind fault =>
    by_cases executing : kind ∈ t.executing
    · simp only [Timeline.step, if_pos executing]
      exact ⟨sequenced.nodup.erase kind,
        fun phase member => sequenced.running phase (List.mem_of_mem_erase member),
        sequenced.required, sequenced.frozen⟩
    · simpa only [Timeline.step, if_neg executing] using sequenced

theorem delayed_step (t : Timeline) (event : Event) :
    (t.step event).shared.bootstrap.delayed = t.shared.bootstrap.delayed := by
  cases event with
  | ask kind archive =>
    cases checked : t.shared.bootstrap.check kind archive with
    | error fault => simp only [step, BootstrapState.enter_of_check_error checked]
    | ok =>
      obtain ⟨log, entered⟩ := BootstrapState.enter_of_check_ok checked
      simp only [step, entered, Bootstrap.delayed_withStatus]
  | call | log => rfl
  | succeed kind published =>
    obtain ⟨log, left⟩ := BootstrapState.leave_eq kind published t.shared
    simp only [step, left]
    split <;> rfl
  | fail kind fault =>
    simp only [step]
    split <;> rfl

theorem delayed_run (t : Timeline) (events : List Event) :
    (t.run events).shared.bootstrap.delayed = t.shared.bootstrap.delayed := by
  induction events generalizing t with
  | nil => rfl
  | cons event rest ih => exact (ih (t.step event)).trans (delayed_step t event)

theorem Sequenced.run {t : Timeline} (sequenced : t.Sequenced) (events : List Event) :
    (t.run events).Sequenced := by
  induction events generalizing t with
  | nil => exact sequenced
  | cons event rest ih => exact ih (sequenced.step event)

end Timeline

end RuntimeStubs
