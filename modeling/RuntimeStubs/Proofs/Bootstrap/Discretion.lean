import RuntimeStubs.Bootstrap.Worker
import RuntimeStubs.Proofs.Session.Discretion

/-! Bootstraps that report more or less.

Entering and leaving a phase comes to the same in two runs of which the second lists code or reports
more, and so does all that workers do, alone (`Worker.discreet_run`) or by turns
(`Worker.discreet_interleave`). -/

set_option autoImplicit false

namespace RuntimeStubs

open RuntimeStubs.Action

variable {allowed : Prop} {L : Log → Log → Prop}

def Registry.Discreet (L : Log → Log → Prop) (a b : Registry × Log) : Prop :=
  b.1 = a.1 ∧ L a.2 b.2

theorem Registry.discreet_reported (louder : Louder allowed L)
    {change : Registry → Except Fault Registry} {diagnostic : Registry → Diagnostic} :
    Couples (Registry.Discreet L) (reported change diagnostic) (reported change diagnostic) := by
  rintro ⟨_, quiet⟩ ⟨r, loud⟩ ⟨rfl, logs⟩
  simp only [reported]
  cases change r with
  | ok registry => exact ⟨rfl, rfl, louder.report _ logs⟩
  | error fault => exact ⟨rfl, rfl, logs⟩

namespace BootstrapState

/-- The second state is the first, but its sessions may list code and more may have
been reported. -/
def Discreet (allowed : Prop) (L : Log → Log → Prop) (s t : BootstrapState) : Prop :=
  ∃ listing log, Switched allowed s.bootstrap.listing listing ∧ L s.log log ∧
    t = { s with bootstrap := { s.bootstrap with listing := listing }, log := log }

theorem Discreet.log {s t : BootstrapState} (related : s.Discreet allowed L t) : L s.log t.log := by
  obtain ⟨_, _, -, logs, rfl⟩ := related
  exact logs

theorem Discreet.registry {s t : BootstrapState} (related : s.Discreet allowed L t) :
    t.registry = s.registry := by
  obtain ⟨_, _, -, -, rfl⟩ := related
  rfl

theorem Discreet.listing {s t : BootstrapState} (related : s.Discreet allowed L t) :
    Switched allowed s.bootstrap.listing t.bootstrap.listing := by
  obtain ⟨_, _, switched, -, rfl⟩ := related
  exact switched

theorem discreet_report (louder : Louder allowed L) (d : Diagnostic) :
    Couples (Discreet allowed L) (report d) (report d) := by
  rintro s t ⟨listing, log, switched, logs, rfl⟩
  exact ⟨rfl, listing, _, switched, louder.report d logs, rfl⟩

theorem discreet_setStatus (kind : Phase) (status : PhaseStatus) :
    Couples (Discreet allowed L) (setStatus kind status) (setStatus kind status) := by
  rintro s t ⟨listing, log, switched, logs, rfl⟩
  exact ⟨rfl, listing, log, switched, logs, rfl⟩

theorem discreet_onRegistry {action : Action (Registry × Log) Unit}
    (couples : Couples (Registry.Discreet L) action action) :
    Couples (Discreet allowed L) (onRegistry action) (onRegistry action) := by
  rintro s t ⟨listing, log, switched, logs, rfl⟩
  obtain ⟨same, registry, logs⟩ := couples (s.registry, s.log) (s.registry, log) ⟨rfl, logs⟩
  refine ⟨same, listing, _, switched, logs, ?_⟩
  simp only [onRegistry, focus_apply, registry]

theorem discreet_enter (louder : Louder allowed L) (kind : Phase) (archive : Option Phase) :
    Couples (Discreet allowed L) (enter kind archive) (enter kind archive) := by
  refine Couples.get fun s t related => ?_
  have checks : t.bootstrap.check kind archive = s.bootstrap.check kind archive := by
    obtain ⟨_, _, -, -, rfl⟩ := related
    rfl
  rw [checks, related.registry]
  have started : Couples (Discreet allowed L)
      (do setStatus kind .running; report (.phaseStarted kind))
      (do setStatus kind .running; report (.phaseStarted kind)) :=
    (discreet_setStatus kind .running).bind fun _ => discreet_report louder (.phaseStarted kind)
  have checked : Coupled (Discreet allowed L)
      (ofExcept (s.bootstrap.check kind archive) s)
      (ofExcept (s.bootstrap.check kind archive) t) := ⟨rfl, related⟩
  refine checked.bind fun _ => ?_
  split
  · exact (discreet_report louder .reopening).bind fun _ =>
      (discreet_onRegistry (Registry.discreet_reported louder)).bind fun _ => started
  · exact started

theorem discreet_leave (louder : Louder allowed L) (kind : Phase) (published : Nat) :
    Couples (Discreet allowed L) (leave kind published) (leave kind published) := by
  refine (discreet_report louder _).bind fun _ => (discreet_setStatus kind .done).bind fun _ => ?_
  refine Couples.get fun s t related => ?_
  have ended : isOver t.bootstrap = isOver s.bootstrap := by
    obtain ⟨_, _, -, -, rfl⟩ := related
    rfl
  rw [ended, related.registry]
  split
  · exact discreet_onRegistry (Registry.discreet_reported louder) s t related
  · exact Couples.pure () s t related

end BootstrapState

/-! ### Workers -/

variable {σ τ η θ : Type} {M : η → η → Prop} {N : θ → θ → Prop} {listener : Listener}

theorem Generator.Discreet.relist {g h : Generator σ η}
    (related : g.Discreet allowed L M listener h) {first second : Bool}
    (switched : Switched allowed first second) :
    { g with listing := first }.Discreet allowed L M listener { h with listing := second } := by
  intro registry quiet loud logs
  obtain ⟨memory, _, events, log, varies, same⟩ := related registry quiet loud logs
  refine ⟨memory, second, events, log, { varies with listing := switched }, ?_⟩
  exact congrArg (fun s : Session σ η => { s with listing := second }) same

namespace Worker

def Discreet (allowed : Prop) (L : Log → Log → Prop) (M : η → η → Prop) (listener : Listener)
    (w v : Worker σ η) : Prop :=
  ∃ generator, w.generator.Discreet allowed L M listener generator ∧
    v = { w with generator := generator }

def DiscreetAt (allowed : Prop) (L : Log → Log → Prop) (M : η → η → Prop) (listener : Listener)
    (x y : Worker σ η × BootstrapState) : Prop :=
  x.1.Discreet allowed L M listener y.1 ∧ x.2.Discreet allowed L y.2

variable [Sink σ] [Sink τ] {w v : Worker σ η} {s t : BootstrapState}

theorem discreet_attempt (louder : Louder allowed L) (task : Task σ) (rest : List (Task σ))
    (workers : w.Discreet allowed L M listener v) (states : s.Discreet allowed L t) :
    DiscreetAt allowed L M listener (w.attempt task rest s) (v.attempt task rest t) := by
  obtain ⟨generator, generators, rfl⟩ := workers
  obtain ⟨listing, log, switched, logs, rfl⟩ := states
  have generated : Coupled (Session.Discreet allowed L M listener)
      (Session.generate task.stub task.extra task.emit ⟨w.generator, s.registry, s.log⟩)
      (Session.generate task.stub task.extra task.emit ⟨generator, s.registry, log⟩) :=
    (Session.archives_discreet louder).generate (Session.discreet_onSink task.emit) _ _
      (generators s.registry s.log log logs)
  rw [attempt, attempt]
  generalize Session.generate task.stub task.extra task.emit ⟨w.generator, s.registry, s.log⟩ = x
    at generated ⊢
  generalize Session.generate task.stub task.extra task.emit ⟨generator, s.registry, log⟩ = y
    at generated ⊢
  obtain ⟨⟨result, quiet⟩, ⟨_, loud⟩⟩ := x, y
  obtain ⟨rfl, sessions⟩ := generated
  obtain ⟨-, -, -, registry⟩ := sessions.same
  dsimp only at registry ⊢
  rw [registry]
  exact ⟨⟨_, sessions.generator, rfl⟩, listing, _, switched, sessions.varies.log, rfl⟩

theorem discreet_step (louder : Louder allowed L)
    (workers : w.Discreet allowed L M listener v) (states : s.Discreet allowed L t) :
    DiscreetAt allowed L M listener (w.step s) (v.step t) := by
  obtain ⟨generator, generators, rfl⟩ := workers
  obtain ⟨-, archive, published, -⟩ := (generators .empty _ _ states.log).same
  rw [step, step]
  cases progress : w.progress with
  | waiting =>
    have entered : Coupled (BootstrapState.Discreet allowed L)
        (BootstrapState.enter w.kind (w.generator.archive.map Archive.kind) s)
        (BootstrapState.enter w.kind (generator.archive.map Archive.kind) t) := by
      rw [show generator.archive = w.generator.archive from archive]
      exact BootstrapState.discreet_enter louder w.kind _ s t states
    dsimp only
    generalize BootstrapState.enter w.kind _ s = x at entered ⊢
    generalize BootstrapState.enter w.kind _ t = y at entered ⊢
    obtain ⟨⟨result, s⟩, ⟨_, t⟩⟩ := x, y
    obtain ⟨rfl, states⟩ := entered
    cases result with
    | ok _ => exact ⟨⟨_, generators.relist states.listing, rfl⟩, states⟩
    | error fault => exact ⟨⟨generator, generators, rfl⟩, states⟩
  | working =>
    cases tasks : w.tasks with
    | cons task rest =>
      exact discreet_attempt louder task rest
        ⟨generator, generators, by rw [progress, tasks]⟩ states
    | nil =>
      have left : Coupled (BootstrapState.Discreet allowed L)
          (BootstrapState.leave w.kind w.generator.published s)
          (BootstrapState.leave w.kind generator.published t) := by
        rw [show generator.published = w.generator.published from published]
        exact BootstrapState.discreet_leave louder w.kind _ s t states
      dsimp only
      generalize BootstrapState.leave w.kind _ s = x at left ⊢
      generalize BootstrapState.leave w.kind _ t = y at left ⊢
      obtain ⟨⟨result, s⟩, ⟨_, t⟩⟩ := x, y
      obtain ⟨rfl, states⟩ := left
      cases result with
      | ok _ => exact ⟨⟨generator, generators, rfl⟩, states⟩
      | error fault => exact ⟨⟨generator, generators, rfl⟩, states⟩
  | finished | failed => exact ⟨⟨generator, generators, by rw [progress]⟩, states⟩

theorem discreet_run (louder : Louder allowed L)
    (workers : w.Discreet allowed L M listener v) (states : s.Discreet allowed L t) :
    DiscreetAt allowed L M listener (w.run s) (v.run t) := by
  have sameTasks : v.tasks = w.tasks := by
    obtain ⟨_, -, rfl⟩ := workers
    rfl
  rw [run, run, sameTasks]
  generalize w.tasks.length + 2 = n
  clear sameTasks
  induction n generalizing w v s t with
  | zero => exact ⟨workers, states⟩
  | succ n ih =>
    obtain ⟨workers, states⟩ := discreet_step louder workers states
    exact ih workers states

theorem discreet_interleave (louder : Louder allowed L) (schedule : List Bool)
    {first second : Worker τ θ} {alike : Listener}
    (workers : w.Discreet allowed L M listener v)
    (others : first.Discreet allowed L N alike second) (states : s.Discreet allowed L t) :
    (interleave schedule w first s).1.1.Discreet allowed L M listener
        (interleave schedule v second t).1.1 ∧
      (interleave schedule w first s).1.2.Discreet allowed L N alike
        (interleave schedule v second t).1.2 ∧
      (interleave schedule w first s).2.Discreet allowed L (interleave schedule v second t).2 := by
  induction schedule generalizing w v first second s t with
  | nil =>
    obtain ⟨workers, states⟩ := discreet_run louder workers states
    obtain ⟨others, states⟩ := discreet_run louder others states
    exact ⟨workers, others, states⟩
  | cons turn schedule ih =>
    cases turn with
    | true =>
      obtain ⟨workers, states⟩ := discreet_step louder workers states
      exact ih workers others states
    | false =>
      obtain ⟨others, states⟩ := discreet_step louder others states
      exact ih workers others states

end Worker

end RuntimeStubs
