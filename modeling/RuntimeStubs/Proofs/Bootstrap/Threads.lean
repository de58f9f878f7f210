import RuntimeStubs.Bootstrap.Worker
import RuntimeStubs.Proofs.Session.Stepwise

/-! Workers that are interrupted in the middle of a task.

A thread does what a worker does, in smaller steps: while it generates a stub, each access to the
registry is a step of its own. Left alone, it comes to what the worker comes to (`eq_run`), and
whatever two workers do by turns, two threads can do as well (`exists_interleave`). -/

set_option autoImplicit false

namespace RuntimeStubs

structure Thread (σ η : Type) where
  worker : Worker σ η
  current : Option (Stepwise (Session σ η) StubEntries)

namespace Worker

variable {σ τ η θ : Type} {w : Worker σ η} {s : BootstrapState}

def Settled (w : Worker σ η) : Prop := w.progress ≠ .waiting ∧ w.progress ≠ .working

def conclude (result : Except Fault StubEntries) (w : Worker σ η) : Worker σ η :=
  { w with
    results := w.results ++ [result]
    progress := match result with
      | .ok _ => .working
      | .error fault => .failed fault }

/-- How many steps the worker takes at most. -/
def rank (w : Worker σ η) : Nat :=
  match w.progress with
  | .waiting => w.tasks.length + 2
  | .working => w.tasks.length + 1
  | .finished | .failed _ => 0

theorem settled_of_rank (none : w.rank = 0) : w.Settled := by
  unfold rank at none
  constructor <;> intro progress <;> simp [progress] at none

variable [Sink σ] [Sink τ]

theorem step_of_settled (settled : w.Settled) : w.step s = (w, s) := by
  unfold step
  split
  · next waiting => exact absurd waiting settled.1
  · next working => exact absurd working settled.2
  · rfl
  · rfl

theorem rank_attempt (task : Task σ) (rest : List (Task σ)) (w : Worker σ η) (s : BootstrapState) :
    (w.attempt task rest s).1.rank ≤ rest.length + 1 := by
  unfold attempt
  rcases Session.generate task.stub task.extra task.emit _ with ⟨result, session⟩
  cases result <;> simp [rank]

theorem rank_step (w : Worker σ η) (s : BootstrapState) : (w.step s).1.rank ≤ w.rank - 1 := by
  unfold step
  split
  · next waiting => split <;> simp [rank, waiting]
  · next working =>
    split
    · next task rest tasks =>
      rw [show w.rank = rest.length + 2 by simp [rank, working, tasks]]
      exact rank_attempt task rest w s
    · split <;> simp [rank]
  · next finished => simp [rank, finished]
  · next failed => simp [rank, failed]

theorem steps_settled {n : Nat} (enough : w.rank ≤ n) : (steps n w s).1.Settled := by
  induction n generalizing w s with
  | zero => exact settled_of_rank (Nat.le_zero.mp enough)
  | succ n ih =>
    have lower : (w.step s).1.rank ≤ n := Nat.le_trans (rank_step w s) (by omega)
    exact ih lower

theorem run_settled (w : Worker σ η) (s : BootstrapState) : (w.run s).1.Settled := by
  refine steps_settled ?_
  unfold rank
  split <;> omega

theorem interleave_settled (schedule : List Bool) (first : Worker σ η) (second : Worker τ θ)
    (s : BootstrapState) :
    (interleave schedule first second s).1.1.Settled ∧
      (interleave schedule first second s).1.2.Settled := by
  induction schedule generalizing first second s with
  | nil => exact ⟨run_settled first s, run_settled second _⟩
  | cons turn schedule ih =>
    cases turn with
    | true => exact ih ..
    | false => exact ih ..

end Worker

namespace Thread

open Worker (Settled)

variable {σ τ η θ : Type} [Sink σ] [Sink τ] {w v : Worker σ η} {s t : BootstrapState}

def step (t : Thread σ η) (s : BootstrapState) : Thread σ η × BootstrapState :=
  match t.current with
  | some (.step move next) =>
    let session : Session σ η := ⟨t.worker.generator, s.registry, s.log⟩
    let moved := move session
    (⟨{ t.worker with generator := moved.toGenerator }, some (next session)⟩,
      { s with registry := moved.registry, log := moved.log })
  | some (.done result) => (⟨t.worker.conclude result, none⟩, s)
  | none =>
    match t.worker.progress, t.worker.tasks with
    | .working, task :: rest =>
      (⟨{ t.worker with tasks := rest },
        some (Session.generateSteps task.stub task.extra task.emit)⟩, s)
    | _, _ =>
      let (worker, s) := t.worker.step s
      (⟨worker, none⟩, s)

def steps : Nat → Thread σ η → BootstrapState → Thread σ η × BootstrapState
  | 0, t, s => (t, s)
  | n + 1, t, s =>
    let (t, s) := t.step s
    steps n t s

def interleave : List Bool → Thread σ η → Thread τ θ → BootstrapState →
    (Thread σ η × Thread τ θ) × BootstrapState
  | [], first, second, s => ((first, second), s)
  | true :: schedule, first, second, s =>
    let (first, s) := first.step s
    interleave schedule first second s
  | false :: schedule, first, second, s =>
    let (second, s) := second.step s
    interleave schedule first second s

def resting (w : Worker σ η) : Thread σ η := ⟨w, none⟩

theorem step_task {task : Task σ} {rest : List (Task σ)} (working : w.progress = .working)
    (tasks : w.tasks = task :: rest) :
    (resting w).step s = (⟨{ w with tasks := rest },
      some (Session.generateSteps task.stub task.extra task.emit)⟩, s) := by
  simp only [step, resting, working, tasks]

-- Everything but a task is a single step.
theorem step_resting (noTask : w.progress = .working → w.tasks = []) :
    (resting w).step s = (resting (w.step s).1, (w.step s).2) := by
  unfold step resting
  dsimp only
  split
  · next working tasks => simp [noTask working] at tasks
  · rfl

theorem step_of_settled (settled : w.Settled) : (resting w).step s = (resting w, s) := by
  rw [step_resting fun working => absurd working settled.2, Worker.step_of_settled settled]

/-! ### Without interruption -/

theorem steps_add (m n : Nat) (t : Thread σ η) (s : BootstrapState) :
    steps (m + n) t s = steps n (steps m t s).1 (steps m t s).2 := by
  induction m generalizing t s with
  | zero => rw [Nat.zero_add]; rfl
  | succ m ih => rw [Nat.succ_add]; exact ih ..

theorem steps_of_settled (n : Nat) (settled : w.Settled) :
    steps n (resting w) s = (resting w, s) := by
  induction n with
  | zero => rfl
  | succ n ih => rw [steps, step_of_settled settled]; exact ih

theorem exists_steps_run (computation : Stepwise (Session σ η) StubEntries) (w : Worker σ η)
    (s : BootstrapState) :
    ∃ n, steps n ⟨w, some computation⟩ s =
      match computation.run ⟨w.generator, s.registry, s.log⟩ with
      | (result, session) =>
        (resting (.conclude result { w with generator := session.toGenerator }),
          { s with registry := session.registry, log := session.log }) := by
  induction computation generalizing w s with
  | done result => exact ⟨1, rfl⟩
  | step move next ih =>
    let session : Session σ η := ⟨w.generator, s.registry, s.log⟩
    obtain ⟨n, ran⟩ := ih session { w with generator := (move session).toGenerator }
      { s with registry := (move session).registry, log := (move session).log }
    exact ⟨n + 1, ran⟩

theorem exists_steps_step (w : Worker σ η) (s : BootstrapState) :
    ∃ n, steps n (resting w) s = (resting (w.step s).1, (w.step s).2) := by
  by_cases noTask : w.progress = .working → w.tasks = []
  · exact ⟨1, step_resting noTask⟩
  · obtain ⟨working, tasks⟩ := Classical.not_imp.mp noTask
    obtain ⟨task, rest, tasks⟩ := List.exists_cons_of_ne_nil tasks
    obtain ⟨n, ran⟩ := exists_steps_run (Session.generateSteps task.stub task.extra task.emit)
      { w with tasks := rest } s
    rw [Session.run_generateSteps] at ran
    refine ⟨n + 1, ?_⟩
    rw [steps, step_task working tasks]
    dsimp only
    rw [ran]
    simp only [Worker.step, working, tasks, Worker.attempt]
    rfl

theorem exists_steps_steps (n : Nat) (w : Worker σ η) (s : BootstrapState) :
    ∃ m, steps m (resting w) s = (resting (Worker.steps n w s).1, (Worker.steps n w s).2) := by
  induction n generalizing w s with
  | zero => exact ⟨0, rfl⟩
  | succ n ih =>
    obtain ⟨first, stepped⟩ := exists_steps_step w s
    obtain ⟨later, ran⟩ := ih (w.step s).1 (w.step s).2
    refine ⟨first + later, ?_⟩
    rw [steps_add, stepped]
    exact ran

-- A thread that has settled stays as it is, so there is only one state in which it can settle.
theorem steps_unique {m n : Nat} {thread : Thread σ η} (first : steps m thread s = (resting w, t))
    (settled : w.Settled) {u : BootstrapState} (second : steps n thread s = (resting v, u))
    (settledToo : v.Settled) : w = v ∧ t = u := by
  have same : (resting w, t) = (resting v, u) := by
    rcases Nat.le_total m n with before | after
    · obtain ⟨more, rfl⟩ := Nat.exists_eq_add_of_le before
      rw [← second, steps_add, first, steps_of_settled more settled]
    · obtain ⟨more, rfl⟩ := Nat.exists_eq_add_of_le after
      rw [← first, steps_add, second, steps_of_settled more settledToo]
  simpa [resting] using same

theorem eq_run {n : Nat} (stepped : steps n (resting w) s = (resting v, t)) (settled : v.Settled) :
    w.run s = (v, t) := by
  obtain ⟨m, ran⟩ := exists_steps_steps (w.tasks.length + 2) w s
  obtain ⟨same, sameState⟩ := steps_unique ran (Worker.run_settled w s) stepped settled
  exact Prod.ext same sameState

/-! ### By turns -/

theorem interleave_append_first (n : Nat) (schedule : List Bool) (first : Thread σ η)
    (second : Thread τ θ) (s : BootstrapState) :
    interleave (List.replicate n true ++ schedule) first second s =
      interleave schedule (steps n first s).1 second (steps n first s).2 := by
  induction n generalizing first s with
  | zero => rfl
  | succ n ih => exact ih ..

theorem interleave_append_second (n : Nat) (schedule : List Bool) (first : Thread σ η)
    (second : Thread τ θ) (s : BootstrapState) :
    interleave (List.replicate n false ++ schedule) first second s =
      interleave schedule first (steps n second s).1 (steps n second s).2 := by
  induction n generalizing second s with
  | zero => rfl
  | succ n ih => exact ih ..

theorem exists_interleave (schedule : List Bool) (first : Worker σ η) (second : Worker τ θ)
    (s : BootstrapState) :
    ∃ turns, interleave turns (resting first) (resting second) s =
      match Worker.interleave schedule first second s with
      | ((first, second), s) => ((resting first, resting second), s) := by
  induction schedule generalizing first second s with
  | nil =>
    obtain ⟨m, ranFirst⟩ := exists_steps_steps (first.tasks.length + 2) first s
    obtain ⟨n, ranSecond⟩ := exists_steps_steps (second.tasks.length + 2) second (first.run s).2
    refine ⟨List.replicate m true ++ (List.replicate n false ++ []), ?_⟩
    rw [interleave_append_first, ranFirst, interleave_append_second]
    dsimp only
    rw [← Worker.run, ranSecond]
    rfl
  | cons turn schedule ih =>
    cases turn with
    | true =>
      obtain ⟨n, stepped⟩ := exists_steps_step first s
      obtain ⟨turns, ran⟩ := ih (first.step s).1 second (first.step s).2
      refine ⟨List.replicate n true ++ turns, ?_⟩
      rw [interleave_append_first, stepped]
      exact ran
    | false =>
      obtain ⟨n, stepped⟩ := exists_steps_step second s
      obtain ⟨turns, ran⟩ := ih first (second.step s).1 (second.step s).2
      refine ⟨List.replicate n false ++ turns, ?_⟩
      rw [interleave_append_second, stepped]
      exact ran

end Thread

end RuntimeStubs
