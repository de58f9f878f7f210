import RuntimeStubs.Proofs.Bootstrap.Threads
import RuntimeStubs.Proofs.Bootstrap.Timeline
import RuntimeStubs.Proofs.Session.Sharing

/-! Two threads beside each other.

With the two earlier phases done and the compiler phase delayed, no phase has to wait for another
one. Two threads for different phases share a registry, in which they have separate shares, and a
log, of which they use the filter only. Each of them therefore follows the thread that it would be
if the other one did nothing (`Follows`): every step of the one has its counterpart in a step of the
other (`Follows.step`), and what the other thread does makes no difference (`Advances.beside`). So
it is for all turns that two threads can take (`Beside.interleave`). -/

set_option autoImplicit false

namespace RuntimeStubs

namespace BootstrapState

theorem filter_enter (kind : Phase) (archive : Option Phase) (s : BootstrapState) :
    (enter kind archive s).2.log.filter = s.log.filter := by
  cases checked : s.bootstrap.check kind archive with
  | error fault => rw [enter_of_check_error checked]
  | ok =>
    by_cases reopens : kind = .compiler ∧ s.registry.frozen = true
    · obtain ⟨rfl, frozen⟩ := reopens
      simp [enter, Action.bind_apply, checked, frozen, report, onRegistry, setStatus,
        Registry.unfreezing, Registry.reported, Registry.unfreeze]
    · simp [enter, Action.bind_apply, checked, reopens, report, setStatus]

theorem filter_leave (kind : Phase) (published : Nat) (s : BootstrapState) :
    (leave kind published s).2.log.filter = s.log.filter := by
  by_cases freezes : isOver (s.bootstrap.withStatus kind .done) = true ∧ s.registry.frozen = false
  · simp [leave, Action.bind_apply, freezes, report, onRegistry, setStatus, Registry.freezing,
      Registry.reported, Registry.freeze]
  · simp [leave, Action.bind_apply, freezes, report, setStatus]

variable {b : Bootstrap} {kind : Phase}

theorem isOver_enter (pending : b.status kind = .pending) :
    isOver (b.withStatus kind .running) = (isOver b && kind != .compiler) := by
  cases kind with
  | final => simp only [isOver, Bootstrap.status_withStatus_self, pending]; rfl
  | initial | continuation | compiler => simp [isOver, Bootstrap.status_withStatus]

theorem isOver_leave (running : b.status kind = .running) :
    (isOver b || isOver (b.withStatus kind .done)) = isOver (b.withStatus kind .done) := by
  cases kind <;> simp [isOver, Bootstrap.status_withStatus, running]

end BootstrapState

/-- A state with the two earlier phases done, and with the given descriptors registered since. -/
structure Since (base : BootstrapState) (added : List Descriptor) (s : BootstrapState) : Prop where
  registry : s.registry =
    ⟨base.registry.descriptors ++ added, BootstrapState.isOver s.bootstrap⟩
  filter : s.log.filter = base.log.filter
  delayed : s.bootstrap.delayed = true
  listing : s.bootstrap.listing = base.bootstrap.listing
  initial : s.bootstrap.status .initial = .done
  continuation : s.bootstrap.status .continuation = .done

namespace Since

variable {base s t : BootstrapState} {added : List Descriptor} {kind : Phase}

-- A delayed compiler phase is no requirement of any phase.
theorem missing? (since : Since base added s) (kind : Phase) :
    s.bootstrap.missing? kind = none := by
  rw [Bootstrap.missing?_eq_none_iff, since.delayed]
  intro required requires
  have earlier : required = .initial ∨ required = .continuation := by
    cases kind <;> simp_all [Phase.requires]
  rcases earlier with rfl | rfl
  · exact since.initial
  · exact since.continuation

theorem check_eq {more : List Descriptor} (since : Since base added s) (other : Since base more t)
    (same : s.bootstrap.status kind = t.bootstrap.status kind) (archive : Option Phase) :
    s.bootstrap.check kind archive = t.bootstrap.check kind archive := by
  rw [Bootstrap.check, Bootstrap.check, since.missing?, other.missing?, same]

theorem enter (since : Since base added s) {archive : Option Phase}
    (accepted : s.bootstrap.check kind archive = .ok ()) :
    ∃ t, BootstrapState.enter kind archive s = (.ok (), t) ∧ Since base added t ∧
      t.bootstrap.status kind = .running ∧
      ∀ other ≠ kind, t.bootstrap.status other = s.bootstrap.status other := by
  obtain ⟨log, entered⟩ := BootstrapState.enter_of_check_ok accepted
  obtain ⟨-, pending, -⟩ := Bootstrap.check_eq_ok_iff.mp accepted
  have filter := BootstrapState.filter_enter kind archive s
  rw [entered] at filter
  have differ {phase : Phase} (done : s.bootstrap.status phase = .done) : phase ≠ kind := by
    rintro rfl
    rw [done] at pending
    cases pending
  refine ⟨_, entered, ⟨?_, filter.trans since.filter, since.delayed, since.listing, ?_, ?_⟩,
    Bootstrap.status_withStatus_self .., fun _ other => Bootstrap.status_withStatus_ne other ..⟩
  · rw [since.registry, BootstrapState.isOver_enter pending]
  · exact (Bootstrap.status_withStatus_ne (differ since.initial) ..).trans since.initial
  · exact (Bootstrap.status_withStatus_ne (differ since.continuation) ..).trans since.continuation

theorem leave (since : Since base added s) (running : s.bootstrap.status kind = .running)
    (published : Nat) :
    ∃ t, BootstrapState.leave kind published s = (.ok (), t) ∧ Since base added t ∧
      t.bootstrap.status kind = .done ∧
      ∀ other ≠ kind, t.bootstrap.status other = s.bootstrap.status other := by
  obtain ⟨log, left⟩ := BootstrapState.leave_eq kind published s
  have filter := BootstrapState.filter_leave kind published s
  rw [left] at filter
  refine ⟨_, left, ⟨?_, filter.trans since.filter, since.delayed, since.listing, ?_, ?_⟩,
    Bootstrap.status_withStatus_self .., fun _ other => Bootstrap.status_withStatus_ne other ..⟩
  · rw [since.registry, BootstrapState.isOver_leave running]
  · rw [Bootstrap.status_withStatus, since.initial, ite_self]
  · rw [Bootstrap.status_withStatus, since.continuation, ite_self]

-- The registry is open while a phase is running that may have to register.
theorem not_isOver (since : Since base added s) (running : s.bootstrap.status kind = .running) :
    BootstrapState.isOver s.bootstrap = false := by
  have initial := since.initial
  have continuation := since.continuation
  cases kind <;> simp_all [BootstrapState.isOver]

theorem unfrozen (since : Since base added s) (running : s.bootstrap.status kind = .running) :
    s.registry = ⟨base.registry.descriptors ++ added, false⟩ := by
  rw [since.registry, since.not_isOver running]

theorem register (since : Since base added s) (running : s.bootstrap.status kind = .running)
    {more : List Descriptor} {registry : Registry} {log : Log}
    (registered : registry = ⟨base.registry.descriptors ++ more, false⟩)
    (filter : log.filter = base.log.filter) :
    Since base more { s with registry := registry, log := log } := by
  refine ⟨?_, filter, since.delayed, since.listing, since.initial, since.continuation⟩
  exact registered.trans (by rw [since.not_isOver running])

theorem bootstrap_eq {more : List Descriptor} (since : Since base added s)
    (other : Since base more t)
    (compiler : s.bootstrap.status .compiler = t.bootstrap.status .compiler)
    (final : s.bootstrap.status .final = t.bootstrap.status .final) :
    s.bootstrap = t.bootstrap := by
  have delayed := since.delayed.trans other.delayed.symm
  have listing := since.listing.trans other.listing.symm
  have status : s.bootstrap.status = t.bootstrap.status := by
    funext kind
    cases kind with
    | initial => exact since.initial.trans other.initial.symm
    | continuation => exact since.continuation.trans other.continuation.symm
    | compiler => exact compiler
    | final => exact final
  generalize s.bootstrap = b, t.bootstrap = c at delayed listing status ⊢
  cases b
  cases c
  simp_all

end Since

/-- The worker with another handle of the stub that is open. -/
def Worker.holding {σ η : Type} (active : Option Handle) (w : Worker σ η) : Worker σ η :=
  { w with generator.active := active }

namespace Thread

variable {σ τ η θ : Type} [Sink σ] [Sink τ] {party : Bool} {base s solo : BootstrapState}
  {entries later : List (Bool × Descriptor)}

def place (party : Bool) (base : BootstrapState) : Place := ⟨party, base.registry.descriptors⟩

/-- A thread beside another one has come as far as it would have alone. -/
structure Follows (party : Bool) (base : BootstrapState) (entries : List (Bool × Descriptor))
    (s : BootstrapState) (t : Thread σ η) (alone : Thread σ η × BootstrapState) : Prop where
  worker : t.worker = alone.1.worker.holding t.worker.generator.active
  active : Option.Rel ((place party base).Names (entries.map Prod.fst)) t.worker.generator.active
    alone.1.worker.generator.active
  current : Option.Rel (Session.Tracks (place party base) base.log.filter Session.Equal
    (entries.map Prod.fst)) t.current alone.1.current
  standard : alone.1.worker.generator.hooks = .standard
  since : Since base (share party entries) alone.2
  status : alone.2.bootstrap.status alone.1.worker.kind = s.bootstrap.status alone.1.worker.kind
  busy : alone.1.current ≠ none → alone.1.worker.progress = .working
  working : alone.1.worker.progress = .working → s.bootstrap.status alone.1.worker.kind = .running

/-- What a step does to the thread that takes it, and what it leaves to the others. -/
structure Advances (party : Bool) (base : BootstrapState) (entries later : List (Bool × Descriptor))
    (s : BootstrapState) (kind : Phase) (next alone : Thread σ η × BootstrapState) : Prop where
  keeps : (place party base).Keeps entries later
  since : Since base (later.map Prod.snd) next.2
  follows : Follows party base later next.2 next.1 alone
  sameKind : alone.1.worker.kind = kind
  others : ∀ other ≠ kind, next.2.bootstrap.status other = s.bootstrap.status other

section

variable {v : Worker σ η} {active : Option Handle}
  {current soloCurrent : Option (Stepwise (Session σ η) StubEntries)}

theorem Follows.tracks {w : Worker σ η}
    {computation soloComputation : Stepwise (Session σ η) StubEntries}
    (follows : Follows party base entries s ⟨w, some computation⟩
      (⟨v, some soloComputation⟩, solo)) :
    Session.Tracks (place party base) base.log.filter Session.Equal (entries.map Prod.fst)
      computation soloComputation := by
  cases follows.current with
  | some tracks => exact tracks

-- While a task is under way the phase is running, so that both registries are open.
theorem Follows.alike
    (follows : Follows party base entries s ⟨v.holding active, current⟩ (⟨v, soloCurrent⟩, solo))
    (since : Since base (entries.map Prod.snd) s) (busy : soloCurrent ≠ none) :
    Session.Alike (place party base) base.log.filter entries
      ⟨(v.holding active).generator, s.registry, s.log⟩ ⟨v.generator, solo.registry, solo.log⟩ := by
  have running := follows.working (follows.busy busy)
  have sameFilter : solo.log.filter = s.log.filter := follows.since.filter.trans since.filter.symm
  refine ⟨?_, ?_, follows.active, follows.since.filter, follows.standard⟩
  · simp only [Session.moveTo, sameFilter, since.unfrozen running]
    rfl
  · exact follows.since.unfrozen (follows.status.trans running)

theorem Follows.move {move moveSolo : Session σ η → Session σ η}
    {next nextSolo : Session σ η → Stepwise (Session σ η) StubEntries}
    (follows : Follows party base entries s ⟨v.holding active, some (.step move next)⟩
      (⟨v, some (.step moveSolo nextSolo)⟩, solo))
    (since : Since base (entries.map Prod.snd) s) :
    ∃ later, Advances party base entries later s v.kind
      (step ⟨v.holding active, some (.step move next)⟩ s)
      (step ⟨v, some (.step moveSolo nextSolo)⟩ solo) := by
  have alike := follows.alike since (by simp)
  have running := follows.working (follows.busy (by simp))
  obtain ⟨later, keeps, remains, tracks⟩ :=
    follows.tracks entries _ _ (List.prefix_refl _) alike
  have filter := congrArg (fun session => session.log.filter) remains.same
  refine ⟨later, keeps, ?_, ⟨?_, remains.active, .some tracks, remains.standard, ?_,
    follows.status, fun _ => follows.busy (by simp), follows.working⟩, rfl, fun _ _ => rfl⟩
  · exact since.register running remains.shared (filter.trans remains.filter)
  · exact congrArg (fun session : Session σ η =>
      { v with generator := session.toGenerator }) remains.same
  · exact follows.since.register (follows.status.trans running) remains.registry remains.filter

theorem Follows.conclude {result resultSolo : Except Fault StubEntries}
    (follows : Follows party base entries s ⟨v.holding active, some (.done result)⟩
      (⟨v, some (.done resultSolo)⟩, solo))
    (since : Since base (entries.map Prod.snd) s) :
    Advances party base entries entries s v.kind
      (step ⟨v.holding active, some (.done result)⟩ s)
      (step ⟨v, some (.done resultSolo)⟩ solo) := by
  have running := follows.working (follows.busy (by simp))
  obtain rfl : result = resultSolo := Session.Matches.eq follows.tracks
  exact ⟨.refl _ _, since, ⟨rfl, follows.active, .none, follows.standard, follows.since,
    follows.status, fun busy => absurd rfl busy, fun _ => running⟩, rfl, fun _ _ => rfl⟩

theorem Follows.begin {task : Task σ} {rest : List (Task σ)}
    (follows : Follows party base entries s ⟨v.holding active, none⟩ (⟨v, none⟩, solo))
    (since : Since base (entries.map Prod.snd) s) (working : v.progress = .working)
    (tasks : v.tasks = task :: rest) :
    Advances party base entries entries s v.kind (step ⟨v.holding active, none⟩ s)
      (step ⟨v, none⟩ solo) := by
  have first := step_task (s := s) (w := v.holding active) working tasks
  have second := step_task (s := solo) working tasks
  rw [resting] at first second
  rw [first, second]
  exact ⟨.refl _ _, since, ⟨rfl, follows.active,
    .some (Session.generateSteps_tracks task.stub task.extra task.emit), follows.standard,
    follows.since, follows.status, fun _ => working, follows.working⟩, rfl, fun _ _ => rfl⟩

theorem Follows.enter
    (follows : Follows party base entries s ⟨v.holding active, none⟩ (⟨v, none⟩, solo))
    (since : Since base (entries.map Prod.snd) s) (waiting : v.progress = .waiting) :
    Advances party base entries entries s v.kind (resting ((v.holding active).step s).1,
      ((v.holding active).step s).2) (resting (v.step solo).1, (v.step solo).2) := by
  let archive := v.generator.archive.map Archive.kind
  have same := since.check_eq follows.since follows.status.symm archive
  cases checked : s.bootstrap.check v.kind archive with
  | error fault =>
    have refused := BootstrapState.enter_of_check_error checked
    have refusedSolo := BootstrapState.enter_of_check_error (same.symm.trans checked)
    simp only [Worker.step, Worker.holding, waiting, archive, refused, refusedSolo]
    exact ⟨.refl _ _, since, ⟨rfl, follows.active, .none, follows.standard, follows.since,
      follows.status, fun busy => absurd rfl busy, by simp [resting]⟩, rfl, fun _ _ => rfl⟩
  | ok =>
    obtain ⟨t, entered, sinceEntered, running, others⟩ := since.enter checked
    obtain ⟨u, enteredSolo, sinceSolo, runningSolo, -⟩ :=
      follows.since.enter (same.symm.trans checked)
    have listing := sinceEntered.listing.trans sinceSolo.listing.symm
    simp only [Worker.step, Worker.holding, waiting, archive, entered, enteredSolo]
    refine ⟨.refl _ _, sinceEntered, ⟨?_, follows.active, .none, follows.standard, sinceSolo,
      runningSolo.trans running.symm, fun busy => absurd rfl busy, fun _ => running⟩, rfl, others⟩
    simp only [resting, Worker.holding, listing]

theorem Follows.leave
    (follows : Follows party base entries s ⟨v.holding active, none⟩ (⟨v, none⟩, solo))
    (since : Since base (entries.map Prod.snd) s) (working : v.progress = .working)
    (tasks : v.tasks = []) :
    Advances party base entries entries s v.kind (resting ((v.holding active).step s).1,
      ((v.holding active).step s).2) (resting (v.step solo).1, (v.step solo).2) := by
  have running := follows.working working
  obtain ⟨t, left, sinceLeft, done, others⟩ := since.leave running v.generator.published
  obtain ⟨u, leftSolo, sinceSolo, doneSolo, -⟩ :=
    follows.since.leave (follows.status.trans running) v.generator.published
  simp only [Worker.step, Worker.holding, working, tasks, left, leftSolo]
  exact ⟨.refl _ _, sinceLeft, ⟨rfl, follows.active, .none, follows.standard, sinceSolo,
    doneSolo.trans done.symm, fun busy => absurd rfl busy, by simp [resting]⟩, rfl, others⟩

theorem Follows.rest
    (follows : Follows party base entries s ⟨v.holding active, none⟩ (⟨v, none⟩, solo))
    (since : Since base (entries.map Prod.snd) s)
    (noTask : v.progress = .working → v.tasks = []) :
    Advances party base entries entries s v.kind (step ⟨v.holding active, none⟩ s)
      (step ⟨v, none⟩ solo) := by
  have first := step_resting (s := s) (w := v.holding active) noTask
  have second := step_resting (s := solo) (w := v) noTask
  rw [resting] at first second
  rw [first, second]
  cases progress : v.progress with
  | waiting => exact follows.enter since progress
  | working => exact follows.leave since progress (noTask progress)
  | finished | failed =>
    have settled : v.Settled := by simp [Worker.Settled, progress]
    have settledToo : (v.holding active).Settled := settled
    rw [Worker.step_of_settled settled, Worker.step_of_settled settledToo]
    exact ⟨.refl _ _, since, follows, rfl, fun _ _ => rfl⟩

end

theorem Follows.step {t : Thread σ η} {alone : Thread σ η × BootstrapState}
    (follows : Follows party base entries s t alone)
    (since : Since base (entries.map Prod.snd) s) :
    ∃ later, Advances party base entries later s alone.1.worker.kind (t.step s)
      (alone.1.step alone.2) := by
  obtain ⟨w, current⟩ := t
  obtain ⟨⟨v, soloCurrent⟩, solo⟩ := alone
  have sameWorker : w = v.holding w.generator.active := follows.worker
  generalize w.generator.active = active at sameWorker
  subst sameWorker
  have bothCurrent := follows.current
  cases soloCurrent with
  | none =>
    cases bothCurrent
    by_cases noTask : v.progress = .working → v.tasks = []
    · exact ⟨entries, follows.rest since noTask⟩
    · obtain ⟨working, tasks⟩ := Classical.not_imp.mp noTask
      obtain ⟨task, rest, tasks⟩ := List.exists_cons_of_ne_nil tasks
      exact ⟨entries, follows.begin since working tasks⟩
  | some soloComputation =>
    cases current with
    | none => cases bothCurrent
    | some computation =>
      cases computation <;> cases soloComputation
      · exact ⟨entries, follows.conclude since⟩
      · exact follows.tracks.elim
      · exact follows.tracks.elim
      · exact follows.move since

theorem Advances.beside {kind : Phase} {next alone : Thread σ η × BootstrapState}
    {u : Thread τ θ} {aloneOther : Thread τ θ × BootstrapState}
    (advances : Advances party base entries later s kind next alone)
    (follows : Follows (!party) base entries s u aloneOther)
    (differ : aloneOther.1.worker.kind ≠ kind) :
    Follows (!party) base later next.2 u aloneOther where
  worker := follows.worker
  active := Place.rel_names_mono follows.active advances.keeps.owners
  current := by
    have both := follows.current
    generalize u.current = current, aloneOther.1.current = soloCurrent at both
    cases both with
    | none => exact .none
    | some tracks => exact .some (Session.Tracks.mono tracks advances.keeps.owners)
  standard := follows.standard
  since := (show share (!party) later = _ from advances.keeps.other) ▸ follows.since
  status := follows.status.trans (advances.others _ differ).symm
  busy := follows.busy
  working working := (advances.others _ differ).trans (follows.working working)

/-! ### Two threads -/

/-- Both threads have come as far as each of them would have alone. -/
structure Beside (base : BootstrapState) (entries : List (Bool × Descriptor))
    (x : (Thread σ η × Thread τ θ) × BootstrapState) (first : Thread σ η × BootstrapState)
    (second : Thread τ θ × BootstrapState) : Prop where
  since : Since base (entries.map Prod.snd) x.2
  one : Follows true base entries x.2 x.1.1 first
  other : Follows false base entries x.2 x.1.2 second
  differ : first.1.worker.kind ≠ second.1.worker.kind

variable {x : (Thread σ η × Thread τ θ) × BootstrapState} {first : Thread σ η × BootstrapState}
  {second : Thread τ θ × BootstrapState}

theorem Beside.stepFirst (beside : Beside base entries x first second) :
    ∃ later, Beside base later (((x.1.1.step x.2).1, x.1.2), (x.1.1.step x.2).2)
      (first.1.step first.2) second := by
  obtain ⟨later, advances⟩ := beside.one.step beside.since
  refine ⟨later, advances.since, advances.follows, ?_, advances.sameKind ▸ beside.differ⟩
  exact advances.beside beside.other beside.differ.symm

theorem Beside.stepSecond (beside : Beside base entries x first second) :
    ∃ later, Beside base later ((x.1.1, (x.1.2.step x.2).1), (x.1.2.step x.2).2) first
      (second.1.step second.2) := by
  obtain ⟨later, advances⟩ := beside.other.step beside.since
  refine ⟨later, advances.since, ?_, advances.follows, advances.sameKind ▸ beside.differ⟩
  exact advances.beside beside.one beside.differ

theorem Beside.interleave (beside : Beside base entries x first second) (turns : List Bool) :
    ∃ later m n, Beside base later (Thread.interleave turns x.1.1 x.1.2 x.2)
      (steps m first.1 first.2) (steps n second.1 second.2) := by
  induction turns generalizing entries x first second with
  | nil => exact ⟨entries, 0, 0, beside⟩
  | cons turn turns ih =>
    cases turn with
    | true =>
      obtain ⟨later, stepped⟩ := beside.stepFirst
      obtain ⟨last, m, n, ran⟩ := ih stepped
      exact ⟨last, m + 1, n, ran⟩
    | false =>
      obtain ⟨later, stepped⟩ := beside.stepSecond
      obtain ⟨last, m, n, ran⟩ := ih stepped
      exact ⟨last, m, n + 1, ran⟩

end Thread

end RuntimeStubs
