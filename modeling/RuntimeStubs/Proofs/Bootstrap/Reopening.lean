import RuntimeStubs.Proofs.Bootstrap.Freeze

/-! When the registry stays open for good.

A delayed compiler phase opens the frozen registry when it starts and is to close it when it ends.
Only an end in success closes it: a body that fails leaves its phase running although nothing
executes any more. Main statement (`quiet_frozen_iff`): with the final phase done and no body
executing, the registry is frozen unless the body of the compiler phase has failed, and if it has,
the registry is never frozen again. Without the delay this cannot happen; with it, it does
(`deserted_open`). -/

set_option autoImplicit false

namespace RuntimeStubs.Timeline

/-- The phase counts as running, but nothing executes its body. -/
def Forsaken (t : Timeline) (kind : Phase) : Prop :=
  t.status kind = .running ∧ kind ∉ t.executing

/-- At one of the events the body of the phase was executing and has returned an error. -/
def Fails (t : Timeline) (events : List Event) (kind : Phase) : Prop :=
  ∃ before fault after, events = before ++ .fail kind fault :: after ∧
    kind ∈ (t.run before).executing

theorem fails_cons_iff {t : Timeline} {event : Event} {rest : List Event} {kind : Phase} :
    t.Fails (event :: rest) kind ↔
      (∃ fault, event = .fail kind fault ∧ kind ∈ t.executing) ∨
        (t.step event).Fails rest kind := by
  constructor
  · rintro ⟨before, fault, after, split, executing⟩
    cases before with
    | nil =>
      cases split
      exact .inl ⟨fault, rfl, executing⟩
    | cons first before =>
      cases split
      exact .inr ⟨before, fault, after, rfl, executing⟩
  · rintro (⟨fault, rfl, executing⟩ | ⟨before, fault, after, rfl, executing⟩)
    · exact ⟨[], fault, rest, rfl, executing⟩
    · exact ⟨event :: before, fault, after, rfl, executing⟩

-- A phase that starts is executing, one that ends well is done, and both events leave other phases
-- alone.
theorem forsaken_step_iff {t : Timeline} (sequenced : t.Sequenced) {event : Event} {kind : Phase} :
    (t.step event).Forsaken kind ↔
      (∃ fault, event = .fail kind fault ∧ kind ∈ t.executing) ∨ t.Forsaken kind := by
  cases event with
  | call call | log log => simp [Timeline.step, Forsaken, status]
  | ask phase archive =>
    cases checked : t.shared.bootstrap.check phase archive with
    | error fault =>
      simp [Timeline.step, BootstrapState.enter_of_check_error checked, Forsaken, status]
    | ok =>
      obtain ⟨log, entered⟩ := BootstrapState.enter_of_check_ok checked
      have pending := (Bootstrap.check_eq_ok_iff.mp checked).2.1
      by_cases same : kind = phase
      · subst same
        simp [Timeline.step, entered, Forsaken, status, pending]
      · simp [Timeline.step, entered, Forsaken, status, Bootstrap.status_withStatus, same]
  | succeed phase published =>
    by_cases executing : phase ∈ t.executing
    · obtain ⟨log, left⟩ := BootstrapState.leave_eq phase published t.shared
      by_cases same : kind = phase
      · subst same
        simp [Timeline.step, executing, left, Forsaken, status]
      · simp [Timeline.step, executing, left, Forsaken, status, Bootstrap.status_withStatus, same,
          List.mem_erase_of_ne same]
    · simp [Timeline.step, executing, Forsaken]
  | fail phase fault =>
    by_cases executing : phase ∈ t.executing
    · by_cases same : kind = phase
      · subst same
        have running : t.shared.bootstrap.status kind = .running := sequenced.running kind executing
        simp [Timeline.step, executing, Forsaken, status, running, sequenced.nodup.mem_erase_iff]
      · simp [Timeline.step, executing, Forsaken, status, List.mem_erase_of_ne same, Ne.symm same]
    · by_cases same : kind = phase
      · subst same
        simp [Timeline.step, executing, Forsaken]
      · simp [Timeline.step, executing, Forsaken, Ne.symm same]

theorem forsaken_run_iff {t : Timeline} (sequenced : t.Sequenced) {events : List Event}
    {kind : Phase} : (t.run events).Forsaken kind ↔ t.Fails events kind ∨ t.Forsaken kind := by
  induction events generalizing t with
  | nil => simp [run, Fails]
  | cons event rest ih =>
    rw [fails_cons_iff]
    refine (ih (sequenced.step event)).trans ?_
    rw [forsaken_step_iff sequenced, ← or_assoc, or_comm (a := Fails _ _ _)]

theorem Sequenced.frozen_iff_not_forsaken {t : Timeline} (sequenced : t.Sequenced)
    (final : t.status .final = .done) (idle : t.executing = []) :
    t.shared.registry.frozen = true ↔ ¬ t.Forsaken .compiler := by
  rw [sequenced.frozen, Forsaken, idle]
  simp [final]

-- Nobody is left who could end the phase.
theorem Sequenced.open_of_forsaken {t : Timeline} (sequenced : t.Sequenced)
    (forsaken : t.Forsaken .compiler) (later : List Event) :
    (t.run later).shared.registry.frozen = false := by
  have lasts : (t.run later).Forsaken .compiler :=
    (forsaken_run_iff sequenced).mpr (.inr forsaken)
  refine Bool.eq_false_iff.mpr fun frozen => ?_
  exact ((sequenced.run later).frozen.mp frozen).2 lasts.1

-- Without the delay the final phase requires the compiler phase.
theorem Sequenced.not_forsaken_of_final {t : Timeline} (sequenced : t.Sequenced)
    (final : t.status .final = .done) (delayed : t.shared.bootstrap.delayed = false) :
    ¬ t.Forsaken .compiler := by
  rintro ⟨running, -⟩
  have done : t.status .compiler = .done :=
    sequenced.required .final (by rw [final]; decide) .compiler (by rw [delayed]; decide)
  rw [done] at running
  cases running

theorem not_forsaken_start (delayed listing : Bool) (log : Log) (kind : Phase) :
    ¬ (start delayed listing log).Forsaken kind := by
  rintro ⟨running, -⟩
  cases running

/-- In the quiet after the final phase the registry is frozen, unless the body of a delayed compiler
phase has failed. After such a failure it stays open whatever happens later. -/
theorem quiet_frozen_iff (delayed listing : Bool) (log : Log) (events : List Event) :
    let s := start delayed listing log
    let t := s.run events
    t.status .final = .done → t.executing = [] →
      (t.shared.registry.frozen = true ↔ ¬ s.Fails events .compiler) ∧
      (delayed = false → ¬ s.Fails events .compiler) ∧
      (¬ s.Fails events .compiler → ∀ group name begins ends,
        (∀ result, t.shared.registry.register group name begins ends ≠ .ok result) ∧
        (name ≠ "" → (∀ stop, ends = some stop → ¬ stop < begins) →
          t.shared.registry.register group name begins ends =
            .error (.registryFrozen group name))) ∧
      (s.Fails events .compiler → ∀ later, (t.run later).shared.registry.frozen = false) := by
  intro s t final idle
  have fresh : s.Sequenced := sequenced_start delayed listing log
  have sequenced : t.Sequenced := fresh.run events
  have fails_iff : t.Forsaken .compiler ↔ s.Fails events .compiler :=
    (forsaken_run_iff fresh).trans (or_iff_left (not_forsaken_start delayed listing log _))
  have frozen_iff := sequenced.frozen_iff_not_forsaken final idle
  rw [fails_iff] at frozen_iff
  refine ⟨frozen_iff, ?_, ?_, ?_⟩
  · intro undelayed
    rw [← fails_iff]
    exact sequenced.not_forsaken_of_final final ((delayed_run s events).trans undelayed)
  · intro succeeds group name begins ends
    have frozen := frozen_iff.mpr succeeds
    exact ⟨Registry.register_ne_ok frozen group name begins ends,
      Registry.register_of_frozen frozen group⟩
  · intro fails later
    exact sequenced.open_of_forsaken (fails_iff.mpr fails) later

/-- The delayed compiler phase ends well inside the body of the final phase, after an attempt to
enter it a second time. -/
def settled : List Event :=
  [.ask .initial none, .succeed .initial 0, .ask .continuation none, .succeed .continuation 0,
    .ask .final none, .ask .compiler none, .ask .compiler none, .succeed .compiler 0,
    .succeed .final 0]

theorem quiet_frozen_iff_settled :
    let t := (start true false (.create (.upTo 0))).run settled
    (t.status .final = .done ∧ t.executing = []) ∧ t.shared.registry.frozen = true ∧
      t.shared.registry.register "Late" "intruder" ⟨0x10⟩ none =
        .error (.registryFrozen "Late" "intruder") := by
  intro t
  have final : t.status .final = .done := by decide
  have idle : t.executing = [] := by decide
  obtain ⟨frozen_iff, -, refuses, -⟩ :=
    quiet_frozen_iff true false (.create (.upTo 0)) settled final idle
  have frozen : t.shared.registry.frozen = true := by decide
  refine ⟨⟨final, idle⟩, frozen, ?_⟩
  exact (refuses (frozen_iff.mp frozen) "Late" "intruder" ⟨0x10⟩ none).2 (by decide) (by simp)

def deserted : List Event :=
  [.ask .initial none, .succeed .initial 0, .ask .continuation none, .succeed .continuation 0,
    .ask .final none, .succeed .final 0, .ask .compiler none,
    .fail .compiler (.codeGeneration "lost")]

theorem deserted_open :
    let t := (start true false (.create (.upTo 0))).run deserted
    t.status .final = .done ∧ t.executing = [] ∧ t.shared.registry.frozen = false ∧
      t.shared.registry.register "Late" "intruder" ⟨0x10⟩ none =
        .ok (⟨0⟩, t.shared.registry.push (.create "Late" "intruder" ⟨0x10⟩ none)) := by
  decide +kernel

end RuntimeStubs.Timeline
