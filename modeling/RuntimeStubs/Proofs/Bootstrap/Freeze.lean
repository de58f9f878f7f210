import RuntimeStubs.Proofs.Bootstrap.Timeline

/-! When the registry is frozen.

On every timeline the registry is frozen exactly as long as the final phase is done and the compiler
phase is not running (`freeze_protocol`). A body is therefore never refused a registration because
of the freeze: the final phase is done only after the phases it requires, so that the compiler phase
is the only one that can still execute then, and it keeps the registry open. -/

set_option autoImplicit false

namespace RuntimeStubs.Timeline

theorem Sequenced.initial_done {t : Timeline} (sequenced : t.Sequenced)
    (final : t.status .final = .done) : t.status .initial = .done := by
  apply sequenced.required .final (by rw [final]; decide)
  cases t.shared.bootstrap.delayed <;> decide

theorem Sequenced.continuation_done {t : Timeline} (sequenced : t.Sequenced)
    (final : t.status .final = .done) : t.status .continuation = .done := by
  apply sequenced.required .final (by rw [final]; decide)
  cases t.shared.bootstrap.delayed <;> decide

-- With the final phase done, the two phases before it are done as well, and no phase that is done
-- is executing. The compiler phase is not running by the freeze itself.
theorem Sequenced.not_executing {t : Timeline} (sequenced : t.Sequenced)
    (frozen : t.shared.registry.frozen = true) (kind : Phase) : kind ∉ t.executing := by
  intro executing
  have running := sequenced.running kind executing
  obtain ⟨final, compiler⟩ := sequenced.frozen.mp frozen
  cases kind with
  | initial =>
    rw [sequenced.initial_done final] at running
    cases running
  | continuation =>
    rw [sequenced.continuation_done final] at running
    cases running
  | compiler => exact compiler running
  | final =>
    rw [final] at running
    cases running

theorem Sequenced.unfrozen {t : Timeline} (sequenced : t.Sequenced) {kind : Phase}
    (executing : kind ∈ t.executing) : t.shared.registry.frozen = false :=
  Bool.eq_false_iff.mpr fun frozen => sequenced.not_executing frozen kind executing

-- What a phase is refused for is found before the freeze is looked at.
theorem enter_ne_repeated (kind : Phase) (archive : Option Phase) (s : BootstrapState) :
    (BootstrapState.enter kind archive s).1 ≠ .error .repeatedFreeze ∧
      (BootstrapState.enter kind archive s).1 ≠ .error .repeatedUnfreeze := by
  cases checked : s.bootstrap.check kind archive with
  | error fault =>
    rw [BootstrapState.enter_of_check_error checked]
    rcases Bootstrap.fault_of_check checked with ⟨actual, rfl⟩ | rfl | ⟨required, rfl⟩ <;> simp
  | ok =>
    obtain ⟨log, entered⟩ := BootstrapState.enter_of_check_ok checked
    simp [entered]

theorem leave_ok (kind : Phase) (published : Nat) (s : BootstrapState) :
    (BootstrapState.leave kind published s).1 = .ok () := by
  obtain ⟨log, left⟩ := BootstrapState.leave_eq kind published s
  rw [left]

/-- The freeze follows the phases in whatever order they come, and no body notices it. -/
theorem freeze_protocol (delayed listing : Bool) (log : Log) (events : List Event) :
    let t := (start delayed listing log).run events
    (t.shared.registry.frozen = true ↔
        t.status .final = .done ∧ t.status .compiler ≠ .running) ∧
      (t.shared.registry.frozen = true → t.executing = []) ∧
      (∀ kind ∈ t.executing, ∀ group name begins ends otherGroup otherName,
        t.shared.registry.register group name begins ends ≠
          .error (.registryFrozen otherGroup otherName)) ∧
      (∀ kind archive,
        (BootstrapState.enter kind archive t.shared).1 ≠ .error .repeatedFreeze ∧
          (BootstrapState.enter kind archive t.shared).1 ≠ .error .repeatedUnfreeze) ∧
      ∀ kind published, (BootstrapState.leave kind published t.shared).1 = .ok () := by
  intro t
  have sequenced : t.Sequenced := (sequenced_start delayed listing log).run events
  refine ⟨sequenced.frozen, ?_, ?_, ?_, ?_⟩
  · intro frozen
    exact List.eq_nil_iff_forall_not_mem.mpr (sequenced.not_executing frozen)
  · intro kind executing group name begins ends
    exact Registry.register_ne_frozen (sequenced.unfrozen executing) group name begins ends
  · intro kind archive
    exact enter_ne_repeated kind archive t.shared
  · intro kind published
    exact leave_ok kind published t.shared

def overtaken : List Event :=
  [.ask .initial none, .succeed .initial 0, .ask .continuation none, .succeed .continuation 0,
    .ask .final none, .ask .compiler none, .succeed .final 0]

theorem freeze_protocol_overtaken :
    let t := (start true false (.create (.upTo 3))).run overtaken
    (t.status .final = .done ∧ .compiler ∈ t.executing ∧ t.shared.registry.frozen ≠ true ∧
      ∀ group name begins ends otherGroup otherName,
        t.shared.registry.register group name begins ends ≠
          .error (.registryFrozen otherGroup otherName)) ∧
    (t.step (.succeed .compiler 0)).shared.registry.frozen = true ∧
      (t.step (.succeed .compiler 0)).executing = [] := by
  intro t
  have protocol := freeze_protocol true false (.create (.upTo 3)) overtaken
  have executing : .compiler ∈ t.executing := by decide
  have later := freeze_protocol true false (.create (.upTo 3)) (overtaken ++ [.succeed .compiler 0])
  have frozen : (t.step (.succeed .compiler 0)).shared.registry.frozen = true :=
    later.1.mpr (by decide)
  refine ⟨⟨by decide, executing, ?_, protocol.2.2.1 .compiler executing⟩, frozen,
    later.2.1 frozen⟩
  exact mt protocol.1.mp (by decide)

end RuntimeStubs.Timeline
