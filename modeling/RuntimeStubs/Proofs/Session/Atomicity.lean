import RuntimeStubs.Proofs.Code.Calls
import RuntimeStubs.Proofs.Session.Endings

/-! Operations that come to nothing.

Each single operation of a session does all it is for or, as far as anybody is told or can look up,
nothing. A failure may leave a sink that has been flushed, a current stub in the archive, reports in
the log and, where a stub could not be opened, one descriptor without an end. Main statement
(`operations_atomic`): nothing else differs after a failure, and in a code buffer with the standard
hooks no descriptor is left behind either, because a flush that follows another one has nothing to
do. -/

set_option autoImplicit false

namespace RuntimeStubs

namespace CodeBuffer

theorem flush_of_flush {b c : CodeBuffer} (flushed : flush b = (.ok (), c)) :
    flush c = (.ok (), c) := by
  rw [eq_of_flush flushed]
  rfl

end CodeBuffer

namespace Session

variable {σ η : Type} {s t : Session σ η} {fault : Fault}

theorem commit_withdrawn {stub : Stub} {start stop : Address} {extras : List Address}
    (failed : commit stub start stop extras s = (.error fault, t)) : t = s := by
  cases (commit_ends ..).of_eq failed with
  | refused => rfl

variable [Sink σ]

theorem openStub_withdrawn {group name : String}
    (failed : openStub group name s = (.error fault, t)) :
    ∃ added : List Descriptor, added.length ≤ 1 ∧ (∀ d ∈ added, d.isComplete = false) ∧
      Quiet { s with registry.descriptors := s.registry.descriptors ++ added } t := by
  cases (openStub_ends ..).of_eq failed with
  | refused _ quiet => exact ⟨[], by simp, by simp, by simpa using quiet⟩
  | abandoned _ start quiet =>
    refine ⟨[.create group name start none], Nat.le_refl _, fun d member => ?_, quiet⟩
    cases List.mem_singleton.mp member
    rfl

-- The epilog aborts only after the stub has been completed. An abort is not an error that the
-- caller gets to see.
theorem closeStub_withdrawn {mark : Mark} (returned : ∀ cause, fault ≠ .abort cause)
    (failed : closeStub mark s = (.error fault, t)) :
    ∃ sink log, t = { s with sink := sink, log := log } ∧
      (sink = s.sink ∨ sink = (Sink.flush s.sink).2) := by
  rw [closeStub, Action.get_bind] at failed
  split at failed
  · cases failed
    exact ⟨s.sink, s.log, rfl, .inl rfl⟩
  rcases Action.bind_eq_error_iff.mp failed with flushes | ⟨_, _, flushes, failed⟩
  · obtain ⟨sink, flushed, rfl⟩ := onSink_eq_iff.mp flushes
    exact ⟨sink, s.log, rfl, .inr (by rw [flushed])⟩
  obtain ⟨sink, flushed, rfl⟩ := onSink_eq_iff.mp flushes
  have isFlushed : sink = (Sink.flush s.sink).2 := by rw [flushed]
  rw [pc_bind] at failed
  rcases Action.bind_eq_error_iff.mp failed with finds | ⟨opened, _, finds, failed⟩
  · cases descriptor_snd finds
    exact ⟨sink, s.log, rfl, .inr isFlushed⟩
  cases descriptor_snd finds
  obtain ⟨log, displaced⟩ := displacement_logs opened.start { s with sink := sink }
  rw [Action.bind_of_ok displaced] at failed
  rcases Action.bind_eq_error_iff.mp failed with finishes | ⟨d, _, -, failed⟩
  · cases onRegistry_error finishes
    exact ⟨sink, log, rfl, .inr isFlushed⟩
  rw [Action.modify_bind] at failed
  rcases Action.bind_eq_error_iff.mp failed with ends | ⟨_, _, -, failed⟩
  · obtain ⟨cause, rfl⟩ := runEpilog_error ends
    exact absurd rfl (returned cause)
  · obtain ⟨_, -, published⟩ := publish_announced d _
    rw [Action.bind_of_ok published] at failed
    cases failed

-- Behind the look-up only the registration can be refused, which comes before anybody is told.
theorem hydrate?_withdrawn {stub : Stub} {extra : Nat} {result : Except Fault (Option StubEntries)}
    (nothing : ∀ entries, result ≠ .ok (some entries))
    (ran : hydrate? stub extra s = (result, t)) :
    ∃ archive log, t = { s with archive := archive, log := log } ∧
      archive.map Archive.rested = s.archive.map Archive.rested := by
  rcases looked : lookUp stub s with ⟨fault | archived?, middle⟩
  · rw [hydrate?, Action.bind_of_error looked] at ran
    cases ran
    cases (lookUp_ends ..).of_eq looked with
    | refused _ archive log same => exact ⟨archive, log, rfl, same⟩
  rw [hydrate?, Action.bind_of_ok looked] at ran
  cases (lookUp_ends ..).of_eq looked with
  | missed log =>
    cases ran
    exact ⟨_, log, rfl, Archive.map_rested s.archive⟩
  | found archived archive log same =>
    dsimp only at ran
    split at ran
    · cases ran
      exact ⟨archive, log, rfl, same⟩
    rcases adopts : adopt stub.name archived.start archived.stop
      { s with archive := archive, log := log } with ⟨fault | d, middle⟩
    · rw [Action.bind_of_error adopts] at ran
      cases ran
      cases (adopt_ends ..).of_eq adopts with
      | refused => exact ⟨archive, log, rfl, same⟩
    · rw [Action.bind_of_ok adopts, report_bind] at ran
      cases ran
      exact absurd rfl (nothing _)

/-! ### Stubs in a code buffer -/

-- The registry takes the descriptor between two flushes. The second one finds an empty queue, so
-- the start that the descriptor is given is the one that it has.
theorem openStub_standard {group name : String} {s t : Session CodeBuffer η}
    (standard : s.hooks = .standard) (failed : openStub group name s = (.error fault, t)) :
    s.Quiet t := by
  rw [openStub, Action.get_bind] at failed
  cases active : s.active with
  | some handle =>
    rw [active] at failed
    cases failed
    exact .refl s
  | none =>
    rw [active] at failed
    rcases Action.bind_eq_error_iff.mp failed with flushes | ⟨_, _, flushes, failed⟩
    · exact quiet_of_onSink flushes
    have quiet := quiet_of_onSink flushes
    obtain ⟨sink, flushed, rfl⟩ := onSink_eq_iff.mp flushes
    rw [pc_bind] at failed
    rcases Action.bind_eq_error_iff.mp failed with registers | ⟨handle, _, registers, failed⟩
    · cases onRegistry_error registers
      exact quiet
    obtain ⟨_, registered, rfl⟩ := onRegistry_eq_ok_iff.mp registers
    obtain ⟨-, -, -, rfl, rfl⟩ := Registry.register_eq_ok_iff.mp registered
    let opened : Descriptor := .create group name (Sink.pc sink) none
    let middle : Session CodeBuffer η :=
      { s with sink := sink, registry := s.registry.push opened }
    have known : descriptor ⟨s.registry.size⟩ middle = (.ok opened, middle) :=
      descriptor_eq_ok_iff.mpr ⟨Registry.descriptor_push s.registry opened, rfl⟩
    have idle : flush middle = (.ok (), middle) :=
      onSink_eq_iff.mpr ⟨sink, CodeBuffer.flush_of_flush flushed, rfl⟩
    have endless : opened.stop = none := rfl
    have unmoved : opened.setStart (Sink.pc sink) = .ok opened :=
      Descriptor.setStart_eq_ok_iff.mpr ⟨UInt64.lt_irrefl _, by simp [endless], rfl⟩
    have placed : onRegistry (Registry.setStart ⟨s.registry.size⟩ (Sink.pc sink)) middle =
        (.ok opened, middle) :=
      onRegistry_eq_ok_iff.mpr ⟨_, Registry.update_push_eq_ok_iff.mpr ⟨unmoved, rfl⟩, rfl⟩
    have silent : runProlog opened middle = (.ok (), middle) :=
      runProlog_standard (s := middle) standard opened
    rw [Action.bind_of_ok known, Action.bind_of_ok silent, Action.bind_of_ok idle, pc_bind,
      Action.bind_of_ok placed] at failed
    cases failed

/-! ### All operations -/

/-- What a failed operation or a look-up that misses may change. Only an opening may add to the
registry, and what it adds has no end. -/
theorem operations_atomic {σ η : Type} [Sink σ] (s t : Session σ η) (fault : Fault) :
    (∀ group name, openStub group name s = (.error fault, t) →
      ∃ added : List Descriptor, added.length ≤ 1 ∧ (∀ d ∈ added, d.isComplete = false) ∧
        Quiet { s with registry.descriptors := s.registry.descriptors ++ added } t) ∧
    (∀ mark, (∀ cause, fault ≠ .abort cause) → closeStub mark s = (.error fault, t) →
      ∃ sink log, t = { s with sink := sink, log := log } ∧
        (sink = s.sink ∨ sink = (Sink.flush s.sink).2)) ∧
    (∀ stub extra result, result = .error fault ∨ result = .ok none →
      hydrate? stub extra s = (result, t) →
      ∃ archive log, t = { s with archive := archive, log := log } ∧
        archive.map Archive.rested = s.archive.map Archive.rested) ∧
    (∀ stub start stop extras, commit stub start stop extras s = (.error fault, t) → t = s) ∧
    ∀ (b c : Session CodeBuffer η) (group name : String), b.hooks = .standard →
      openStub group name b = (.error fault, c) → b.Quiet c := by
  refine ⟨fun _ _ => openStub_withdrawn, fun _ => closeStub_withdrawn, ?_, fun _ _ _ _ => commit_withdrawn,
    fun _ _ _ _ => openStub_standard⟩
  intro stub extra result nothing ran
  refine hydrate?_withdrawn (fun entries some => ?_) ran
  rcases nothing with rfl | rfl <;> cases some

def crowded : Session CodeBuffer Unit :=
  ⟨.create (.create ⟨0x1000⟩ 0)
    { Hooks.standard with prolog := fun _ => Action.modify fun both => (both.1.push .nop, both.2) }
    () (some (.create .initial)) .silent false, .empty, .create (.upTo 0)⟩

theorem operations_atomic_crowded :
    (∃ added t, openStub "group" "stub" crowded = (.error (.bufferOverflow 1 0), t) ∧
      (∀ d ∈ added, d.isComplete = false) ∧
      Quiet { crowded with registry.descriptors := added } t) ∧
    (∃ sink log, closeStub ⟨⟨0⟩, "stub"⟩ crowded =
      (.error (.markMismatch "stub"), { crowded with sink := sink, log := log })) ∧
    (∃ archive log, hydrate? .callStub 1 crowded =
      (.ok none, { crowded with archive := archive, log := log })) ∧
    commit .callStub .null ⟨1⟩ [] crowded = (.error (.nullAddress .callStub .start), crowded) ∧
    ∃ t, openStub "group" "stub"
        { crowded with hooks := .standard, registry.frozen := true } =
          (.error (.registryFrozen "group" "stub"), t) ∧
      Quiet { crowded with hooks := .standard, registry.frozen := true } t := by
  have mismatch : closeStub ⟨⟨0⟩, "stub"⟩ crowded = (.error (.markMismatch "stub"), _) := rfl
  have missed : hydrate? .callStub 1 crowded = (.ok none, _) := rfl
  have null : commit .callStub .null ⟨1⟩ [] crowded =
    (.error (.nullAddress .callStub .start), _) := rfl
  refine ⟨?_, ?_, ?_, ?_, ?_⟩
  · obtain ⟨added, -, incomplete, quiet⟩ :=
      (operations_atomic crowded _ (.bufferOverflow 1 0)).1 "group" "stub" rfl
    exact ⟨added, _, rfl, incomplete, quiet⟩
  · obtain ⟨sink, log, same, -⟩ :=
      (operations_atomic crowded _ (.markMismatch "stub")).2.1 _ nofun mismatch
    exact ⟨sink, log, mismatch.trans (congrArg _ same)⟩
  · obtain ⟨archive, log, same, -⟩ :=
      (operations_atomic crowded _ .noCurrentStub).2.2.1 _ _ _ (.inr rfl) missed
    exact ⟨archive, log, missed.trans (congrArg _ same)⟩
  · exact null.trans (congrArg _ ((operations_atomic crowded _ _).2.2.2.1 _ _ _ _ null))
  · exact ⟨_, rfl, (operations_atomic crowded crowded (.registryFrozen "group" "stub")).2.2.2.2
      _ _ "group" "stub" rfl rfl⟩

end Session

end RuntimeStubs
