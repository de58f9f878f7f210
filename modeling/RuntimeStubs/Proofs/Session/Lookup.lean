import RuntimeStubs.Proofs.Session.Annals

/-! Look-ups while stubs are generated.

Stubs become complete in another order than they were registered in: the descriptor of an open stub
lies in front of all that is hydrated or opened elsewhere before it is closed. Main statement
(`lookup_stable`): an address that has an answer keeps one, and the answer moves only to a
descriptor registered behind the one before. Operations that fail move no answer, with one exception
(`lookup_moved`): a generation has completed its stub before its archive refuses a null address. -/

set_option autoImplicit false

namespace RuntimeStubs

def faultOf {α : Type} : Except Fault α → Option Fault
  | .error fault => some fault
  | .ok _ => none

theorem faultOf_eq_some_iff {α : Type} {result : Except Fault α} {fault : Fault} :
    faultOf result = some fault ↔ result = .error fault := by
  cases result <;> simp [faultOf]

namespace Workshop

variable {ι κ : Type} {σ η : ι → Type} [DecidableEq ι] [DecidableEq κ] [∀ i, Sink (σ i)]

def fault? (w : Workshop ι κ σ η) (operation : Operation ι κ σ η) : Option Fault :=
  match operation.request? with
  | some ⟨i, request⟩ => (w.generators i).bind fun generator =>
    faultOf (request.perform ⟨generator, w.registry, w.log⟩).1
  | none =>
    match operation with
    | .enter k kind archive => (w.bootstraps k).bind fun bootstrap =>
      faultOf (BootstrapState.enter kind archive ⟨bootstrap, w.registry, w.log⟩).1
    | .leave k kind published => (w.bootstraps k).bind fun bootstrap =>
      faultOf (BootstrapState.leave kind published ⟨bootstrap, w.registry, w.log⟩).1
    | .register group name start stop => faultOf (w.registry.register group name start stop)
    | .freeze => faultOf w.registry.freeze
    | .unfreeze => faultOf w.registry.unfreeze
    | _ => none

variable {w : Workshop ι κ σ η}

theorem answers_step (orderly : w.Orderly) {operation : Operation ι κ σ η}
    (none : (w.deed operation).completed = []) {pc : Address} {handle : Handle} {d : Descriptor} :
    (w.step operation).registry.Answers pc handle d ↔ w.registry.Answers pc handle d := by
  rw [deed_completed] at none
  exact Registry.answers_iff_of_completedSince (orderly.step operation).2 none

-- A registration that is refused adds nothing, and nothing else completes a descriptor without
-- asking a generator.
theorem completed_of_refused {operation : Operation ι κ σ η} (solitary : operation.party? = none)
    (refused : ∀ group name start stop, operation = .register group name start stop →
      ∃ fault, w.registry.register group name start stop = .error fault) :
    (w.deed operation).completed = [] := by
  refine List.eq_nil_iff_forall_not_mem.mpr ?_
  rintro ⟨handle, d⟩ member
  obtain ⟨stop, -, rfl⟩ := completed_source member solitary
  obtain ⟨fault, refused⟩ := refused _ _ _ _ rfl
  rw [deed_completed, step, Registry.call, refused, Registry.settle,
    Registry.completedSince_of_descriptors rfl] at member
  cases member

theorem completed_of_failed (orderly : w.Orderly) {operation : Operation ι κ σ η} {fault : Fault}
    (failed : w.fault? operation = some fault) (returned : ∀ cause, fault ≠ .abort cause) :
    (w.deed operation).completed = [] ∨ ∃ i stub extra emit role d entries,
      operation = .generate i stub extra emit ∧ fault = .nullAddress stub role ∧
        d.name = stub.name ∧
        (role.addresses d.start d.stopOrStart entries).any Address.isNull = true ∧
        (w.step operation).registry = w.registry.push d := by
  cases asks : operation.request? with
  | none =>
    refine .inl (completed_of_refused (by rw [Operation.party?, asks, Option.map_none]) ?_)
    rintro group name start stop rfl
    exact ⟨fault, faultOf_eq_some_iff.mp failed⟩
  | some asked =>
    obtain ⟨i, request⟩ := asked
    simp only [fault?, asks, Option.bind_eq_some_iff, faultOf_eq_some_iff] at failed
    obtain ⟨generator, found, failed⟩ := failed
    rw [deed_of_request asks found, step_of_generator asks found]
    rcases Session.Request.deed_of_failed (orderly.tidy found) returned failed with
      nothing | ⟨stub, extra, emit, role, d, entries, rfl, isNull, belated⟩
    · exact .inl nothing
    · have isGenerate : operation = .generate i stub extra emit := by
        cases operation <;> cases asks
        rfl
      exact .inr ⟨i, stub, extra, emit, role, d, entries, isGenerate, isNull, belated.name,
        belated.null, belated.registry⟩

/-- A look-up goes by the order of registration, and its answers never go back in that order. -/
theorem lookup_stable (log : Log) (earlier later : List (Operation ι κ σ η)) :
    let s := (start log).run earlier
    let t := s.run later
    (∀ pc d, s.registry.find? pc = some d ↔ ∃ handle, s.registry.Answers pc handle d) ∧
    (∀ pc, s.registry.find? pc = none ↔
      ∀ d ∈ s.registry.descriptors, ∀ stop, d.stop = some stop → ¬ (d.start ≤ pc ∧ pc < stop)) ∧
    (∀ pc handle d, s.registry.Answers pc handle d → ∃ newer e, t.registry.Answers pc newer e ∧
      (newer = handle ∧ e = d ∨ handle.index < newer.index)) ∧
    (∀ operation pc handle d, s.registry.Answers pc handle d →
      (∀ older e, (older, e) ∈ s.registry.completedSince (s.step operation).registry →
        older.index ≤ handle.index) → (s.step operation).registry.Answers pc handle d) ∧
    (∀ operation, operation.party? = none →
      (∀ group name start stop, operation ≠ .register group name start stop) →
      ∀ pc handle d,
        (s.step operation).registry.Answers pc handle d ↔ s.registry.Answers pc handle d) ∧
    ∀ operation fault, s.fault? operation = some fault → (∀ cause, fault ≠ .abort cause) →
      (∀ pc handle d,
        (s.step operation).registry.Answers pc handle d ↔ s.registry.Answers pc handle d) ∨
      ∃ i stub extra emit role d entries, operation = .generate i stub extra emit ∧
        fault = .nullAddress stub role ∧ d.name = stub.name ∧
        (role.addresses d.start d.stopOrStart entries).any Address.isNull = true ∧
        (s.step operation).registry = s.registry.push d := by
  intro s t
  have orderly : s.Orderly := ((orderly_start log).run earlier).1
  refine ⟨?_, ?_, ?_, ?_, ?_, ?_⟩
  · intro pc d
    exact Registry.find?_eq_some_iff_answers
  · intro pc
    rw [Registry.find?_eq_none_iff]
    refine forall₂_congr fun d _ => ?_
    rw [← Bool.not_eq_true, Descriptor.contains_iff]
    simp only [not_exists, not_and]
  · intro pc handle d answers
    obtain ⟨newer, e, now, le, same⟩ := (orderly.run later).2.answers answers
    refine ⟨newer, e, now, ?_⟩
    rcases Nat.lt_or_eq_of_le le with lt | eq
    · exact .inr lt
    · obtain rfl : handle = newer := congrArg Handle.mk eq
      exact .inl ⟨rfl, same rfl⟩
  · intro operation pc handle d answers older
    exact (orderly.step operation).2.answers_of_older answers older
  · intro operation solitary other pc handle d
    exact answers_step orderly (completed_of_refused solitary fun group name start stop same =>
      absurd same (other group name start stop))
  · intro operation fault failed returned
    refine (completed_of_failed orderly failed returned).imp_left fun none pc handle d => ?_
    exact answers_step orderly none

-- A region registered later covers part of a stub, and attempts to close the stub again fail.
theorem lookup_stable_covered :
    let s := (start (.create (.upTo 0))).run overlapping
    let t := s.run [.closeStub true ⟨⟨0⟩, "first"⟩,
      .register "Boot" "cover" ⟨0x1000⟩ (some ⟨0x1002⟩), .freeze]
    ∃ handle newer e, s.registry.Answers ⟨0x1001⟩ handle
        ⟨"Boot", "first", ⟨0x1000⟩, some ⟨0x1004⟩, 0, false⟩ ∧
      t.registry.Answers ⟨0x1001⟩ newer e ∧ handle.index < newer.index := by
  intro s t
  obtain ⟨finds, -, moves, -⟩ := lookup_stable (.create (.upTo 0)) overlapping
    [.closeStub true ⟨⟨0⟩, "first"⟩, .register "Boot" "cover" ⟨0x1000⟩ (some ⟨0x1002⟩), .freeze]
  have found : s.registry.find? ⟨0x1001⟩ =
      some ⟨"Boot", "first", ⟨0x1000⟩, some ⟨0x1004⟩, 0, false⟩ := by decide +kernel
  have covered : t.registry.find? ⟨0x1001⟩ =
      some ⟨"Boot", "cover", ⟨0x1000⟩, some ⟨0x1002⟩, 0, false⟩ := by decide +kernel
  obtain ⟨handle, answers⟩ := (finds _ _).mp found
  obtain ⟨newer, e, now, ⟨-, rfl⟩ | later⟩ := moves _ _ _ answers
  · have same := Registry.find?_eq_some_iff_answers.mpr ⟨newer, now⟩
    rw [covered] at same
    exact absurd same (by decide)
  · exact ⟨handle, newer, e, answers, now, later⟩

/-- A region registered directly begins at the lowest address, and so does the buffer of the only
generator. -/
def lowest : List (Operation Unit Unit (fun _ => CodeBuffer) fun _ => Unit) :=
  [.register "Boot" "low" .null (some ⟨0x10⟩),
    .create () (.create .null 64) .standard () (some (.create .initial)) .silent false]

theorem lookup_moved :
    let s := (start (.create (.upTo 0))).run lowest
    let t := s.step (.generate () .fence 0 Stub.fence.emitBody)
    s.fault? (.generate () .fence 0 Stub.fence.emitBody) = some (.nullAddress .fence .start) ∧
      s.registry.find? .null = some ⟨"Boot", "low", .null, some ⟨0x10⟩, 0, false⟩ ∧
      t.registry.find? .null = some ⟨"StubRoutines", "fence", .null, some ⟨4⟩, 0, false⟩ := by
  decide +kernel

end Workshop

end RuntimeStubs
