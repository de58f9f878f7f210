import RuntimeStubs.Proofs.Bootstrap.Inventory

/-! What phases leave unfinished.

Main statement (`phases_account`): of what the generator of a phase has registered, everything is
complete and published when the phase is done, except what its body has left unfinished: a stub that
is still open, and stubs whose opening has failed. Nothing compels a body to close its stubs
(`phases_account_dropped`). -/

set_option autoImplicit false

namespace RuntimeStubs.Inventory

variable {ι : Type} {σ η : ι → Type} [∀ i, Sink (σ i)] {v w : Inventory ι σ η}

/-! ### Registries that belong to the phases -/

/-- Nobody but the phases has written to the registry. -/
structure Owned (v : Inventory ι σ η) : Prop where
  isSealed : v.course.shared.Sealed
  covered : ∀ handle d, v.registry.get? handle = some d → ∃ n, handle ∈ (v.books n).registered

omit [∀ i, Sink (σ i)] in
theorem Owned.of_shared (owned : v.Owned)
    (descriptors : w.registry.descriptors = v.registry.descriptors) (books : w.books = v.books)
    (isSealed : w.course.shared.Sealed) : w.Owned where
  isSealed := isSealed
  covered handle d found := by
    rw [Registry.get?, descriptors] at found
    rw [books]
    exact owned.covered handle d found

theorem Owned.work (owned : v.Owned) (n : Nat) (request : (i : ι) → Session.Request (σ i)) :
    (v.work n request).Owned := by
  rcases v.course.executing_or_idle n with ⟨kind, i, generator, found⟩ | idle
  · obtain ⟨standing, -, -, worked⟩ := work_eq found request
    have turns := turns_of_call found (request i)
    have isFrozen := Registry.frozen_of_turns turns
    rw [worked]
    refine ⟨?_, fun handle d isFound => ?_⟩
    · exact (iff_of_eq (congrArg (· = true) isFrozen)).trans owned.isSealed
    · dsimp only
      rcases Nat.lt_or_ge handle.index v.registry.size with known | new
      · obtain ⟨m, registered⟩ := owned.covered handle _ (List.getElem?_eq_getElem known)
        refine ⟨m, ?_⟩
        by_cases same : m = n
        · subst same
          rw [Function.update_self]
          exact List.mem_append_left _ registered
        · rwa [Function.update_of_ne same]
      · refine ⟨n, ?_⟩
        rw [Function.update_self]
        have inside := (List.getElem?_eq_some_iff.mp isFound).1
        exact List.mem_append_right _ (Registry.mem_added_iff.mpr ⟨new, inside⟩)
  · rw [work_of_idle idle]
    exact owned

theorem Owned.step (owned : v.Owned) (kept : v.Kept) {move : Move ι σ η}
    (inside : move.outside = false) : (v.step move).Owned := by
  cases move with
  | ask kind i sink hooks memory archive listener =>
    have descriptors := Course.descriptors_ask v.course kind
      (Generator.create sink hooks memory archive listener false)
    refine owned.of_shared descriptors rfl ?_
    cases checked : v.course.shared.bootstrap.check kind (archive.map Archive.kind) with
    | error fault =>
      simp only [Inventory.step, Course.step, Generator.create,
        BootstrapState.enter_of_check_error checked]
      exact owned.isSealed
    | ok =>
      obtain ⟨log, entered⟩ := BootstrapState.enter_of_check_ok checked
      simp only [Inventory.step, Course.step, Generator.create, entered]
      exact owned.isSealed.enter (Bootstrap.check_eq_ok_iff.mp checked).2.1 log
  | request n request => exact owned.work n request
  | succeed n =>
    rcases v.course.executing_or_idle n with ⟨kind, i, generator, found⟩ | idle
    · obtain ⟨log, left⟩ := Course.step_succeed found
      simp only [Inventory.step, left]
      exact owned.of_shared rfl rfl (owned.isSealed.leave (kept.governed.running found rfl) log)
    · simp only [Inventory.step, Course.step, Course.proceed_of_idle idle]
      exact owned
  | fail n fault =>
    rcases v.course.executing_or_idle n with ⟨kind, i, generator, found⟩ | idle
    · simp only [Inventory.step, Course.step_fail found]
      exact owned.of_shared rfl rfl owned.isSealed
    · simp only [Inventory.step, Course.step, Course.proceed_of_idle idle]
      exact owned
  | invite => exact owned.of_shared rfl rfl owned.isSealed
  | log log => exact owned.of_shared rfl rfl owned.isSealed
  | visit | register | freeze | unfreeze => cases inside

omit [∀ i, Sink (σ i)] in
theorem owned_start (delayed listing : Bool) (log : Log) :
    (start delayed listing log : Inventory ι σ η).Owned where
  isSealed := by
    simp [BootstrapState.Sealed, start, Course.start, Bootstrap.create, Registry.empty]
  covered handle d found := by
    simp [registry, start, Course.start, Registry.empty, Registry.get?] at found

theorem Owned.run (owned : v.Owned) (kept : v.Kept) {moves : List (Move ι σ η)}
    (inside : ∀ move ∈ moves, move.outside = false) : (v.run moves).Owned := by
  induction moves generalizing v with
  | nil => exact owned
  | cons move rest ih =>
    exact ih (owned.step kept (inside move List.mem_cons_self)) (kept.step move)
      fun other member => inside other (List.mem_cons_of_mem move member)

omit [∀ i, Sink (σ i)] in
-- The final phase requires the first two, and the registry is open while the compiler phase runs.
theorem Owned.not_running (owned : v.Owned) (governed : v.course.Governed)
    (frozen : v.registry.frozen = true) (kind : Phase) : v.course.status kind ≠ .running := by
  obtain ⟨final, compiler⟩ := owned.isSealed.mp frozen
  have required (kind : Phase)
      (requires : kind ∈ Phase.final.requires v.course.shared.bootstrap.delayed) :
      v.course.status kind = .done :=
    governed.founded .final (by rw [final]; decide) kind requires
  cases kind with
  | final => rw [Course.status, final]; decide
  | compiler => exact compiler
  | initial =>
    rw [required .initial (by cases v.course.shared.bootstrap.delayed <;> decide)]; decide
  | continuation =>
    rw [required .continuation (by cases v.course.shared.bootstrap.delayed <;> decide)]; decide

omit [∀ i, Sink (σ i)] in
theorem Owned.finished_of_frozen (owned : v.Owned) (kept : v.Kept)
    (frozen : v.registry.frozen = true) {handle : Handle} {d : Descriptor}
    (found : v.registry.get? handle = some d) : ∃ (n : Nat) (call : Request ι σ η),
      v.course.calls[n]? = some call ∧ call.standing = .finished (.ok ()) ∧
        handle ∈ (v.books n).registered := by
  obtain ⟨n, registered⟩ := owned.covered handle d found
  obtain ⟨call, isFound, executed⟩ : ∃ call, v.course.calls[n]? = some call ∧
      call.standing.executed := by
    by_contra idle
    have blank := kept.blank n fun call isFound executed => idle ⟨call, isFound, executed⟩
    rw [blank] at registered
    cases registered
  refine ⟨n, call, isFound, ?_, registered⟩
  have fits := kept.governed.fits n call isFound
  have notRunning := owned.not_running kept.governed frozen call.kind
  generalize v.course.status call.kind = status at fits notRunning
  generalize call.standing = standing at fits executed
  cases fits with
  | refused => exact executed.elim
  | executing | failed => exact absurd rfl notRunning
  | finished => rfl

/-- What a phase has registered when it is done: everything is complete and published but what its
body has left unfinished. In a frozen registry that only phases have written to, every unfinished
descriptor has been left so by the body of a phase that is done. -/
theorem phases_account (delayed listing : Bool) (log : Log) (moves : List (Move ι σ η)) :
    let v := (start delayed listing log).run moves
    (∀ (n : Nat) (call : Request ι σ η), v.course.calls[n]? = some call →
      call.standing = .finished (.ok ()) →
      let book := v.books n
      call.generator.events.filterMap Event.registered? =
          book.published.map (fun entry => entry.2.notice) ∧
        call.generator.published = book.published.length ∧
        (∀ handle d, (handle, d) ∈ book.published → handle ∈ book.registered ∧
          v.registry.get? handle = some d ∧ d.isComplete = true) ∧
        (∀ handle ∈ book.registered,
          (∃ d, (handle, d) ∈ book.published) ∨ book.Leaves call.generator handle) ∧
        ∀ handle, book.Leaves call.generator handle → handle ∈ book.registered ∧
          ∃ d, v.registry.get? handle = some d ∧ d.isComplete = false) ∧
    ((∀ move ∈ moves, move.outside = false) → v.registry.frozen = true →
      ∀ handle d, v.registry.get? handle = some d → d.isComplete = false →
        ∃ (n : Nat) (call : Request ι σ η), v.course.calls[n]? = some call ∧
          call.standing = .finished (.ok ()) ∧ (v.books n).Leaves call.generator handle) := by
  intro v
  have kept : v.Kept := (kept_start delayed listing log).run moves
  have accounts {n : Nat} {call : Request ι σ η} (found : v.course.calls[n]? = some call)
      (finished : call.standing = .finished (.ok ())) :
      (v.books n).Balanced call.generator v.registry :=
    (kept.accounts n call found (by simp [finished])).balanced
  refine ⟨fun n call found finished => ?_, fun inside frozen handle d found unfinished => ?_⟩
  · have balanced := accounts found finished
    refine ⟨balanced.events, balanced.count, balanced.published, balanced.settled, ?_⟩
    intro handle left
    obtain ⟨registered, d, isFound, isOpen⟩ := balanced.leaves handle left
    exact ⟨registered, d, isFound, by rw [Descriptor.isComplete, isOpen]; rfl⟩
  · have owned : v.Owned :=
      (owned_start delayed listing log).run (kept_start delayed listing log) inside
    obtain ⟨n, call, isFound, finished, registered⟩ := owned.finished_of_frozen kept frozen found
    have balanced := accounts isFound finished
    refine ⟨n, call, isFound, finished, (balanced.settled handle registered).resolve_left ?_⟩
    rintro ⟨e, published⟩
    obtain ⟨-, same, isComplete⟩ := balanced.published handle e published
    cases found.symm.trans same
    rw [unfinished] at isComplete
    cases isComplete

def asking (kind : Phase) : Move Unit (fun _ => CodeBuffer) fun _ => Unit :=
  .ask kind () (.create ⟨0x1000⟩ 64) .standard () none .silent

/-- The body of the first phase generates a stub, and goes on after an attempt at another that has
the wrong number of entries. -/
def swallowed : List (Move Unit (fun _ => CodeBuffer) fun _ => Unit) :=
  [asking .initial, .request 0 (fun _ => .generate .fence 0 Stub.fence.emitBody),
    .request 0 (fun _ => .generate .getPreviousSp 1 Stub.getPreviousSp.emitBody), .succeed 0,
    asking .continuation, .succeed 1, asking .final, .succeed 2]

theorem phases_account_swallowed :
    let v := (start true false (.create (.upTo 0))).run swallowed
    (∃ call, v.course.calls[0]? = some call ∧ call.generator.published = 1 ∧
      (v.books 0).registered = [⟨0⟩, ⟨1⟩] ∧ (v.books 0).Leaves call.generator ⟨1⟩) ∧
      ∃ n call, v.course.calls[n]? = some call ∧ call.standing = .finished (.ok ()) ∧
        (v.books n).Leaves call.generator ⟨1⟩ := by
  intro v
  obtain ⟨account, unfinished⟩ := phases_account true false (.create (.upTo 0)) swallowed
  obtain ⟨call, found, finished⟩ : ∃ call, v.course.calls[0]? = some call ∧
    call.standing = .finished (.ok ()) := ⟨_, rfl, rfl⟩
  obtain ⟨-, count, -, settled, -⟩ := account 0 call found finished
  have published : (v.books 0).published.map Prod.fst = [⟨0⟩] := by decide +kernel
  have registered : (v.books 0).registered = [⟨0⟩, ⟨1⟩] := by decide +kernel
  refine ⟨⟨call, found, ?_, registered, ?_⟩, ?_⟩
  · have length := congrArg List.length published
    rw [List.length_map] at length
    exact count.trans length
  · refine (settled ⟨1⟩ (by simp [v, registered])).resolve_left ?_
    rintro ⟨d, member⟩
    have first := List.mem_map_of_mem (f := Prod.fst) member
    rw [published] at first
    simp at first
  · exact unfinished (by decide) (by decide +kernel) ⟨1⟩
      ⟨"StubRoutines", "get_previous_sp", ⟨0x1004⟩, none, 0, false⟩ (by decide +kernel) rfl

def dropped : List (Move Unit (fun _ => CodeBuffer) fun _ => Unit) :=
  [asking .initial, .request 0 (fun _ => .openStub "Boot" "forgotten"), .succeed 0,
    asking .continuation, .succeed 1, asking .final, .succeed 2]

theorem phases_account_dropped :
    let v := (start true false (.create (.upTo 0))).run dropped
    (∃ call, v.course.calls[0]? = some call ∧ call.standing = .finished (.ok ()) ∧
        call.generator.events = []) ∧
      (∀ move ∈ dropped, move.outside = false) ∧ v.registry.frozen = true ∧
      v.registry.descriptors = [⟨"Boot", "forgotten", ⟨0x1000⟩, none, 0, false⟩] := by
  refine ⟨⟨_, rfl, rfl, rfl⟩, ?_, ?_, ?_⟩ <;> decide +kernel

end RuntimeStubs.Inventory
