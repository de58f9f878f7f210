import RuntimeStubs.Proofs.Session.Standstill

/-! What becomes of the descriptors that a generator registers.

A book keeps, request by request, what one generator has registered, what it has published, and what
it has registered in vain because the opening of the stub failed afterwards. Main statement
(`Book.Balanced.note`): as long as no request is cut short, whatever has been registered is
published, or it is the stub that the generator has open, or it has been registered in vain. -/

set_option autoImplicit false

namespace RuntimeStubs

namespace Registry

variable {r s : Registry} {handle : Handle} {d : Descriptor}

def added (r s : Registry) : List Handle := (List.range' r.size (s.size - r.size)).map Handle.mk

theorem mem_added_iff :
    handle ∈ r.added s ↔ r.size ≤ handle.index ∧ handle.index < s.size := by
  rw [added, List.mem_map]
  constructor
  · rintro ⟨n, member, rfl⟩
    have bounds := List.mem_range'_1.mp member
    dsimp only
    omega
  · rintro ⟨lower, upper⟩
    exact ⟨handle.index, List.mem_range'_1.mpr (by omega), rfl⟩

theorem added_of_size (same : s.size = r.size) : r.added s = [] := by
  rw [added, same, Nat.sub_self]
  rfl

theorem added_push (r : Registry) (d : Descriptor) : r.added (r.push d) = [⟨r.size⟩] := by
  simp [added, size_push]

/-! ### What turns leave alone -/

theorem frozen_of_turns {first last : Registry × Option Handle}
    (turns : Relation.ReflTransGen Turn first last) : last.1.frozen = first.1.frozen := by
  induction turns with
  | refl => rfl
  | tail _ turn ih =>
    rw [← ih]
    cases turn <;> rfl

-- The stub that gets its end in a turn is one that was open in the beginning or is new.
theorem get?_of_turns {first last : Registry × Option Handle}
    (turns : Relation.ReflTransGen Turn first last) (known : handle.index < first.1.size)
    (free : first.2 ≠ some handle) : last.1.get? handle = first.1.get? handle := by
  induction turns with
  | refl => rfl
  | tail turns turn ih =>
    rw [← ih]
    have still := Nat.lt_of_lt_of_le known (size_le_of_turns turns)
    cases turn with
    | abandon r _ d | adopt r _ d | start r d => exact List.getElem?_append_left still
    | finish r other old stop displacement =>
      refine get?_put_ne ?_ ..
      rintro rfl
      rcases active_of_turns turns rfl with isOpen | new
      · exact free isOpen
      · exact Nat.not_le_of_lt known new

theorem completed_of_turns {first last : Registry × Option Handle}
    (turns : Relation.ReflTransGen Turn first last) (isOpen : first.2 = some handle) :
    last.2 = some handle ∨ ∃ d, last.1.Completed handle d := by
  induction turns with
  | refl => exact .inl isOpen
  | tail _ turn ih =>
    rcases ih with stillOpen | ⟨e, found, isComplete⟩
    · cases turn with
      | abandon | adopt => exact .inl stillOpen
      | start => cases stillOpen
      | finish r other old stop displacement known =>
        cases stillOpen
        exact .inr ⟨_, get?_put_self known _, rfl⟩
    · refine .inr ?_
      cases turn with
      | abandon r _ d | adopt r _ d | start r d => exact ⟨e, get?_push_of_some found d, isComplete⟩
      | finish r other old stop displacement known =>
        by_cases same : handle = other
        · subst same
          exact ⟨_, get?_put_self known _, rfl⟩
        · exact ⟨e, (get?_put_ne same ..).trans found, isComplete⟩

-- Somebody who has no stub open can only add descriptors.
theorem register_turns (r : Registry) (active : Option Handle) (group name : String)
    (start : Address) (stop : Option Address) :
    Relation.ReflTransGen Turn (r, active) (r.call (.register group name start stop), active) := by
  rw [call]
  cases registered : r.register group name start stop with
  | error fault => exact .refl
  | ok result =>
    obtain ⟨-, ordered, -, -, isPushed⟩ := register_eq_ok_iff.mp registered
    rw [settle, isPushed]
    refine .single (.adopt r active _ fun bound ends => ?_)
    exact Descriptor.ordered_of_not_lt ends (ordered bound ends) bound ends

section

variable {π : Type} {active : π → Option Handle} {party other : π}
  {last : Registry × Option Handle}

theorem Orderly.get?_of_other (orderly : r.Orderly active)
    (turns : Relation.ReflTransGen Turn (r, active party) last) (differ : other ≠ party)
    (isOpen : active other = some handle) : last.1.get? handle = r.get? handle := by
  obtain ⟨d, found, -⟩ := orderly.isOpen other handle isOpen
  refine get?_of_turns turns (List.getElem?_eq_some_iff.mp found).1 fun same => ?_
  exact differ (orderly.distinct other party handle isOpen same)

theorem get?_of_released [DecidableEq π]
    (turns : Relation.ReflTransGen Turn (r, active party) last) (known : handle.index < r.size)
    (released : ∀ other, active other ≠ some handle) :
    last.1.get? handle = r.get? handle ∧
      ∀ other, Function.update active party last.2 other ≠ some handle := by
  refine ⟨get?_of_turns turns known (released party), fun other isOpen => ?_⟩
  rw [Function.update_apply] at isOpen
  split at isOpen
  · rcases active_of_turns turns isOpen with before | new
    · exact released party before
    · exact Nat.not_le_of_lt known new
  · exact released other isOpen

end

end Registry

namespace Session

variable {σ η : Type} [Sink σ] {s t u : Session σ η} {handle : Handle}

/-! ### What a request registers -/

/-- The opening that a request comes to: its group and name, and the session in which it happens. -/
def Request.opening? (s : Session σ η) : Request σ → Option (String × String × Session σ η)
  | .openStub group name => some (group, name, s)
  | .generate stub extra _ =>
    match hydrate? stub extra s with
    | (.ok none, looked) => some (routinesGroup, stub.name, looked)
    | _ => none
  | _ => none

/-- What a request registers in vain: the descriptor of a stub whose opening fails afterwards. -/
def Request.abandoned (s : Session σ η) (request : Request σ) : List Handle :=
  match request.opening? s with
  | some (group, name, u) =>
    match Session.openStub group name u with
    | (.error _, t) => u.registry.added t.registry
    | (.ok _, _) => []
  | none => []

/-- No further descriptor has been registered on the way from one session to another. -/
def Sized (s t : Session σ η) : Prop := t.registry.size = s.registry.size

omit [Sink σ] in
theorem Quiet.sized (quiet : s.Quiet t) : s.Sized t := by
  obtain ⟨_, _, _, rfl⟩ := quiet
  rfl

theorem closeStub_sized (mark : Mark) :
    (closeStub mark : Action (Session σ η) Descriptor).Respects Sized := by
  refine Action.Ends.respects (closeStub_ends mark) fun s result t closing => ?_
  cases closing with
  | refused _ quiet => exact quiet.sized
  | aborted _ d _ quiet => exact quiet.sized.trans (Registry.size_put ..)
  | closed d _ quiet isAnnounced =>
    rw [isAnnounced]
    exact quiet.sized.trans (Registry.size_put ..)

omit [Sink σ] in
theorem commit_sized (stub : Stub) (start stop : Address) (extras : List Address) :
    (commit stub start stop extras : Action (Session σ η) Unit).Respects Sized := by
  refine Action.Ends.respects (commit_ends stub start stop extras) fun s result t committing => ?_
  cases committing <;> rfl

theorem fill_respects (stub : Stub) (extra : Nat) (emit : Action σ (List Address)) (mark : Mark) :
    (fill stub extra emit mark : Action (Session σ η) StubEntries).Respects
      fun s t => s.Turns t ∧ s.Sized t := by
  have trans {s t u : Session σ η} (first : s.Turns t ∧ s.Sized t)
      (second : t.Turns u ∧ t.Sized u) : s.Turns u ∧ s.Sized u :=
    ⟨first.1.trans second.1, second.2.trans first.2⟩
  rw [fill]
  refine Action.Respects.bind trans (fun s => ⟨.refl, rfl⟩) fun entries => ?_
  split
  · exact fun s => ⟨.refl, rfl⟩
  refine Action.Respects.bind trans (fun s => ⟨closeStub_turns mark s, closeStub_sized mark s⟩)
    fun d => ?_
  exact Action.Respects.bind trans
    (fun s => ⟨commit_turns stub _ _ entries s, commit_sized stub _ _ entries s⟩)
    fun _ s => ⟨.refl, rfl⟩

theorem completed_of_hydrate? {stub : Stub} {extra : Nat}
    {result : Except Fault (Option StubEntries)} (ran : hydrate? stub extra s = (result, t))
    (new : handle ∈ s.registry.added t.registry) : ∃ d, t.registry.Completed handle d := by
  cases (hydrate?_ends ..).of_eq ran with
  | missed _ quiet | refused _ _ _ quiet =>
    rw [Registry.added_of_size quiet.sized] at new
    cases new
  | adopted archive archived _ _ quiet isAnnounced =>
    obtain ⟨_, _, _, rfl⟩ := quiet
    rw [isAnnounced, announced, Registry.added_push, List.mem_singleton] at new
    rw [isAnnounced, announced, new]
    exact ⟨_, Registry.get?_push_size .., rfl⟩

theorem generateFresh_account (stub : Stub) (extra : Nat) (emit : Action σ (List Address))
    {mark : Mark} (opens : openStub routinesGroup stub.name s = (.ok mark, t))
    (new : handle ∈ s.registry.added (generateFresh stub extra emit s).2.registry) :
    (∃ d, (generateFresh stub extra emit s).2.registry.Completed handle d) ∨
      (generateFresh stub extra emit s).2.active = some handle := by
  obtain ⟨turns, size⟩ := fill_respects stub extra emit mark t
  rw [generateFresh_eq, Action.bind_of_ok opens] at new ⊢
  cases (openStub_ends ..).of_eq opens with
  | opened start _ quiet =>
    obtain ⟨_, _, _, rfl⟩ := quiet
    have isNew := Registry.mem_added_iff.mp new
    rw [size] at isNew
    obtain rfl : handle = ⟨s.registry.size⟩ := by
      rw [Registry.size_push] at isNew
      exact congrArg Handle.mk (by omega)
    exact (Registry.completed_of_turns turns rfl).symm

-- Only a generation that finds nothing in the archive comes to an opening, and by then it has left
-- the registry alone.
theorem generate_route (stub : Stub) (extra : Nat) (emit : Action σ (List Address))
    (s : Session σ η) :
    (Request.opening? s (.generate stub extra emit) = none ∧
      (generate stub extra emit s).2 = (hydrate? stub extra s).2) ∨
    ∃ looked : Session σ η,
      Request.opening? s (.generate stub extra emit) = some (routinesGroup, stub.name, looked) ∧
      looked.registry = s.registry ∧ looked.active = s.active ∧
      generate stub extra emit s = generateFresh stub extra emit looked := by
  rw [generate_eq]
  rcases ran : hydrate? stub extra s with ⟨fault | _ | entries, looked⟩
  · rw [Action.bind_of_error ran]
    exact .inl ⟨by simp only [Request.opening?, ran], rfl⟩
  · rw [Action.bind_of_ok ran]
    refine .inr ⟨looked, by simp only [Request.opening?, ran], ?_⟩
    cases (hydrate?_ends ..).of_eq ran with
    | missed _ quiet =>
      obtain ⟨_, _, _, rfl⟩ := quiet
      exact ⟨rfl, rfl, rfl⟩
  · rw [Action.bind_of_ok ran]
    exact .inl ⟨by simp only [Request.opening?, ran], rfl⟩

/-- Every descriptor that a request registers is complete when the request ends, or belongs to the
stub that is then open, or has been registered in vain. -/
theorem Request.account (request : Request σ) (s : Session σ η)
    (new : handle ∈ s.registry.added (request.perform s).2.registry) :
    (∃ d, (request.perform s).2.registry.Completed handle d) ∨
      (request.perform s).2.active = some handle ∨ handle ∈ request.abandoned s := by
  have nothing {r : Registry} (same : r.size = s.registry.size)
      (new : handle ∈ s.registry.added r) : False := by
    rw [Registry.added_of_size same] at new
    cases new
  cases request with
  | openStub group name =>
    rcases ran : Session.openStub group name s with ⟨fault | mark, t⟩ <;>
      simp only [perform, abandoned, opening?, ran] at new ⊢
    · exact .inr (.inr new)
    · cases (openStub_ends ..).of_eq ran with
      | opened start _ quiet =>
        obtain ⟨_, _, _, rfl⟩ := quiet
        rw [Registry.added_push, List.mem_singleton] at new
        exact .inr (.inl (congrArg some new.symm))
  | closeStub mark => exact (nothing (closeStub_sized mark s) new).elim
  | commit stub start stop extras =>
    exact (nothing (commit_sized stub start stop extras s) new).elim
  | emit code => exact (nothing rfl new).elim
  | hydrate stub extra => exact .inl (completed_of_hydrate? rfl new)
  | generate stub extra emit =>
    rcases generate_route stub extra emit s with ⟨-, ended⟩ | ⟨looked, opening, same, -, ended⟩
    · simp only [perform, ended] at new ⊢
      exact .inl (completed_of_hydrate? rfl new)
    · simp only [perform, abandoned, opening, ended] at new ⊢
      rw [← same] at new
      rcases opens : Session.openStub routinesGroup stub.name looked with ⟨cause | mark, t⟩
      · rw [generateFresh_eq, Action.bind_of_error opens] at new
        exact .inr (.inr new)
      · exact (generateFresh_account stub extra emit opens new).imp_right .inl

theorem openStub_failed {group name : String} {fault : Fault}
    (failed : openStub group name s = (.error fault, t)) :
    t.active = s.active ∧ ∀ handle ∈ s.registry.added t.registry,
      ∃ d, t.registry.get? handle = some d ∧ d.stop = none := by
  cases (openStub_ends ..).of_eq failed with
  | refused _ quiet =>
    refine ⟨by obtain ⟨_, _, _, rfl⟩ := quiet; rfl, ?_⟩
    rw [Registry.added_of_size quiet.sized]
    exact fun handle new => absurd new List.not_mem_nil
  | abandoned _ start quiet =>
    obtain ⟨_, _, _, rfl⟩ := quiet
    refine ⟨rfl, fun handle new => ?_⟩
    rw [Registry.added_push, List.mem_singleton] at new
    rw [new]
    exact ⟨_, Registry.get?_push_size .., rfl⟩

theorem Request.of_abandoned {request : Request σ} (inVain : handle ∈ request.abandoned s) :
    handle ∈ s.registry.added (request.perform s).2.registry ∧
      (request.perform s).2.active = s.active ∧
      ∃ d, (request.perform s).2.registry.get? handle = some d ∧ d.stop = none := by
  cases request with
  | openStub group name =>
    rcases ran : Session.openStub group name s with ⟨fault | mark, t⟩ <;>
      simp only [perform, abandoned, opening?, ran] at inVain ⊢
    · obtain ⟨active, unfinished⟩ := openStub_failed ran
      exact ⟨inVain, active, unfinished handle inVain⟩
    · cases inVain
  | generate stub extra emit =>
    rcases generate_route stub extra emit s with
      ⟨opening, -⟩ | ⟨looked, opening, same, sameActive, ended⟩
    · simp only [abandoned, opening] at inVain
      cases inVain
    · rcases opens : Session.openStub routinesGroup stub.name looked with ⟨fault | mark, t⟩ <;>
        simp only [abandoned, opening, opens] at inVain
      · obtain ⟨active, unfinished⟩ := openStub_failed opens
        simp only [perform, ended, generateFresh_eq, Action.bind_of_error opens]
        exact ⟨same ▸ inVain, active.trans sameActive, unfinished handle inVain⟩
      · cases inVain
  | closeStub | commit | hydrate | emit => cases inVain

end Session

/-! ### Books -/

/-- What one generator has registered, what it has published, and what it has registered in vain. -/
structure Book where
  registered : List Handle
  published : List (Handle × Descriptor)
  abandoned : List Handle
  deriving DecidableEq, Repr

namespace Book

def empty : Book := ⟨[], [], []⟩

variable {σ η : Type}

/-- The descriptors that a generator has not finished. -/
def Leaves (book : Book) (g : Generator σ η) (handle : Handle) : Prop :=
  g.active = some handle ∨ handle ∈ book.abandoned

structure Balanced (book : Book) (g : Generator σ η) (r : Registry) : Prop where
  settled : ∀ handle ∈ book.registered,
    (∃ d, (handle, d) ∈ book.published) ∨ book.Leaves g handle
  leaves : ∀ handle, book.Leaves g handle →
    handle ∈ book.registered ∧ ∃ d, r.get? handle = some d ∧ d.stop = none
  published : ∀ handle d, (handle, d) ∈ book.published →
    handle ∈ book.registered ∧ r.Completed handle d
  events : g.events.filterMap Event.registered? =
    book.published.map fun entry => entry.2.notice
  count : g.published = book.published.length

variable {book : Book} {g : Generator σ η} {r changed : Registry} {s : Session σ η}

theorem Balanced.frame (balanced : book.Balanced g r) (keeps : r.Keeps changed)
    (same : ∀ handle, book.Leaves g handle → changed.get? handle = r.get? handle) :
    book.Balanced g changed where
  settled := balanced.settled
  leaves handle left := by
    rw [same handle left]
    exact balanced.leaves handle left
  published handle d member := (balanced.published handle d member).imp_right keeps.completed
  events := balanced.events
  count := balanced.count

theorem balanced_empty (inactive : g.active = none) (untold : g.events = [])
    (uncounted : g.published = 0) (r : Registry) : empty.Balanced g r where
  settled _ registered := absurd registered List.not_mem_nil
  leaves handle left := by
    rcases left with isOpen | inVain
    · rw [inactive] at isOpen
      cases isOpen
    · exact absurd inVain List.not_mem_nil
  published _ _ member := absurd member List.not_mem_nil
  events := by rw [untold]; rfl
  count := uncounted

theorem not_completed_of_open {handle : Handle} {d : Descriptor} (found : r.get? handle = some d)
    (isOpen : d.stop = none) (e : Descriptor) : ¬ r.Completed handle e := by
  rintro ⟨same, isComplete⟩
  cases found.symm.trans same
  rw [Descriptor.isComplete, isOpen] at isComplete
  cases isComplete

theorem Balanced.tidy (balanced : book.Balanced s.toGenerator s.registry) : s.Tidy :=
  fun handle isActive => (balanced.leaves handle (.inl isActive)).2

section

variable [Sink σ]

def note (book : Book) (s : Session σ η) (request : Session.Request σ) : Book where
  registered := book.registered ++ s.registry.added (request.perform s).2.registry
  published := book.published ++ (request.deed s).published
  abandoned := book.abandoned ++ request.abandoned s

-- What is completed without an abort is published.
theorem mem_published_of_returned {request : Session.Request σ} {handle : Handle} {d : Descriptor}
    (returned : cutShort (request.perform s).1 = false) :
    (handle, d) ∈ (request.deed s).published ↔
      (request.perform s).2.registry.Completed handle d ∧ ∀ e, ¬ s.registry.Completed handle e := by
  have notAborted : (request.deed s).aborted = false := returned
  rw [Deed.published, notAborted]
  exact Registry.mem_completedSince_iff

theorem Balanced.settled_note (balanced : book.Balanced s.toGenerator s.registry)
    (request : Session.Request σ) (returned : cutShort (request.perform s).1 = false)
    {handle : Handle} (registered : handle ∈ (book.note s request).registered) :
    (∃ d, (handle, d) ∈ (book.note s request).published) ∨
      (book.note s request).Leaves (request.perform s).2.toGenerator handle := by
  rcases List.mem_append.mp registered with old | new
  · rcases balanced.settled handle old with ⟨d, published⟩ | isActive | inVain
    · exact .inl ⟨d, List.mem_append_left _ published⟩
    · obtain ⟨-, e, found, isOpen⟩ := balanced.leaves handle (.inl isActive)
      rcases Registry.completed_of_turns (request.turns s) isActive with
        stillActive | ⟨d, completed⟩
      · exact .inr (.inl stillActive)
      · have published := (mem_published_of_returned returned).mpr
          ⟨completed, not_completed_of_open found isOpen⟩
        exact .inl ⟨d, List.mem_append_right _ published⟩
    · exact .inr (.inr (List.mem_append_left _ inVain))
  · rcases request.account s new with ⟨d, completed⟩ | isActive | inVain
    · have fresh (e : Descriptor) : ¬ s.registry.Completed handle e := fun known =>
        Nat.not_le_of_lt (List.getElem?_eq_some_iff.mp known.1).1 (Registry.mem_added_iff.mp new).1
      have published := (mem_published_of_returned returned).mpr ⟨completed, fresh⟩
      exact .inl ⟨d, List.mem_append_right _ published⟩
    · exact .inr (.inl isActive)
    · exact .inr (.inr (List.mem_append_right _ inVain))

theorem Balanced.leaves_note (balanced : book.Balanced s.toGenerator s.registry)
    (apart : ∀ handle ∈ book.abandoned, s.active ≠ some handle) {request : Session.Request σ}
    (tidy : (request.perform s).2.Tidy) {handle : Handle}
    (left : (book.note s request).Leaves (request.perform s).2.toGenerator handle) :
    handle ∈ (book.note s request).registered ∧
      ∃ d, (request.perform s).2.registry.get? handle = some d ∧ d.stop = none := by
  rcases left with isActive | inVain
  · obtain ⟨d, found, isOpen⟩ := tidy handle isActive
    refine ⟨List.mem_append.mpr ?_, d, found, isOpen⟩
    rcases Registry.active_of_turns (request.turns s) isActive with before | new
    · exact .inl (balanced.leaves handle (.inl before)).1
    · refine .inr ?_
      exact Registry.mem_added_iff.mpr ⟨new, (List.getElem?_eq_some_iff.mp found).1⟩
  · rcases List.mem_append.mp inVain with old | new
    · obtain ⟨registered, d, found, isOpen⟩ := balanced.leaves handle (.inr old)
      have same := Registry.get?_of_turns (request.turns s) (List.getElem?_eq_some_iff.mp found).1
        (apart handle old)
      exact ⟨List.mem_append_left _ registered, d, same.trans found, isOpen⟩
    · obtain ⟨added, -, unfinished⟩ := Session.Request.of_abandoned new
      exact ⟨List.mem_append_right _ added, unfinished⟩

-- A descriptor that is neither new nor that of the open stub cannot become complete.
theorem Balanced.published_note (balanced : book.Balanced s.toGenerator s.registry)
    {request : Session.Request σ} (keeps : s.registry.Keeps (request.perform s).2.registry)
    (returned : cutShort (request.perform s).1 = false) {handle : Handle} {d : Descriptor}
    (published : (handle, d) ∈ (book.note s request).published) :
    handle ∈ (book.note s request).registered ∧
      (request.perform s).2.registry.Completed handle d := by
  rcases List.mem_append.mp published with old | new
  · obtain ⟨registered, completed⟩ := balanced.published handle d old
    exact ⟨List.mem_append_left _ registered, keeps.completed completed⟩
  · obtain ⟨completed, before⟩ := (mem_published_of_returned returned).mp new
    refine ⟨List.mem_append.mpr ?_, completed⟩
    rcases Nat.lt_or_ge handle.index s.registry.size with known | unknown
    · refine .inl (balanced.leaves handle (.inl ?_)).1
      by_contra free
      have same := Registry.get?_of_turns (request.turns s) known free
      exact before d ⟨same.symm.trans completed.1, completed.2⟩
    · exact .inr (Registry.mem_added_iff.mpr
        ⟨unknown, (List.getElem?_eq_some_iff.mp completed.1).1⟩)

theorem Balanced.note (balanced : book.Balanced s.toGenerator s.registry)
    (apart : ∀ handle ∈ book.abandoned, s.active ≠ some handle) (request : Session.Request σ)
    (keeps : s.registry.Keeps (request.perform s).2.registry)
    (tidy : (request.perform s).2.Tidy) (returned : cutShort (request.perform s).1 = false) :
    (book.note s request).Balanced (request.perform s).2.toGenerator
      (request.perform s).2.registry where
  settled _ registered := balanced.settled_note request returned registered
  leaves _ left := balanced.leaves_note apart tidy left
  published _ _ member := balanced.published_note keeps returned member
  events := by
    rw [(request.perform_deed balanced.tidy).1, List.filterMap_append, balanced.events,
      Deed.registered_events, Book.note, List.map_append]
  count := by
    rw [(request.perform_deed balanced.tidy).2, balanced.count, Book.note, List.length_append]

end

end Book

end RuntimeStubs
