import RuntimeStubs.Proofs.Session.Annals

/-! Marks and the stubs they close.

A mark names the stub it was handed out for by a place in a registry only. Among generators that
share a registry this is enough: places are given out once, so the generator that has a stub open
under the handle of a mark is the one that has handed the mark out
(`Workshop.Orderly.owner_of_issued`), and it has had the stub open ever since. An estate is any
number of workshops, each with a registry of its own, and marks may go from one workshop to another.
Main statement: what a mark from anywhere in the estate closes (`Estate.marks_close`). A mark from
another registry closes whatever stub its receiver has open under the same place
(`Estate.marks_close_foreign`). -/

set_option autoImplicit false

namespace RuntimeStubs

namespace Session

variable {σ η : Type} [Sink σ] {s : Session σ η} {mark : Mark}

theorem closeStub_of_inactive (inactive : s.active ≠ some mark.handle) :
    closeStub mark s = (.error (.markMismatch mark.name), s) := by
  rw [closeStub, Action.get_bind, if_pos inactive]
  rfl

-- The name of a mark plays no part in closing.
theorem closeStub_of_active (active : s.active = some mark.handle) (name : String) :
    closeStub ⟨mark.handle, name⟩ s = closeStub mark s := by
  simp only [closeStub, Action.get_bind, active, ne_eq, not_true_eq_false, if_false]

theorem Request.turns (request : Request σ) :
    Action.Respects Turns fun s : Session σ η => request.perform s := by
  cases request with
  | openStub group name => exact openStub_turns group name
  | closeStub mark => exact closeStub_turns mark
  | hydrate stub extra => exact hydrate?_turns stub extra
  | commit stub start stop extras => exact commit_turns stub start stop extras
  | generate stub extra emit => exact generate_turns stub extra emit
  | emit code => exact fun _ => .refl

end Session

namespace Registry

theorem size_le_of_turns {first last : Registry × Option Handle}
    (turns : Relation.ReflTransGen Turn first last) : first.1.size ≤ last.1.size := by
  induction turns with
  | refl => exact Nat.le_refl _
  | tail _ turn ih =>
    refine Nat.le_trans ih ?_
    cases turn <;> simp [size_push, size_put]

theorem active_of_turns {first last : Registry × Option Handle}
    (turns : Relation.ReflTransGen Turn first last) {handle : Handle}
    (isOpen : last.2 = some handle) : first.2 = some handle ∨ first.1.size ≤ handle.index := by
  induction turns with
  | refl => exact .inl isOpen
  | tail turns turn ih =>
    cases turn with
    | abandon r active d | adopt r active d => exact ih isOpen
    | start r d =>
      cases isOpen
      exact .inr (size_le_of_turns turns)
    | finish => cases isOpen

end Registry

namespace Workshop

variable {ι κ : Type} {σ η : ι → Type} [DecidableEq ι] [DecidableEq κ] [∀ i, Sink (σ i)]

/-- The mark that an operation hands out, with the generator it comes from. A generation keeps its
mark to itself. -/
def issued? (w : Workshop ι κ σ η) : Operation ι κ σ η → Option (ι × Mark)
  | .openStub i group name => (w.generators i).bind fun generator =>
    (Session.openStub group name ⟨generator, w.registry, w.log⟩).1.toOption.map (Prod.mk i)
  | _ => none

def issued (w : Workshop ι κ σ η) : List (Operation ι κ σ η) → List (ι × Mark)
  | [] => []
  | operation :: rest => (w.issued? operation).toList ++ (w.step operation).issued rest

variable {w : Workshop ι κ σ η} {i j : ι} {mark : Mark} {handle : Handle}
  {operation : Operation ι κ σ η}

theorem active_of_party (party : operation.party? ≠ some i) (isOpen :
    (w.step operation).active i = some handle) : w.active i = some handle := by
  by_cases sole : operation.created? = some i
  · cases operation with
    | create j sink hooks memory archive listener listing =>
      cases sole
      rw [step, active_update, Function.update_self] at isOpen
      cases isOpen
    | _ => cases sole
  · rwa [active, generators_step_ne party sole, ← active] at isOpen

theorem active_of_step (isOpen : (w.step operation).active i = some handle) :
    w.active i = some handle ∨ w.registry.size ≤ handle.index := by
  by_cases party : operation.party? = some i
  · obtain ⟨⟨j, request⟩, asks, same⟩ := Option.map_eq_some_iff.mp party
    obtain rfl : j = i := same
    cases found : w.generators j with
    | none =>
      simp only [step_of_request asks, serve, found] at isOpen
      exact .inl isOpen
    | some generator =>
      rw [step_of_generator asks found, active_update, Function.update_self] at isOpen
      have back := Registry.active_of_turns (request.turns ⟨generator, w.registry, w.log⟩) isOpen
      rwa [active, found, Option.bind_some]
  · exact .inl (active_of_party party isOpen)

-- A stub that is not open any more is not opened again.
theorem Orderly.active_of_run (orderly : w.Orderly) (known : handle.index < w.registry.size)
    (operations : List (Operation ι κ σ η)) (isOpen : (w.run operations).active i = some handle) :
    w.active i = some handle := by
  induction operations generalizing w with
  | nil => exact isOpen
  | cons operation rest ih =>
    obtain ⟨next, keeps⟩ := orderly.step operation
    have before := ih next (Nat.lt_of_lt_of_le known keeps.size_le) isOpen
    exact (active_of_step before).resolve_right (Nat.not_le_of_lt known)

/-- What is true of a mark when it is handed out. -/
structure Issues (w : Workshop ι κ σ η) (operation : Operation ι κ σ η) (i : ι) (mark : Mark) :
    Prop where
  opens : ∃ group, operation = .openStub i group mark.name
  handle : mark.handle = ⟨w.registry.size⟩
  active : (w.step operation).active i = some mark.handle
  found : ∃ d, (w.step operation).registry.get? mark.handle = some d ∧ d.name = mark.name

theorem issues_of_issued? (issued : w.issued? operation = some (i, mark)) :
    w.Issues operation i mark := by
  cases operation with
  | openStub j group name =>
    obtain ⟨generator, found, opened⟩ := Option.bind_eq_some_iff.mp issued
    rcases ran : Session.openStub group name ⟨generator, w.registry, w.log⟩ with ⟨_ | mark, t⟩ <;>
      rw [ran] at opened
    · cases opened
    · cases opened
      have asks : (Operation.openStub i group name : Operation ι κ σ η).request? =
        some ⟨i, .openStub group name⟩ := rfl
      have stepped := step_of_generator asks found
      rw [Session.Request.perform, ran] at stepped
      cases (Session.openStub_ends ..).of_eq ran with
      | opened start inactive quiet =>
        obtain ⟨_, _, _, rfl⟩ := quiet
        refine ⟨⟨group, rfl⟩, rfl, ?_, .create group name start none, ?_, rfl⟩
        · rw [stepped, active_update, Function.update_self]
        · rw [stepped]
          exact Registry.get?_push_size ..
  | _ => cases issued

theorem mem_issued_iff {operations : List (Operation ι κ σ η)} {entry : ι × Mark} :
    entry ∈ w.issued operations ↔ ∃ before operation after,
      operations = before ++ operation :: after ∧
        (w.run before).issued? operation = some entry := by
  induction operations generalizing w with
  | nil => simp [issued]
  | cons first rest ih =>
    rw [issued, List.mem_append, Option.mem_toList, ih]
    constructor
    · rintro (now | ⟨before, operation, after, rfl, later⟩)
      · exact ⟨[], first, rest, rfl, now⟩
      · exact ⟨first :: before, operation, after, rfl, later⟩
    · rintro ⟨before, operation, after, split, issued⟩
      cases before with
      | nil =>
        cases split
        exact .inl issued
      | cons _ before =>
        cases split
        exact .inr ⟨before, operation, after, rfl, issued⟩

theorem issued_append (w : Workshop ι κ σ η) (operations more : List (Operation ι κ σ η)) :
    w.issued (operations ++ more) = w.issued operations ++ (w.run operations).issued more := by
  induction operations generalizing w with
  | nil => rfl
  | cons operation rest ih =>
    rw [List.cons_append, issued, ih, ← List.append_assoc]
    rfl

theorem run_append (w : Workshop ι κ σ η) (operations more : List (Operation ι κ σ η)) :
    w.run (operations ++ more) = (w.run operations).run more :=
  List.foldl_append ..

/-- The generator has opened the stub of a mark and has had it open ever since. -/
def HoldsSince (w : Workshop ι κ σ η) (operations : List (Operation ι κ σ η)) (i : ι)
    (mark : Mark) : Prop :=
  ∃ before group after, operations = before ++ .openStub i group mark.name :: after ∧
    (w.run before).issued? (.openStub i group mark.name) = some (i, mark) ∧
    ∀ middle rest, after = middle ++ rest →
      (w.run (before ++ .openStub i group mark.name :: middle)).active i = some mark.handle

/-- Under the handle of a mark no generator but the one that has handed it out has a stub open. -/
theorem Orderly.owner_of_issued (orderly : w.Orderly) {operations : List (Operation ι κ σ η)}
    (issued : (j, mark) ∈ w.issued operations)
    (isOpen : (w.run operations).active i = some mark.handle) :
    j = i ∧ w.HoldsSince operations i mark := by
  obtain ⟨before, operation, after, rfl, now⟩ := mem_issued_iff.mp issued
  have issues := issues_of_issued? now
  obtain ⟨group, rfl⟩ := issues.opens
  have opened : ((w.run before).step (.openStub j group mark.name)).Orderly :=
    ((orderly.run before).1.step _).1
  have known : mark.handle.index <
      ((w.run before).step (.openStub j group mark.name)).registry.size := by
    obtain ⟨d, found, -⟩ := issues.found
    exact (List.getElem?_eq_some_iff.mp found).1
  -- Whoever has the stub open in the end had it open all the time.
  have held (middle rest : List (Operation ι κ σ η)) (split : after = middle ++ rest) :
      (w.run (before ++ .openStub j group mark.name :: middle)).active i = some mark.handle := by
    have between := (orderly.run (before ++ .openStub j group mark.name :: middle)).1
    refine between.active_of_run ?_ rest ?_
    · rw [run_append]
      exact Nat.lt_of_lt_of_le known (opened.run middle).2.size_le
    · rw [← run_append, List.append_assoc, List.cons_append, ← split]
      exact isOpen
  have atOnce := held [] after rfl
  rw [run_append] at atOnce
  obtain rfl : j = i := Registry.Orderly.distinct opened j i mark.handle issues.active atOnce
  exact ⟨rfl, before, group, after, rfl, now, held⟩

theorem Orderly.index_of_issued (orderly : w.Orderly) {operations : List (Operation ι κ σ η)}
    (issued : (j, mark) ∈ w.issued operations) :
    w.registry.size ≤ mark.handle.index ∧
      mark.handle.index < (w.run operations).registry.size := by
  obtain ⟨before, operation, after, rfl, now⟩ := mem_issued_iff.mp issued
  have issues := issues_of_issued? now
  obtain ⟨d, found, -⟩ := issues.found
  obtain ⟨between, keeps⟩ := orderly.run before
  have opened := (between.step operation).1
  rw [run_append]
  refine ⟨?_, ?_⟩
  · rw [issues.handle]
    exact keeps.size_le
  · have inside := (List.getElem?_eq_some_iff.mp found).1
    exact Nat.lt_of_lt_of_le inside (opened.run after).2.size_le

theorem Orderly.name_of_issued (orderly : w.Orderly) {operations : List (Operation ι κ σ η)}
    (issued : (j, mark) ∈ w.issued operations) :
    ∃ d, (w.run operations).registry.get? mark.handle = some d ∧ d.name = mark.name := by
  obtain ⟨before, operation, after, rfl, now⟩ := mem_issued_iff.mp issued
  obtain ⟨d, found, named⟩ := (issues_of_issued? now).found
  have opened := ((orderly.run before).1.step operation).1
  obtain ⟨e, isFound, grows⟩ := (opened.run after).2 mark.handle d found
  refine ⟨e, ?_, grows.name.trans named⟩
  rw [run_append]
  exact isFound

end Workshop

/-! ### Estates -/

def Estate (ρ ι κ : Type) (σ η : ι → Type) : Type := ρ → Workshop ι κ σ η

namespace Estate

variable {ρ ι κ : Type} {σ η : ι → Type}

def start (logs : ρ → Log) : Estate ρ ι κ σ η := fun r => .start (logs r)

variable [DecidableEq ρ] [DecidableEq ι] [DecidableEq κ] [∀ i, Sink (σ i)]

def step (e : Estate ρ ι κ σ η) (entry : ρ × Workshop.Operation ι κ σ η) : Estate ρ ι κ σ η :=
  Function.update e entry.1 ((e entry.1).step entry.2)

def run (e : Estate ρ ι κ σ η) (operations : List (ρ × Workshop.Operation ι κ σ η)) :
    Estate ρ ι κ σ η := operations.foldl step e

def issued (e : Estate ρ ι κ σ η) :
    List (ρ × Workshop.Operation ι κ σ η) → List (ρ × ι × Mark)
  | [] => []
  | (r, operation) :: rest =>
    ((e r).issued? operation).toList.map (Prod.mk r) ++ (e.step (r, operation)).issued rest

def operationsAt (r : ρ) (operations : List (ρ × Workshop.Operation ι κ σ η)) :
    List (Workshop.Operation ι κ σ η) :=
  operations.filterMap fun (q, operation) => if q = r then some operation else none

variable {e : Estate ρ ι κ σ η} {q r : ρ} {i j : ι} {mark : Mark}
  {operations : List (ρ × Workshop.Operation ι κ σ η)}

theorem step_self (e : Estate ρ ι κ σ η) (r : ρ) (operation : Workshop.Operation ι κ σ η) :
    e.step (r, operation) r = (e r).step operation := Function.update_self ..

theorem step_ne (differ : q ≠ r) (e : Estate ρ ι κ σ η) (operation : Workshop.Operation ι κ σ η) :
    e.step (q, operation) r = e r := Function.update_of_ne (Ne.symm differ) ..

theorem run_apply (e : Estate ρ ι κ σ η) (operations : List (ρ × Workshop.Operation ι κ σ η))
    (r : ρ) : e.run operations r = (e r).run (operationsAt r operations) := by
  induction operations generalizing e with
  | nil => rfl
  | cons entry rest ih =>
    obtain ⟨q, operation⟩ := entry
    rw [run, List.foldl_cons, ← run, ih]
    by_cases same : q = r
    · subst same
      simp [step_self, operationsAt, Workshop.run]
    · simp [step_ne same, operationsAt, same]

theorem mem_issued_iff : (q, j, mark) ∈ e.issued operations ↔
    (j, mark) ∈ (e q).issued (operationsAt q operations) := by
  induction operations generalizing e with
  | nil => simp [issued, operationsAt, Workshop.issued]
  | cons entry rest ih =>
    obtain ⟨r, operation⟩ := entry
    rw [issued, List.mem_append, ih]
    by_cases same : r = q
    · subst same
      simp [step_self, operationsAt, Workshop.issued]
    · simp [step_ne same, operationsAt, same]

/-- What becomes of a mark, from wherever in the estate, that is handed to a generator. It closes
nothing but the stub that the generator has open under the handle of the mark, and if it comes from
the generator's own registry, it comes from this generator and the stub is the one it was for. -/
theorem marks_close (logs : ρ → Log) (operations : List (ρ × Workshop.Operation ι κ σ η)) (q r : ρ)
    (i j : ι) (mark : Mark) (g : Generator (σ i) (η i))
    (found : ((start logs : Estate ρ ι κ σ η).run operations r).generators i = some g)
    (obtained : (q, j, mark) ∈ (start logs : Estate ρ ι κ σ η).issued operations) :
    let w := (start logs : Estate ρ ι κ σ η).run operations r
    let s : Session (σ i) (η i) := ⟨g, w.registry, w.log⟩
    (g.active ≠ some mark.handle →
      Session.closeStub mark s = (.error (.markMismatch mark.name), s)) ∧
    (g.active = some mark.handle → q = r → j = i ∧
      ((start logs : Estate ρ ι κ σ η) r).HoldsSince (operationsAt r operations) i mark) ∧
    (g.active = some mark.handle → ∀ name,
      Session.closeStub mark s = Session.closeStub ⟨mark.handle, name⟩ s) ∧
    ∀ d t, Session.closeStub mark s = (.ok d, t) →
      g.active = some mark.handle ∧ t.active = none ∧
        t.registry = w.registry.put mark.handle d ∧
        (∃ opened, w.registry.get? mark.handle = some opened ∧ opened.isComplete = false ∧
          opened.Grows d) ∧
        (q = r → d.name = mark.name) := by
  intro w s
  have orderly : w.Orderly := by
    rw [show w = _ from run_apply ..]
    exact ((Workshop.orderly_start (logs r)).run _).1
  have known := mem_issued_iff.mp obtained
  have isActive : w.active i = g.active := by rw [Workshop.active, found, Option.bind_some]
  refine ⟨fun inactive => Session.closeStub_of_inactive (s := s) inactive, ?_, ?_, ?_⟩
  · rintro active rfl
    refine (Workshop.orderly_start (logs q)).owner_of_issued known ?_
    rw [← active, ← isActive, show w = _ from run_apply ..]
    rfl
  · intro active name
    exact (Session.closeStub_of_active (s := s) active name).symm
  · intro d t closed
    cases (Session.closeStub_ends mark s).of_eq closed with
    | closed _ completes quiet isAnnounced =>
      obtain ⟨opened, active, isFound, -, -, isComplete⟩ := completes
      obtain ⟨_, sameFound, isOpen⟩ := orderly.tidy found mark.handle active
      cases sameFound.symm.trans isFound
      have incomplete : opened.isComplete = false := by rw [Descriptor.isComplete, isOpen]; rfl
      have named : d.name = opened.name := by rw [isComplete]
      have grows : opened.Grows d := by
        rw [isComplete]
        exact ⟨rfl, rfl, Address.le_iff.mpr (Nat.le_refl _), by simp [incomplete]⟩
      obtain ⟨_, _, _, rfl⟩ := quiet
      refine ⟨active, ?_, ?_, ⟨opened, isFound, incomplete, grows⟩, ?_⟩
      · rw [isAnnounced]
        rfl
      · rw [isAnnounced]
        rfl
      · rintro rfl
        obtain ⟨_, isIssued, isName⟩ := (Workshop.orderly_start (logs q)).name_of_issued known
        rw [← Estate.start, ← run_apply] at isIssued
        cases isIssued.symm.trans isFound
        exact named.trans isName

def neighbours : List (Bool × Workshop.Operation Bool Unit (fun _ => CodeBuffer) fun _ => Unit) :=
  [(true, .create true (.create ⟨0x1000⟩ 64) .standard () none .silent false),
    (true, .create false (.create ⟨0x2000⟩ 64) .standard () none .silent false),
    (false, .create true (.create ⟨0x3000⟩ 64) .standard () none .silent false),
    (true, .openStub true "Boot" "first"), (true, .openStub false "Boot" "second"),
    (false, .openStub true "Boot" "third")]

theorem marks_close_neighbours :
    let e := (start fun _ => .create (.upTo 0)).run neighbours
    ∃ g, (e true).generators true = some g ∧
      (true, false, ⟨⟨1⟩, "second"⟩) ∈ (start fun _ => .create (.upTo 0)).issued neighbours ∧
      let s : Session CodeBuffer Unit := ⟨g, (e true).registry, (e true).log⟩
      Session.closeStub ⟨⟨1⟩, "second"⟩ s = (.error (.markMismatch "second"), s) := by
  refine ⟨_, rfl, by decide +kernel, ?_⟩
  have other := (marks_close (fun _ => .create (.upTo 0)) neighbours true true true false
    ⟨⟨1⟩, "second"⟩ _ rfl (by decide +kernel)).1
  exact other (by decide +kernel)

-- The third stub is the first one of its registry.
theorem marks_close_foreign :
    let e := (start fun _ => .create (.upTo 0)).run neighbours
    let third : Mark := ⟨⟨0⟩, "third"⟩
    (false, true, third) ∈ (start fun _ => .create (.upTo 0)).issued neighbours ∧
      (∀ i, (true, i, third) ∉ (start fun _ => .create (.upTo 0)).issued neighbours) ∧
      ∃ g d, (e true).generators true = some g ∧ d.name = "first" ∧
        (Session.closeStub third ⟨g, (e true).registry, (e true).log⟩).1 = .ok d := by
  refine ⟨by decide +kernel, by decide +kernel, _, _, rfl, ?_, rfl⟩
  rfl

end Estate

end RuntimeStubs
