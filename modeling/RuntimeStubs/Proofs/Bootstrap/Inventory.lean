import RuntimeStubs.Proofs.Bootstrap.Course
import RuntimeStubs.Proofs.Session.Accounts

/-! The calls of a bootstrap and what their generators register.

An inventory is a course whose calls work through the requests of their generators, with a book for
each call. Other generators may work on the same registry, and everybody may register and freeze.
Main statement (`Kept.run`): the book of a call agrees with its generator and with the registry,
unless the body of the call has failed. -/

set_option autoImplicit false

namespace RuntimeStubs

theorem Course.descriptors_ask {ι : Type} {σ η : ι → Type} {i : ι} (c : Course ι σ η) (kind : Phase)
    (generator : Generator (σ i) (η i)) :
    (c.step (.ask kind i generator)).shared.registry.descriptors =
      c.shared.registry.descriptors := by
  have same := BootstrapState.descriptors_enter kind (generator.archive.map Archive.kind) c.shared
  rcases entered : BootstrapState.enter kind (generator.archive.map Archive.kind) c.shared with
    ⟨fault | _, shared⟩ <;> rw [entered] at same <;> simp only [step, entered] <;> exact same

/-- The calls of a bootstrap with their books, and the generators that work outside the phases. -/
structure Inventory (ι : Type) (σ η : ι → Type) where
  course : Course ι σ η
  guests : List ((i : ι) × Generator (σ i) (η i))
  books : Nat → Book

namespace Inventory

variable {ι : Type} {σ η : ι → Type}

inductive Move (ι : Type) (σ η : ι → Type) where
  | ask (kind : Phase) (i : ι) (sink : σ i) (hooks : Hooks (σ i) (η i)) (memory : η i)
    (archive : Option Archive) (listener : Listener)
  | request (n : Nat) (request : (i : ι) → Session.Request (σ i))
  | succeed (n : Nat)
  | fail (n : Nat) (fault : Fault)
  | invite (i : ι) (sink : σ i) (hooks : Hooks (σ i) (η i)) (memory : η i)
    (archive : Option Archive) (listener : Listener) (listing : Bool)
  | visit (m : Nat) (request : (i : ι) → Session.Request (σ i))
  | register (group name : String) (start : Address) (stop : Option Address)
  | freeze
  | unfreeze
  | log (log : Log)

/-- Whether a move may write to the registry without belonging to a phase. -/
def Move.outside : Move ι σ η → Bool
  | .visit .. | .register .. | .freeze | .unfreeze => true
  | _ => false

def start (delayed listing : Bool) (log : Log) : Inventory ι σ η :=
  ⟨.start delayed listing .empty log, [], fun _ => .empty⟩

def registry (v : Inventory ι σ η) : Registry := v.course.shared.registry

def log (v : Inventory ι σ η) : Log := v.course.shared.log

def active (v : Inventory ι σ η) : Nat ⊕ Nat → Option Handle
  | .inl n => v.course.calls[n]?.bind fun call => call.generator.active
  | .inr m => v.guests[m]?.bind fun guest => guest.2.active

def disturb (change : Registry → Registry) (v : Inventory ι σ η) : Inventory ι σ η :=
  { v with course := v.course.step (.others fun both => (change both.1, both.2)) }

variable [∀ i, Sink (σ i)]

/-- Lets a call work that is executing. A request that is cut short ends its body. -/
def work (n : Nat) (request : (i : ι) → Session.Request (σ i)) (v : Inventory ι σ η) :
    Inventory ι σ η :=
  match v.course.calls[n]? with
  | some ⟨_, i, generator, .executing⟩ =>
    let s : Session (σ i) (η i) := ⟨generator, v.registry, v.log⟩
    let worked := v.course.step (.work n fun i s => ((request i).perform s).2)
    { v with
      course :=
        match ((request i).perform s).1 with
        | .error (.abort cause) => worked.step (.fail n (.abort cause))
        | _ => worked
      books := Function.update v.books n ((v.books n).note s (request i)) }
  | _ => v

def step (v : Inventory ι σ η) : Move ι σ η → Inventory ι σ η
  | .ask kind i sink hooks memory archive listener =>
    let generator := Generator.create sink hooks memory archive listener false
    { v with course := v.course.step (.ask kind i generator) }
  | .request n request => v.work n request
  | .succeed n => { v with course := v.course.step (.succeed n) }
  | .fail n fault => { v with course := v.course.step (.fail n fault) }
  | .invite i sink hooks memory archive listener listing =>
    { v with guests := v.guests ++ [⟨i, .create sink hooks memory archive listener listing⟩] }
  | .visit m request =>
    match v.guests[m]? with
    | none => v
    | some ⟨i, generator⟩ =>
      let session := ((request i).perform ⟨generator, v.registry, v.log⟩).2
      { v with
        course := v.course.step (.others fun _ => (session.registry, session.log))
        guests := v.guests.set m ⟨i, session.toGenerator⟩ }
  | .register group name start stop => v.disturb fun r => r.call (.register group name start stop)
  | .freeze => v.disturb fun r => r.freeze.toOption.getD r
  | .unfreeze => v.disturb fun r => r.unfreeze.toOption.getD r
  | .log log => { v with course := v.course.step (.others fun both => (both.1, log)) }

def run (v : Inventory ι σ η) (moves : List (Move ι σ η)) : Inventory ι σ η := moves.foldl step v

/-! ### The invariant -/

/-- The book of a call agrees with its generator, and nobody has a stub open that the call has
registered in vain. -/
structure Accounts (v : Inventory ι σ η) (n : Nat) (call : Request ι σ η) : Prop where
  balanced : (v.books n).Balanced call.generator v.registry
  released : ∀ handle ∈ (v.books n).abandoned, ∀ party, v.active party ≠ some handle

/-- A body that fails may have been cut short, and then nothing is said of its book. -/
structure Kept (v : Inventory ι σ η) : Prop where
  orderly : v.registry.Orderly v.active
  governed : v.course.Governed
  accounts : ∀ (n : Nat) (call : Request ι σ η), v.course.calls[n]? = some call →
    (∀ fault, call.standing ≠ .failed fault) → v.Accounts n call
  blank : ∀ n, (∀ call, v.course.calls[n]? = some call → ¬ call.standing.executed) →
    v.books n = .empty

omit [∀ i, Sink (σ i)] in
theorem kept_start (delayed listing : Bool) (log : Log) :
    (start delayed listing log : Inventory ι σ η).Kept where
  orderly := by
    have none : (start delayed listing log : Inventory ι σ η).active = fun _ => none := by
      funext party
      cases party <;> simp [active, start, Course.start]
    rw [none]
    exact Registry.orderly_empty
  governed := Course.governed_start ..
  accounts n call found := by simp [start, Course.start] at found
  blank _ _ := rfl

variable {v w : Inventory ι σ η} {n : Nat} {kind : Phase} {i : ι}
  {generator : Generator (σ i) (η i)}

-- Who comes last and has no stub open makes no difference.
theorem bind_concat {α β : Type} {f : α → Option β} (l : List α) {x : α} (nothing : f x = none)
    (n : Nat) : (l ++ [x])[n]?.bind f = l[n]?.bind f := by
  rcases Nat.lt_or_ge n l.length with inside | outside
  · rw [List.getElem?_append_left inside]
  · rw [List.getElem?_append_right outside, List.getElem?_eq_none outside,
      List.getElem?_singleton]
    split
    · exact nothing
    · rfl

omit [∀ i, Sink (σ i)] in
theorem active_set_call {calls : List (Request ι σ η)} {call : Request ι σ η}
    (found : calls[n]? = some call) (changed : Request ι σ η) (shared other : BootstrapState)
    (guests : List ((i : ι) × Generator (σ i) (η i))) (books more : Nat → Book) :
    active ⟨⟨shared, calls.set n changed⟩, guests, books⟩ =
      Function.update (active ⟨⟨other, calls⟩, guests, more⟩) (.inl n)
        changed.generator.active := by
  funext party
  cases party with
  | inl m =>
    by_cases same : m = n
    · subst same
      simp [active, List.getElem?_set_self (List.getElem?_eq_some_iff.mp found).1]
    · simp [active, List.getElem?_set_ne (Ne.symm same), same]
  | inr m => simp [active]

omit [∀ i, Sink (σ i)] in
theorem active_set_guest {m : Nat} {guest changed : (i : ι) × Generator (σ i) (η i)}
    (found : v.guests[m]? = some guest) (shared : BootstrapState) :
    active ⟨⟨shared, v.course.calls⟩, v.guests.set m changed, v.books⟩ =
      Function.update v.active (.inr m) changed.2.active := by
  funext party
  cases party with
  | inl n => simp [active]
  | inr k =>
    by_cases same : k = m
    · subst same
      simp [active, List.getElem?_set_self (List.getElem?_eq_some_iff.mp found).1]
    · simp [active, List.getElem?_set_ne (Ne.symm same), same]

omit [∀ i, Sink (σ i)] in
theorem active_invite (v : Inventory ι σ η) {guest : (i : ι) × Generator (σ i) (η i)}
    (inactive : guest.2.active = none) :
    active { v with guests := v.guests ++ [guest] } = v.active := by
  funext party
  cases party with
  | inl n => rfl
  | inr m =>
    refine bind_concat v.guests ?_ m
    exact inactive

omit [∀ i, Sink (σ i)] in
theorem active_call {call : Request ι σ η} (found : v.course.calls[n]? = some call) :
    v.active (.inl n) = call.generator.active := by
  rw [active, found, Option.bind_some]

omit [∀ i, Sink (σ i)] in
theorem active_guest {m : Nat} {guest : (i : ι) × Generator (σ i) (η i)}
    (found : v.guests[m]? = some guest) : v.active (.inr m) = guest.2.active := by
  rw [active, found, Option.bind_some]

omit [∀ i, Sink (σ i)] in
theorem Kept.turns (kept : v.Kept) {party : Nat ⊕ Nat} {last : Registry × Option Handle}
    (turns : Relation.ReflTransGen Registry.Turn (v.registry, v.active party) last) :
    last.1.Orderly (Function.update v.active party last.2) ∧ v.registry.Keeps last.1 :=
  Registry.Orderly.turns turns (show v.active party = _ from rfl) kept.orderly

omit [∀ i, Sink (σ i)] in
-- What one party does to the registry leaves the calls of the others as they are.
theorem Kept.accounts_of_turns (kept : v.Kept) {party : Nat ⊕ Nat}
    {last : Registry × Option Handle}
    (turns : Relation.ReflTransGen Registry.Turn (v.registry, v.active party) last)
    {call : Request ι σ η} (found : v.course.calls[n]? = some call)
    (accounts : v.Accounts n call) (apart : party ≠ .inl n) :
    (v.books n).Balanced call.generator last.1 ∧ ∀ handle ∈ (v.books n).abandoned,
      ∀ other, Function.update v.active party last.2 other ≠ some handle := by
  have released {handle : Handle} (inVain : handle ∈ (v.books n).abandoned) :=
    have ⟨_, _, known, _⟩ := accounts.balanced.leaves handle (.inr inVain)
    Registry.get?_of_released turns (List.getElem?_eq_some_iff.mp known).1
      (accounts.released handle inVain)
  refine ⟨accounts.balanced.frame (kept.turns turns).2 ?_, fun handle inVain => (released inVain).2⟩
  rintro handle (isOpen | inVain)
  · exact kept.orderly.get?_of_other turns (Ne.symm apart) ((active_call found).trans isOpen)
  · exact (released inVain).1

theorem turns_of_call (found : v.course.calls[n]? = some ⟨kind, i, generator, .executing⟩)
    (request : Session.Request (σ i)) :
    let t := (request.perform ⟨generator, v.registry, v.log⟩).2
    Relation.ReflTransGen Registry.Turn (v.registry, v.active (.inl n))
      (t.registry, t.active) := by
  rw [active_call found]
  exact request.turns ⟨generator, v.registry, v.log⟩

theorem turns_of_guest {m : Nat} (found : v.guests[m]? = some ⟨i, generator⟩)
    (request : Session.Request (σ i)) :
    let t := (request.perform ⟨generator, v.registry, v.log⟩).2
    Relation.ReflTransGen Registry.Turn (v.registry, v.active (.inr m))
      (t.registry, t.active) := by
  rw [active_guest found]
  exact request.turns ⟨generator, v.registry, v.log⟩

-- What has just been registered in vain is new, so nobody had it open before.
theorem Kept.not_open_of_abandoned (kept : v.Kept)
    (found : v.course.calls[n]? = some ⟨kind, i, generator, .executing⟩)
    {request : Session.Request (σ i)} {handle : Handle}
    (inVain : handle ∈ request.abandoned (⟨generator, v.registry, v.log⟩ : Session (σ i) (η i)))
    (other : Nat ⊕ Nat) :
    Function.update v.active (.inl n)
      (request.perform (⟨generator, v.registry, v.log⟩ : Session (σ i) (η i))).2.active other ≠
        some handle := by
  intro isOpen
  obtain ⟨added, same, -⟩ := Session.Request.of_abandoned inVain
  have before : v.active other = some handle := by
    rwa [same, ← active_call found, Function.update_eq_self] at isOpen
  obtain ⟨d, known, -⟩ := kept.orderly.isOpen other handle before
  have inside := (List.getElem?_eq_some_iff.mp known).1
  exact Nat.not_le_of_lt inside (Registry.mem_added_iff.mp added).1

theorem Kept.accounts_note (kept : v.Kept)
    (found : v.course.calls[n]? = some ⟨kind, i, generator, .executing⟩)
    (request : Session.Request (σ i)) :
    let s : Session (σ i) (η i) := ⟨generator, v.registry, v.log⟩
    let t := (request.perform s).2
    cutShort (request.perform s).1 = false →
      ((v.books n).note s request).Balanced t.toGenerator t.registry ∧
        ∀ handle ∈ ((v.books n).note s request).abandoned,
          ∀ other, Function.update v.active (.inl n) t.active other ≠ some handle := by
  intro s t returned
  have turns := turns_of_call found request
  obtain ⟨orderly, keeps⟩ := kept.turns turns
  obtain ⟨balanced, released⟩ := kept.accounts n _ found (by simp)
  have tidy : t.Tidy := fun handle isOpen =>
    orderly.isOpen (.inl n) handle (by rwa [Function.update_self])
  refine ⟨balanced.note (fun handle inVain => ?_) request keeps tidy returned, ?_⟩
  · exact (active_call found).symm.trans_ne (released handle inVain (.inl n))
  · intro handle inVain
    rcases List.mem_append.mp inVain with old | new
    · obtain ⟨-, d, known, -⟩ := balanced.leaves handle (.inr old)
      exact (Registry.get?_of_released turns (List.getElem?_eq_some_iff.mp known).1
        (released handle old)).2
    · exact kept.not_open_of_abandoned found new

omit [∀ i, Sink (σ i)] in
-- Phases begin and end without touching a descriptor or a book.
theorem Kept.aside (kept : v.Kept) (descriptors : w.registry.descriptors = v.registry.descriptors)
    (sameActive : w.active = v.active) (books : w.books = v.books) (governed : w.course.Governed)
    (accounts : ∀ (n : Nat) (call : Request ι σ η), w.course.calls[n]? = some call →
      (∀ fault, call.standing ≠ .failed fault) → v.Accounts n call)
    (idle : ∀ n : Nat, (∀ call, w.course.calls[n]? = some call → ¬ call.standing.executed) →
      ∀ call, v.course.calls[n]? = some call → ¬ call.standing.executed) : w.Kept := by
  refine ⟨?_, governed, fun n call found reliable => ?_, fun n isIdle => ?_⟩
  · rw [sameActive]
    exact kept.orderly.of_descriptors descriptors
  · obtain ⟨balanced, released⟩ := accounts n call found reliable
    refine ⟨?_, by rwa [books, sameActive]⟩
    rw [books]
    refine balanced.frame (.of_descriptors descriptors) fun handle _ => ?_
    rw [Registry.get?, descriptors, Registry.get?]
  · rw [books]
    exact kept.blank n (idle n isIdle)

omit [∀ i, Sink (σ i)] in
theorem Kept.others (kept : v.Kept) {m : Nat} {last : Registry × Option Handle}
    (turns : Relation.ReflTransGen Registry.Turn (v.registry, v.active (.inr m)) last)
    (registry : w.registry = last.1)
    (moved : w.active = Function.update v.active (.inr m) last.2) (books : w.books = v.books)
    (calls : w.course.calls = v.course.calls) (governed : w.course.Governed) : w.Kept := by
  refine ⟨?_, governed, fun n call found reliable => ?_, fun n idle => ?_⟩
  · rw [registry, moved]
    exact (kept.turns turns).1
  · rw [calls] at found
    obtain ⟨balanced, released⟩ :=
      kept.accounts_of_turns turns found (kept.accounts n call found reliable) (by simp)
    refine ⟨?_, ?_⟩
    · rwa [books, registry]
    · rwa [books, moved]
  · rw [books]
    rw [calls] at idle
    exact kept.blank n idle

omit [∀ i, Sink (σ i)] in
-- The book of a call that has ended is that of its last moment.
theorem Kept.finish (kept : v.Kept)
    (found : v.course.calls[n]? = some ⟨kind, i, generator, .executing⟩) {standing : Standing}
    (executed : standing.executed) {shared : BootstrapState}
    (descriptors : shared.registry.descriptors = v.registry.descriptors)
    (governed : Course.Governed ⟨shared, v.course.calls.set n ⟨kind, i, generator, standing⟩⟩) :
    Kept { v with
      course := ⟨shared, v.course.calls.set n ⟨kind, i, generator, standing⟩⟩ } := by
  refine kept.aside descriptors ?_ rfl governed ?_ ?_
  · rw [active_set_call found _ shared v.course.shared v.guests v.books v.books]
    exact Function.update_eq_self_iff.mpr (active_call found).symm
  · intro m call isFound reliable
    rcases Course.getElem?_set_cases isFound with ⟨rfl, rfl⟩ | ⟨-, isFound⟩
    · obtain ⟨balanced, released⟩ := kept.accounts m _ found (by simp)
      exact ⟨balanced, released⟩
    · exact kept.accounts m call isFound reliable
  · intro m idle call isFound
    by_cases same : m = n
    · subst same
      exact absurd executed (idle _ (List.getElem?_set_self (List.getElem?_eq_some_iff.mp found).1))
    · exact idle call ((List.getElem?_set_ne (Ne.symm same)).trans isFound)

omit [∀ i, Sink (σ i)] in
theorem Kept.ask (kept : v.Kept) (kind : Phase) (generator : Generator (σ i) (η i))
    (inactive : generator.active = none) (untold : generator.events = [])
    (uncounted : generator.published = 0) :
    Kept { v with course := v.course.step (.ask kind i generator) } := by
  obtain ⟨listing, standing, calls⟩ := Course.calls_ask v.course kind generator
  have governed : (v.course.step (.ask kind i generator)).Governed :=
    kept.governed.turn (v.course.turn_step _)
  refine kept.aside (Course.descriptors_ask ..) ?_ rfl governed ?_ ?_
  · funext party
    cases party with
    | inl n =>
      simp only [active, calls]
      refine bind_concat v.course.calls ?_ n
      exact inactive
    | inr m => rfl
  · intro n call found reliable
    rw [calls] at found
    rcases Course.getElem?_concat_cases found with found | ⟨rfl, rfl⟩
    · exact kept.accounts n call found reliable
    · have blank := kept.blank v.course.calls.length (by simp)
      refine ⟨?_, ?_⟩
      · rw [blank]
        refine Book.balanced_empty ?_ ?_ ?_ v.registry
        exacts [inactive, untold, uncounted]
      · rw [blank]
        exact fun handle inVain => absurd inVain List.not_mem_nil
  · intro n idle call found
    refine idle call ?_
    rw [calls]
    exact (List.getElem?_append_left (List.getElem?_eq_some_iff.mp found).1).trans found

theorem work_eq (found : v.course.calls[n]? = some ⟨kind, i, generator, .executing⟩)
    (request : (i : ι) → Session.Request (σ i)) :
    let s : Session (σ i) (η i) := ⟨generator, v.registry, v.log⟩
    let t := ((request i).perform s).2
    ∃ standing : Standing, standing.executed ∧
      (cutShort ((request i).perform s).1 = true → ∃ fault, standing = .failed fault) ∧
      v.work n request = ⟨⟨{ v.course.shared with registry := t.registry, log := t.log },
        v.course.calls.set n ⟨kind, i, t.toGenerator, standing⟩⟩, v.guests,
        Function.update v.books n ((v.books n).note s (request i))⟩ := by
  intro s t
  let worked : Course ι σ η := ⟨{ v.course.shared with registry := t.registry, log := t.log },
    v.course.calls.set n ⟨kind, i, t.toGenerator, .executing⟩⟩
  have works : v.course.step (.work n fun i s => ((request i).perform s).2) = worked :=
    Course.step_work found _
  have again : worked.calls[n]? = some ⟨kind, i, t.toGenerator, .executing⟩ :=
    List.getElem?_set_self (List.getElem?_eq_some_iff.mp found).1
  simp only [Inventory.work, found, works]
  split
  · next cause aborts =>
    refine ⟨.failed (.abort cause), trivial, fun _ => ⟨_, rfl⟩, ?_⟩
    rw [Course.step_fail again, List.set_set]
  · next returns =>
    refine ⟨.executing, trivial, fun aborts => ?_, rfl⟩
    rcases ran : ((request i).perform s).1 with fault | reply <;> rw [ran] at aborts
    · cases fault <;> cases aborts
      exact absurd ran (returns _)
    · cases aborts

theorem work_of_idle (idle : ∀ call, v.course.calls[n]? = some call → call.standing ≠ .executing)
    (request : (i : ι) → Session.Request (σ i)) : v.work n request = v := by
  unfold Inventory.work
  split
  · next found => exact absurd rfl (idle _ found)
  · rfl

theorem governed_work (governed : v.course.Governed) (n : Nat)
    (request : (i : ι) → Session.Request (σ i)) : (v.work n request).course.Governed := by
  unfold Inventory.work
  split
  · next kind i generator found =>
    have worked := governed.turn
      (v.course.turn_step (.work n fun i s => ((request i).perform s).2))
    dsimp only
    split
    · exact worked.turn (Course.turn_step ..)
    · exact worked
  · exact governed

theorem Kept.work (kept : v.Kept) (n : Nat) (request : (i : ι) → Session.Request (σ i)) :
    (v.work n request).Kept := by
  rcases v.course.executing_or_idle n with ⟨kind, i, generator, found⟩ | idle
  · have governed := governed_work kept.governed n request
    obtain ⟨standing, executed, aborts, worked⟩ := work_eq found request
    let s : Session (σ i) (η i) := ⟨generator, v.registry, v.log⟩
    let t := ((request i).perform s).2
    have turns := turns_of_call found (request i)
    have moved := active_set_call found ⟨kind, i, t.toGenerator, standing⟩
      (v.work n request).course.shared v.course.shared v.guests (v.work n request).books v.books
    rw [worked] at governed ⊢ moved
    refine ⟨?_, governed, ?_, ?_⟩
    · rw [moved]
      exact (kept.turns turns).1
    · intro m call isFound reliable
      rcases Course.getElem?_set_cases isFound with ⟨rfl, rfl⟩ | ⟨differ, isFound⟩
      · have returned : cutShort ((request i).perform s).1 = false := by
          refine Bool.eq_false_iff.mpr fun aborted => ?_
          obtain ⟨fault, failed⟩ := aborts aborted
          exact reliable fault failed
        obtain ⟨balanced, released⟩ := kept.accounts_note found (request i) returned
        refine ⟨?_, ?_⟩
        · simpa only [registry, Function.update_self] using balanced
        · rw [moved]
          simpa only [Function.update_self] using released
      · obtain ⟨balanced, released⟩ := kept.accounts_of_turns turns isFound
          (kept.accounts m call isFound reliable) (by simpa using Ne.symm differ)
        refine ⟨?_, ?_⟩
        · simpa only [registry, Function.update_of_ne differ] using balanced
        · rw [moved]
          simpa only [Function.update_of_ne differ] using released
    · intro m idle
      by_cases same : m = n
      · subst same
        exact absurd executed
          (idle _ (List.getElem?_set_self (List.getElem?_eq_some_iff.mp found).1))
      · dsimp only
        rw [Function.update_of_ne same]
        exact kept.blank m fun call isFound =>
          idle call ((List.getElem?_set_ne (Ne.symm same)).trans isFound)
  · rw [work_of_idle idle]
    exact kept

theorem governed_step (governed : v.course.Governed) (move : Move ι σ η) :
    (v.step move).course.Governed := by
  cases move with
  | request n request => exact governed_work governed n request
  | invite => exact governed
  | visit m request =>
    simp only [Inventory.step]
    split
    · exact governed
    · dsimp only
      exact governed.turn (v.course.turn_step _)
  | ask | succeed | fail | register | freeze | unfreeze | log =>
    simp only [Inventory.step, disturb]
    exact governed.turn (v.course.turn_step _)

theorem Kept.step (kept : v.Kept) (move : Move ι σ η) : (v.step move).Kept := by
  have governed := governed_step kept.governed move
  cases move with
  | ask kind i sink hooks memory archive listener => exact kept.ask kind _ rfl rfl rfl
  | request n request => exact kept.work n request
  | succeed n =>
    rcases v.course.executing_or_idle n with ⟨kind, i, generator, found⟩ | idle
    · obtain ⟨log, left⟩ := Course.step_succeed found
      simp only [Inventory.step, left] at governed ⊢
      exact kept.finish found (by trivial) rfl governed
    · simp only [Inventory.step, Course.step, Course.proceed_of_idle idle]
      exact kept
  | fail n fault =>
    rcases v.course.executing_or_idle n with ⟨kind, i, generator, found⟩ | idle
    · simp only [Inventory.step, Course.step_fail found] at governed ⊢
      exact kept.finish found (by trivial) rfl governed
    · simp only [Inventory.step, Course.step, Course.proceed_of_idle idle]
      exact kept
  | invite i sink hooks memory archive listener listing =>
    exact kept.aside rfl (active_invite v rfl) rfl governed kept.accounts fun _ idle => idle
  | visit m request =>
    cases found : v.guests[m]? with
    | none =>
      simp only [Inventory.step, found]
      exact kept
    | some guest =>
      obtain ⟨i, generator⟩ := guest
      simp only [Inventory.step, found] at governed ⊢
      refine kept.others (turns_of_guest found (request i)) rfl ?_ rfl rfl governed
      exact active_set_guest found ..
  | register group name start stop =>
    refine kept.others (m := v.guests.length)
      (Registry.register_turns v.registry _ group name start stop) rfl ?_ rfl rfl governed
    exact (Function.update_eq_self ..).symm
  | freeze =>
    exact kept.aside (Registry.descriptors_freeze _) rfl rfl governed kept.accounts
      fun _ idle => idle
  | unfreeze =>
    exact kept.aside (Registry.descriptors_unfreeze _) rfl rfl governed kept.accounts
      fun _ idle => idle
  | log log =>
    exact kept.aside rfl rfl rfl governed kept.accounts fun _ idle => idle

theorem Kept.run (kept : v.Kept) (moves : List (Move ι σ η)) : (v.run moves).Kept := by
  induction moves generalizing v with
  | nil => exact kept
  | cons move rest ih => exact ih (kept.step move)

end Inventory

end RuntimeStubs
