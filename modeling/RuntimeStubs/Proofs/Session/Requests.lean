import RuntimeStubs.Proofs.Registry.Lookup
import RuntimeStubs.Proofs.Session.Publication

/-! What a request to a session publishes.

Everything that can be asked of a session is a `Request`. Its `Deed` says what came of it: which
descriptors have become complete, whether the request was cut short by an abort, whether the
listener asked for code, and which entry addresses were committed. Main statements: the events of a
session grow by those of the deed and its count by the number of descriptors published
(`Request.perform_deed`), and a request that fails completes nothing unless its failure is belated
(`Request.deed_of_failed`). -/

set_option autoImplicit false

namespace RuntimeStubs

def Fault.isAbort : Fault → Bool
  | abort _ => true
  | _ => false

def cutShort {α : Type} : Except Fault α → Bool
  | .error fault => fault.isAbort
  | .ok _ => false

-- A store that is refused is an error and no abort.
theorem Archive.isAbort_store {a : Archive} {stub : Stub} {start stop : Address}
    {extras : List Address} {fault : Fault}
    (refused : a.store stub start stop extras = .error fault) : fault.isAbort = false := by
  by_cases phase : stub.phase = a.kind
  · simp only [store, slotIndex_of_phase phase] at refused
    repeat' split at refused
    all_goals cases refused
    all_goals rfl
  · simp only [store, slotIndex_of_other_phase phase] at refused
    cases refused
    rfl

structure Deed where
  completed : List (Handle × Descriptor)
  aborted : Bool
  /-- Whether the listener asks for the code of a descriptor that it has just been told of. -/
  wants : Descriptor → Bool
  committed : List Address

namespace Deed

def idle : Deed := ⟨[], false, fun _ => false, []⟩

/-- An abort leaves a complete descriptor unpublished. -/
def published (deed : Deed) : List (Handle × Descriptor) :=
  if deed.aborted then [] else deed.completed

def told (deed : Deed) (d : Descriptor) : List Event :=
  .registered d.name d.start d.stopOrStart ::
    if deed.wants d then [.posted d.name d.start d.stopOrStart] else []

def events (deed : Deed) : List Event :=
  deed.published.flatMap (fun entry => deed.told entry.2) ++ deed.committed.map .address

end Deed

namespace Session

inductive Request (σ : Type) where
  | openStub (group name : String)
  | closeStub (mark : Mark)
  | hydrate (stub : Stub) (extra : Nat)
  | commit (stub : Stub) (start stop : Address) (extras : List Address)
  | generate (stub : Stub) (extra : Nat) (emit : Action σ (List Address))
  | emit (code : Action σ Unit)

inductive Reply where
  | opened (mark : Mark)
  | closed (d : Descriptor)
  | hydrated (entries? : Option StubEntries)
  | committed
  | generated (entries : StubEntries)
  | emitted
  deriving DecidableEq, Repr

variable {σ η : Type} [Sink σ]

def Request.perform (s : Session σ η) : Request σ → Except Fault Reply × Session σ η
  | .openStub group name => ((Session.openStub group name s).1.map .opened,
      (Session.openStub group name s).2)
  | .closeStub mark => ((Session.closeStub mark s).1.map .closed, (Session.closeStub mark s).2)
  | .hydrate stub extra => ((hydrate? stub extra s).1.map .hydrated, (hydrate? stub extra s).2)
  | .commit stub start stop extras => ((Session.commit stub start stop extras s).1.map
      fun _ => .committed, (Session.commit stub start stop extras s).2)
  | .generate stub extra body => ((Session.generate stub extra body s).1.map .generated,
      (Session.generate stub extra body s).2)
  | .emit code => ((onSink code s).1.map fun _ => .emitted, (onSink code s).2)

def Request.committed (request : Request σ) : Except Fault Reply → List Address
  | .error _ => []
  | .ok reply =>
    match request, reply with
    | .commit _ start _ extras, _ => start :: extras
    | .generate _ _ _, .generated e => if e.hydrated then [] else e.start :: e.entries
    | _, _ => []

def Request.deed (s : Session σ η) (request : Request σ) : Deed where
  completed := s.registry.completedSince (request.perform s).2.registry
  aborted := cutShort (request.perform s).1
  wants d := s.listener.wantsCode (request.perform s).2.log
    (s.events ++ [.registered d.name d.start d.stopOrStart])
  committed := request.committed (request.perform s).1

/-! ### The effect of an operation -/

/-- What an operation does to the events and the count, next to what it completes. -/
inductive Effect (s : Session σ η) : Bool → Session σ η → Prop
  | silent (aborted : Bool) {t : Session σ η} : s.registry.completedSince t.registry = [] →
    t.events = s.events → t.published = s.published → Effect s aborted t
  | unpublished (entry : Handle × Descriptor) {t : Session σ η} :
    s.registry.completedSince t.registry = [entry] → t.events = s.events →
    t.published = s.published → Effect s true t
  | published (handle : Handle) (d : Descriptor) {t : Session σ η} :
    s.registry.completedSince t.registry = [(handle, d)] →
    t.events = s.events ++ s.announcement d t.log → t.published = s.published + 1 →
    Effect s false t

/-- The open stub is not complete. -/
def Tidy (s : Session σ η) : Prop :=
  ∀ handle, s.active = some handle → ∃ d, s.registry.get? handle = some d ∧ d.stop = none

variable {s t u : Session σ η} {fault : Fault} {aborted : Bool}

omit [Sink σ] in
theorem effect_of_quiet {archive : Option Archive} {registry : Registry} {active : Option Handle}
    (none : s.registry.completedSince registry = [])
    (quiet : Quiet { s with archive := archive, registry := registry, active := active } t)
    (aborted : Bool) : s.Effect aborted t := by
  obtain ⟨_, _, _, rfl⟩ := quiet
  exact .silent aborted none rfl rfl

omit [Sink σ] in
theorem Quiet.effect (quiet : s.Quiet t) (aborted : Bool) : s.Effect aborted t :=
  effect_of_quiet (Registry.completedSince_of_descriptors rfl) quiet aborted

omit [Sink σ] in
theorem Effect.of_same (effect : u.Effect aborted t) (registry : u.registry = s.registry)
    (listener : u.listener = s.listener) (events : u.events = s.events)
    (published : u.published = s.published) : s.Effect aborted t := by
  have announcement (d : Descriptor) (log : Log) : u.announcement d log = s.announcement d log := by
    rw [Session.announcement, listener, events, Session.announcement]
  cases effect with
  | silent _ none sent count =>
    exact .silent _ (registry ▸ none) (sent.trans events) (count.trans published)
  | unpublished entry one sent count =>
    exact .unpublished entry (registry ▸ one) (sent.trans events) (count.trans published)
  | published handle d one sent count =>
    refine .published handle d (registry ▸ one) ?_ (published ▸ count)
    rw [sent, announcement, events]

theorem openStub_effect {group name : String} {result : Except Fault Mark}
    (ran : openStub group name s = (result, t)) (aborted : Bool) : s.Effect aborted t := by
  cases (openStub_ends group name s).of_eq ran with
  | refused _ quiet => exact quiet.effect aborted
  | abandoned _ start quiet =>
    exact effect_of_quiet (Registry.completedSince_push_open rfl) quiet aborted
  | opened start _ quiet =>
    exact effect_of_quiet (Registry.completedSince_push_open rfl) quiet aborted

theorem Completes.completedSince {handle : Handle} {d : Descriptor} {sink : σ} (tidy : s.Tidy)
    (completes : s.Completes handle d sink) :
    s.registry.completedSince (s.registry.put handle d) = [(handle, d)] := by
  obtain ⟨opened, isActive, known, -, -, rfl⟩ := completes
  obtain ⟨_, found, isOpen⟩ := tidy handle isActive
  cases known.symm.trans found
  exact Registry.completedSince_put known isOpen rfl

theorem closeStub_effect {mark : Mark} {result : Except Fault Descriptor} (tidy : s.Tidy)
    (ran : closeStub mark s = (result, t)) : s.Effect (cutShort result) t := by
  cases (closeStub_ends mark s).of_eq ran with
  | refused _ quiet => exact quiet.effect _
  | aborted cause d completes quiet =>
    obtain ⟨_, _, _, rfl⟩ := quiet
    exact .unpublished _ (completes.completedSince tidy) rfl rfl
  | closed d completes quiet isAnnounced =>
    obtain ⟨_, _, _, rfl⟩ := quiet
    rw [isAnnounced]
    exact .published _ d (completes.completedSince tidy) rfl rfl

theorem hydrate?_effect {stub : Stub} {extra : Nat} {result : Except Fault (Option StubEntries)}
    (ran : hydrate? stub extra s = (result, t)) : s.Effect (cutShort result) t := by
  cases (hydrate?_ends stub extra s).of_eq ran with
  | missed _ quiet => exact effect_of_quiet (Registry.completedSince_of_descriptors rfl) quiet _
  | refused _ _ _ quiet => exact effect_of_quiet (Registry.completedSince_of_descriptors rfl) quiet _
  | adopted archive archived _ _ quiet isAnnounced =>
    obtain ⟨_, _, _, rfl⟩ := quiet
    rw [isAnnounced]
    exact .published _ _ (Registry.completedSince_push rfl) rfl rfl

/-! ### Commits and generations -/

structure Tells (s : Session σ η) (addresses : List Address) (t : Session σ η) : Prop where
  registry : t.registry = s.registry
  published : t.published = s.published
  filter : t.log.filter = s.log.filter
  events : t.events = s.events ++ addresses.map .address

omit [Sink σ] in
theorem Tells.refl (s : Session σ η) : s.Tells [] s := ⟨rfl, rfl, rfl, (List.append_nil _).symm⟩

omit [Sink σ] in
theorem filter_archiveStub (stub : Stub) (start stop : Address) (extras : List Address)
    (s : Session σ η) : (archiveStub stub start stop extras s).2.log.filter = s.log.filter := by
  rw [archiveStub]
  split
  · rfl
  · split
    · rfl
    · exact Log.filter_report ..

omit [Sink σ] in
theorem filter_commit (stub : Stub) (start stop : Address) (extras : List Address)
    (s : Session σ η) : (commit stub start stop extras s).2.log.filter = s.log.filter := by
  have stores := filter_archiveStub stub start stop extras s
  rcases ran : archiveStub stub start stop extras s with ⟨fault | _, u⟩
  · rw [commit, Action.bind_of_error ran]
    rwa [ran] at stores
  · rw [commit, Action.bind_of_ok ran, Action.modify_apply, filter_tellAll]
    rwa [ran] at stores

omit [Sink σ] in
theorem commit_tells {stub : Stub} {start stop : Address} {extras : List Address}
    {result : Except Fault Unit} (ran : commit stub start stop extras s = (result, t)) :
    cutShort result = false ∧ s.Tells (if result.isOk then start :: extras else []) t := by
  have filter := filter_commit stub start stop extras s
  rw [ran] at filter
  cases (commit_ends stub start stop extras s).of_eq ran with
  | refused fault a attached refused => exact ⟨Archive.isAbort_store refused, .refl s⟩
  | unattached => exact ⟨rfl, rfl, rfl, filter, rfl⟩
  | stored => exact ⟨rfl, rfl, rfl, filter, rfl⟩

def fresh : Except Fault StubEntries → List Address
  | .error _ => []
  | .ok e => if e.hydrated then [] else e.start :: e.entries

-- Closing the stub that has just been opened completes the descriptor registered last, whatever was
-- emitted in between.
theorem generateFresh_effect (stub : Stub) (extra : Nat) (emit : Action σ (List Address))
    (s : Session σ η) : (generateFresh stub extra emit).Ends s fun result t =>
      ∃ u, s.Effect (cutShort result) u ∧ u.Tells (fresh result) t := by
  have untold (fault : Fault) {t : Session σ η} (effect : s.Effect fault.isAbort t) :
      ∃ u, s.Effect fault.isAbort u ∧ u.Tells [] t := ⟨t, effect, .refl t⟩
  rw [generateFresh]
  refine Action.ends_bind (fun fault t ran => untold fault (openStub_effect ran _)) ?_
  intro mark opened ran
  cases (openStub_ends ..).of_eq ran with
  | opened start inactive quiet =>
    have concealed : s.registry.completedSince
        (s.registry.push (.create routinesGroup stub.name start none)) = [] :=
      Registry.completedSince_push_open rfl
    refine Action.ends_bind (fun fault t ran =>
      untold fault (effect_of_quiet concealed (quiet.trans (quiet_of_onSink ran)) _)) ?_
    intro entries t ran
    have emitted := quiet.trans (quiet_of_onSink ran)
    split
    · exact untold (.entryCountMismatch stub extra entries.length)
        (effect_of_quiet concealed emitted _)
    refine Action.ends_bind (fun fault u ran => ?_) ?_
    · cases (closeStub_ends ..).of_eq ran with
      | refused _ quiet => exact untold fault (effect_of_quiet concealed (emitted.trans quiet) _)
      | aborted cause d completes quietly =>
        obtain ⟨⟨stop, displacement, rfl⟩, completed⟩ := completes.of_opened emitted
        obtain ⟨_, _, _, rfl⟩ := completed.trans quietly
        exact untold (.abort cause) (.unpublished _ (Registry.completedSince_push rfl) rfl rfl)
    intro d u ran
    cases (closeStub_ends ..).of_eq ran with
    | closed _ completes quietly isAnnounced =>
      obtain ⟨⟨stop, displacement, rfl⟩, completed⟩ := completes.of_opened emitted
      obtain ⟨_, _, _, rfl⟩ := completed.trans quietly
      have effect : s.Effect false u := by
        rw [isAnnounced]
        exact .published _ _ (Registry.completedSince_push rfl) rfl rfl
      refine Action.ends_bind (fun fault v ran => ?_) ?_
      · obtain ⟨short, tells⟩ := commit_tells ran
        exact ⟨u, short ▸ effect, tells⟩
      intro _ v ran
      exact ⟨u, effect, (commit_tells ran).2⟩

theorem generate_effect (stub : Stub) (extra : Nat) (emit : Action σ (List Address))
    (s : Session σ η) : (generate stub extra emit).Ends s fun result t =>
      ∃ u, s.Effect (cutShort result) u ∧ u.Tells (fresh result) t := by
  rw [generate_eq]
  refine Action.ends_bind (fun fault t ran => ⟨t, hydrate?_effect ran, .refl t⟩) ?_
  intro hydrated? t ran
  cases (hydrate?_ends ..).of_eq ran with
  | adopted => exact ⟨t, hydrate?_effect ran, .refl t⟩
  | missed _ quiet =>
    obtain ⟨_, _, _, rfl⟩ := quiet
    obtain ⟨u, effect, tells⟩ := generateFresh_effect stub extra emit _
    exact ⟨u, effect.of_same rfl rfl rfl rfl, tells⟩

/-! ### Requests -/

theorem Request.perform_effect (tidy : s.Tidy) (request : Request σ) :
    ∃ u, s.Effect (cutShort (request.perform s).1) u ∧
      u.Tells (request.committed (request.perform s).1) (request.perform s).2 := by
  have untold {α : Type} {answer : α → Reply} {result : Except Fault α} {t : Session σ η}
      (none : ∀ value, request.committed (.ok (answer value)) = [])
      (effect : s.Effect (cutShort result) t) :
      ∃ u, s.Effect (cutShort (result.map answer)) u ∧
        u.Tells (request.committed (result.map answer)) t := by
    cases result with
    | error fault => exact ⟨t, effect, .refl t⟩
    | ok value => exact ⟨t, effect, (none value).symm ▸ .refl t⟩
  cases request with
  | openStub group name => exact untold (fun _ => rfl) (openStub_effect rfl _)
  | closeStub mark => exact untold (fun _ => rfl) (closeStub_effect tidy rfl)
  | hydrate stub extra => exact untold (fun _ => rfl) (hydrate?_effect rfl)
  | emit code => exact untold (fun _ => rfl) ((quiet_of_onSink rfl).effect _)
  | commit stub start stop extras =>
    rcases ran : Session.commit stub start stop extras s with ⟨result, t⟩
    have tells := (commit_tells ran).2
    rw [perform, ran]
    refine ⟨s, Quiet.effect (.refl s) _, ?_⟩
    cases result <;> exact tells
  | generate stub extra body =>
    obtain ⟨u, effect, tells⟩ := generate_effect stub extra body s
    rw [perform]
    cases ended : (Session.generate stub extra body s).1 <;> rw [ended] at effect tells <;>
      exact ⟨u, effect, tells⟩

theorem Request.perform_deed (tidy : s.Tidy) (request : Request σ) :
    (request.perform s).2.events = s.events ++ (request.deed s).events ∧
      (request.perform s).2.published = s.published + (request.deed s).published.length := by
  obtain ⟨u, effect, tells⟩ := request.perform_effect tidy
  have aborts : (request.deed s).aborted = cutShort (request.perform s).1 := rfl
  have completes : (request.deed s).completed = s.registry.completedSince u.registry :=
    congrArg s.registry.completedSince tells.registry
  have commits : (request.deed s).committed = request.committed (request.perform s).1 := rfl
  rw [tells.events, tells.published, Deed.events, Deed.published, commits, completes, aborts,
    ← List.append_assoc]
  generalize cutShort (request.perform s).1 = aborted at effect
  cases effect with
  | silent _ none events published => simp [none, events, published]
  | unpublished entry one events published => simp [events, published]
  | published handle d one events published =>
    have told : (request.deed s).told d = s.announcement d u.log :=
      announcement_congr tells.filter d s
    simp [one, events, published, told]

-- What is completed without an abort is published, so where the count stands still nothing has been
-- completed.
theorem Request.completed_of_published (tidy : s.Tidy) {request : Request σ}
    (returned : (request.deed s).aborted = false)
    (same : (request.perform s).2.published = s.published) : (request.deed s).completed = [] := by
  have counted := (request.perform_deed tidy).2
  rw [same, Deed.published, returned] at counted
  exact List.eq_nil_of_length_eq_zero (Nat.left_eq_add.mp counted)

theorem Request.deed_of_failed (tidy : s.Tidy) {request : Request σ}
    (returned : ∀ cause, fault ≠ .abort cause) (failed : (request.perform s).1 = .error fault) :
    (request.deed s).completed = [] ∨ ∃ stub extra emit role d entries,
      request = .generate stub extra emit ∧ fault = .nullAddress stub role ∧
        s.Belated stub extra emit role d entries (request.perform s).2 := by
  have unpublished (same : (request.perform s).2.published = s.published) :
      (request.deed s).completed = [] := by
    refine request.completed_of_published tidy ?_ same
    rw [deed, failed]
    cases fault with
    | abort cause => exact absurd rfl (returned cause)
    | _ => rfl
  have quietly {registry : Registry} {archive : Option Archive} {active : Option Handle}
      {t : Session σ η}
      (quiet : Quiet { s with archive := archive, registry := registry, active := active } t) :
      t.published = s.published := by
    obtain ⟨_, _, _, rfl⟩ := quiet
    rfl
  cases request with
  | openStub group name =>
    rcases ran : Session.openStub group name s with ⟨_ | mark, t⟩ <;>
      rw [perform, ran] at failed unpublished
    · cases (openStub_ends ..).of_eq ran with
      | refused _ quiet => exact .inl (unpublished (quietly quiet))
      | abandoned _ start quiet => exact .inl (unpublished (quietly quiet))
    · cases failed
  | closeStub mark =>
    rcases ran : Session.closeStub mark s with ⟨_ | d, t⟩ <;>
      rw [perform, ran] at failed unpublished
    · cases (closeStub_ends ..).of_eq ran with
      | refused _ quiet => exact .inl (unpublished (quietly quiet))
      | aborted cause d completes quiet => exact .inl (unpublished (quietly quiet))
    · cases failed
  | hydrate stub extra =>
    rcases ran : hydrate? stub extra s with ⟨_ | entries, t⟩ <;>
      rw [perform, ran] at failed unpublished
    · cases (hydrate?_ends ..).of_eq ran with
      | refused _ _ _ quiet => exact .inl (unpublished (quietly quiet))
    · cases failed
  | commit stub start stop extras =>
    rcases ran : Session.commit stub start stop extras s with ⟨_ | _, t⟩ <;>
      rw [perform, ran] at failed unpublished
    · exact .inl (unpublished (commit_tells ran).2.published)
    · cases failed
  | emit code => exact .inl (unpublished rfl)
  | generate stub extra body =>
    rcases ran : Session.generate stub extra body s with ⟨cause | entries, t⟩ <;>
      rw [perform, ran] at failed unpublished ⊢
    · cases failed
      obtain ⟨-, -, nothing | ⟨role, d, entries, isNull, belated⟩⟩ := generate_failed returned ran
      · exact .inl (unpublished nothing.published)
      · exact .inr ⟨stub, extra, body, role, d, entries, rfl, isNull, belated⟩
    · cases failed

end Session

end RuntimeStubs
