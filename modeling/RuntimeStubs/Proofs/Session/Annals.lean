import RuntimeStubs.Proofs.Session.LifeCycle
import RuntimeStubs.Proofs.Session.Requests

/-! The annals of a workshop.

For every operation the annals keep its deed: what it has completed and what it has told. They are
read off the registry and the answers, not off the events. Main statement (`published_once`): the
events of a generator are those of its deeds, in order, and its count is the number of descriptors
that it has published; and every descriptor that is complete has become so in exactly one deed, that
of a direct registration or of one generator. -/

set_option autoImplicit false

namespace RuntimeStubs

def Descriptor.notice (d : Descriptor) : String × Address × Address :=
  (d.name, d.start, d.stopOrStart)

namespace Event

def registered? : Event → Option (String × Address × Address)
  | registered name start stop => some (name, start, stop)
  | _ => none

def posted? : Event → Option (String × Address × Address)
  | posted name start stop => some (name, start, stop)
  | _ => none

def address? : Event → Option Address
  | address a => some a
  | _ => none

end Event

namespace Deed

theorem registered_events (deed : Deed) :
    deed.events.filterMap Event.registered? =
      deed.published.map fun entry => entry.2.notice := by
  have told (d : Descriptor) :
      (deed.told d).filterMap Event.registered? = [d.notice] := by
    rw [Deed.told]
    split <;> rfl
  have addresses : (deed.committed.map Event.address).filterMap Event.registered? = [] := by
    simp [List.filterMap_map, Event.registered?]
  rw [events, List.filterMap_append, List.filterMap_flatMap, addresses, List.append_nil]
  simp only [told]
  exact List.map_eq_flatMap.symm

theorem posted_events (deed : Deed) :
    deed.events.filterMap Event.posted? =
      ((deed.published.map Prod.snd).filter deed.wants).map Descriptor.notice := by
  have addresses : (deed.committed.map Event.address).filterMap Event.posted? = [] := by
    simp [List.filterMap_map, Event.posted?]
  rw [events, List.filterMap_append, List.filterMap_flatMap, addresses, List.append_nil]
  induction deed.published with
  | nil => rfl
  | cons entry rest ih =>
    rw [List.flatMap_cons, ih, List.map_cons, told]
    cases wants : deed.wants entry.2 <;>
      simp [wants, List.filterMap_cons, Event.posted?, Descriptor.notice]

theorem address_events (deed : Deed) :
    deed.events.filterMap Event.address? = deed.committed := by
  have told (d : Descriptor) : (deed.told d).filterMap Event.address? = [] := by
    rw [Deed.told]
    split <;> rfl
  rw [events, List.filterMap_append, List.filterMap_flatMap]
  simp [told, List.filterMap_map, Function.comp_def, Event.address?]

end Deed

namespace Workshop

variable {ι κ : Type} {σ η : ι → Type}

def Operation.request? : Operation ι κ σ η → Option ((i : ι) × Session.Request (σ i))
  | .openStub i group name => some ⟨i, .openStub group name⟩
  | .closeStub i mark => some ⟨i, .closeStub mark⟩
  | .hydrate i stub extra => some ⟨i, .hydrate stub extra⟩
  | .commit i stub start stop extras => some ⟨i, .commit stub start stop extras⟩
  | .generate i stub extra body => some ⟨i, .generate stub extra body⟩
  | .emit i code => some ⟨i, .emit code⟩
  | .create .. | .prepare .. | .enter .. | .leave .. | .register .. | .freeze | .unfreeze => none

def Operation.party? (operation : Operation ι κ σ η) : Option ι := operation.request?.map Sigma.fst

def Operation.created? : Operation ι κ σ η → Option ι
  | .create i .. => some i
  | _ => none

variable [DecidableEq ι] [DecidableEq κ] [∀ i, Sink (σ i)]

/-- The deed of an operation. Where no generator is asked, nothing is told. -/
def deed (w : Workshop ι κ σ η) (operation : Operation ι κ σ η) : Deed :=
  match operation.request? with
  | none => { Deed.idle with completed := w.registry.completedSince (w.step operation).registry }
  | some ⟨i, request⟩ =>
    match w.generators i with
    | none => .idle
    | some generator => request.deed ⟨generator, w.registry, w.log⟩

def annals (w : Workshop ι κ σ η) : List (Operation ι κ σ η) → List (Operation ι κ σ η × Deed)
  | [] => []
  | operation :: rest => (operation, w.deed operation) :: (w.step operation).annals rest

def deedsOf (i : ι) (annals : List (Operation ι κ σ η × Deed)) : List Deed :=
  annals.filterMap fun (operation, deed) => if operation.party? = some i then some deed else none

def completed (annals : List (Operation ι κ σ η × Deed)) : List (Handle × Descriptor) :=
  annals.flatMap fun entry => entry.2.completed

variable {w : Workshop ι κ σ η}

/-! ### One operation -/

theorem step_of_request {operation : Operation ι κ σ η} {i : ι} {request : Session.Request (σ i)}
    (asks : operation.request? = some ⟨i, request⟩) (w : Workshop ι κ σ η) :
    w.step operation = w.serve i fun s => request.perform s := by
  cases operation <;> cases asks <;> rfl

theorem generators_step_of_none {operation : Operation ι κ σ η} {i : ι}
    (asks : operation.request? = none) (sole : operation.created? ≠ some i)
    (w : Workshop ι κ σ η) : (w.step operation).generators i = w.generators i := by
  cases operation with
  | create j =>
    refine Function.update_of_ne ?_ ..
    rintro rfl
    exact sole rfl
  | enter k | leave k =>
    simp only [step, note]
    split <;> rfl
  | prepare | register | freeze | unfreeze => rfl
  | openStub | closeStub | hydrate | commit | generate | emit => cases asks

omit [DecidableEq κ] [∀ i, Sink (σ i)] in
theorem generators_serve_ne {i j : ι} (differ : j ≠ i) {α : Type}
    (action : Action (Session (σ i) (η i)) α) (w : Workshop ι κ σ η) :
    (w.serve i action).generators j = w.generators j := by
  rw [serve]
  split
  · rfl
  · exact Function.update_of_ne differ ..

section

variable {operation : Operation ι κ σ η} {i : ι} {request : Session.Request (σ i)}
  {generator : Generator (σ i) (η i)}

theorem deed_of_request (asks : operation.request? = some ⟨i, request⟩)
    (found : w.generators i = some generator) :
    w.deed operation = request.deed ⟨generator, w.registry, w.log⟩ := by
  simp only [deed, asks, found]

theorem step_of_generator (asks : operation.request? = some ⟨i, request⟩)
    (found : w.generators i = some generator) :
    w.step operation =
      let session := (request.perform ⟨generator, w.registry, w.log⟩).2
      { w with
        generators := Function.update w.generators i (some session.toGenerator)
        registry := session.registry
        log := session.log } := by
  simp only [step_of_request asks, serve, found]

end

theorem deed_completed (w : Workshop ι κ σ η) (operation : Operation ι κ σ η) :
    (w.deed operation).completed =
      w.registry.completedSince (w.step operation).registry := by
  cases asks : operation.request? with
  | none => simp only [deed, asks]
  | some asked =>
    obtain ⟨i, request⟩ := asked
    cases found : w.generators i with
    | none =>
      simp only [deed, asks, found, step_of_request asks, serve]
      exact (Registry.completedSince_of_descriptors rfl).symm
    | some generator =>
      rw [deed_of_request asks found, step_of_generator asks found]
      rfl

omit [DecidableEq ι] [DecidableEq κ] [∀ i, Sink (σ i)] in
theorem Orderly.tidy (orderly : w.Orderly) {i : ι} {generator : Generator (σ i) (η i)}
    (found : w.generators i = some generator) :
    Session.Tidy ⟨generator, w.registry, w.log⟩ := by
  intro handle isActive
  refine Registry.Orderly.isOpen orderly i handle ?_
  rw [active, found]
  exact isActive

/-! ### The deeds of one generator -/

omit [DecidableEq κ] [∀ i, Sink (σ i)] in
theorem deedsOf_cons_self {i : ι} {operation : Operation ι κ σ η}
    (party : operation.party? = some i) (deed : Deed)
    (annals : List (Operation ι κ σ η × Deed)) :
    deedsOf i ((operation, deed) :: annals) = deed :: deedsOf i annals := by
  simp [deedsOf, party]

omit [DecidableEq κ] [∀ i, Sink (σ i)] in
theorem deedsOf_cons_ne {i : ι} {operation : Operation ι κ σ η}
    (party : operation.party? ≠ some i) (deed : Deed)
    (annals : List (Operation ι κ σ η × Deed)) :
    deedsOf i ((operation, deed) :: annals) = deedsOf i annals := by
  simp [deedsOf, party]

-- What other parties do leaves a generator alone, and so does everything that is no request.
theorem generators_step_ne {operation : Operation ι κ σ η} {i : ι}
    (party : operation.party? ≠ some i) (sole : operation.created? ≠ some i)
    (w : Workshop ι κ σ η) : (w.step operation).generators i = w.generators i := by
  cases asks : operation.request? with
  | none => exact generators_step_of_none asks sole w
  | some asked =>
    obtain ⟨j, request⟩ := asked
    rw [step_of_request asks]
    refine generators_serve_ne ?_ _ w
    rintro rfl
    exact party (by rw [Operation.party?, asks, Option.map_some])

theorem generator_run (orderly : w.Orderly) {i : ι} {g : Generator (σ i) (η i)}
    (found : w.generators i = some g) (operations : List (Operation ι κ σ η))
    (sole : ∀ operation ∈ operations, operation.created? ≠ some i) :
    ∃ h, (w.run operations).generators i = some h ∧
      h.events = g.events ++ (deedsOf i (w.annals operations)).flatMap Deed.events ∧
      h.published =
        g.published + ((deedsOf i (w.annals operations)).flatMap Deed.published).length := by
  induction operations generalizing w g with
  | nil => exact ⟨g, found, (List.append_nil _).symm, rfl⟩
  | cons operation rest ih =>
    have next := (orderly.step operation).1
    have soleRest := fun other member => sole other (List.mem_cons_of_mem operation member)
    by_cases party : operation.party? = some i
    · obtain ⟨⟨j, request⟩, asks, same⟩ := Option.map_eq_some_iff.mp party
      obtain rfl : j = i := same
      have asked : (w.step operation).generators j =
          some (request.perform ⟨g, w.registry, w.log⟩).2.toGenerator := by
        rw [step_of_generator asks found]
        exact Function.update_self ..
      have deed := deed_of_request asks found
      obtain ⟨events, published⟩ := request.perform_deed (orderly.tidy found)
      obtain ⟨h, isLast, allEvents, allPublished⟩ := ih next asked soleRest
      refine ⟨h, isLast, ?_, ?_⟩
      · rw [annals, deedsOf_cons_self party, List.flatMap_cons, allEvents, events, deed,
          List.append_assoc]
      · rw [annals, deedsOf_cons_self party, List.flatMap_cons, List.length_append, allPublished,
          published, deed, Nat.add_assoc]
    · have kept := generators_step_ne party (sole operation List.mem_cons_self) w
      rw [annals, deedsOf_cons_ne party]
      exact ih next (kept.trans found) soleRest

/-! ### Everything that becomes complete -/

theorem mem_completed_iff (orderly : w.Orderly) (operations : List (Operation ι κ σ η))
    {handle : Handle} {d : Descriptor} :
    (handle, d) ∈ completed (w.annals operations) ↔
      (handle, d) ∈ w.registry.completedSince (w.run operations).registry := by
  induction operations generalizing w with
  | nil =>
    rw [Workshop.run, List.foldl_nil, Registry.completedSince_of_descriptors rfl]
    exact Iff.rfl
  | cons operation rest ih =>
    obtain ⟨next, keeps⟩ := orderly.step operation
    have keepsRest := (next.run rest).2
    rw [annals, completed, List.flatMap_cons, List.mem_append, deed_completed]
    exact ((or_congr_right (ih next)).trans
      (Registry.mem_completedSince_trans_iff keeps keepsRest).symm)

-- A descriptor that has become complete is complete ever after, so it is not completed again.
theorem nodup_completed (orderly : w.Orderly) (operations : List (Operation ι κ σ η)) :
    ((completed (w.annals operations)).map Prod.fst).Nodup := by
  induction operations generalizing w with
  | nil => exact List.nodup_nil
  | cons operation rest ih =>
    obtain ⟨next, keeps⟩ := orderly.step operation
    rw [annals, completed, List.flatMap_cons, List.map_append, List.nodup_append']
    refine ⟨?_, ih next, ?_⟩
    · rw [deed_completed]
      exact Registry.nodup_completedSince ..
    · intro handle first second
      obtain ⟨⟨_, d⟩, now, rfl⟩ := List.mem_map.mp first
      obtain ⟨⟨_, e⟩, later, same⟩ := List.mem_map.mp second
      obtain rfl := same
      rw [deed_completed] at now
      have now := (Registry.mem_completedSince_iff.mp now).1
      exact (Registry.mem_completedSince_iff.mp ((mem_completed_iff next rest).mp later)).2 d now

omit [DecidableEq κ] [∀ i, Sink (σ i)] in
theorem published_sublist_completed (i : ι) (annals : List (Operation ι κ σ η × Deed)) :
    ((deedsOf i annals).flatMap Deed.published).Sublist (completed annals) := by
  induction annals with
  | nil => exact List.Sublist.refl _
  | cons entry rest ih =>
    obtain ⟨operation, deed⟩ := entry
    rw [completed, List.flatMap_cons]
    by_cases party : operation.party? = some i
    · rw [deedsOf_cons_self party, List.flatMap_cons]
      refine List.Sublist.append ?_ ih
      rw [Deed.published]
      split
      · exact List.nil_sublist _
      · exact List.Sublist.refl _
    · rw [deedsOf_cons_ne party]
      exact ih.trans (List.sublist_append_right ..)

theorem mem_annals {operations : List (Operation ι κ σ η)} {operation : Operation ι κ σ η}
    {deed : Deed} (member : (operation, deed) ∈ w.annals operations) :
    ∃ v : Workshop ι κ σ η, deed = v.deed operation := by
  induction operations generalizing w with
  | nil => cases member
  | cons first rest ih =>
    rcases List.mem_cons.mp member with same | later
    · cases same
      exact ⟨w, rfl⟩
    · exact ih later

-- Neither phases nor the freeze touch a descriptor.
theorem completed_source {operation : Operation ι κ σ η} {handle : Handle} {d : Descriptor}
    (member : (handle, d) ∈ (w.deed operation).completed) (solitary : operation.party? = none) :
    ∃ stop, d.stop = some stop ∧ operation = .register d.group d.name d.start (some stop) := by
  rw [deed_completed] at member
  have untouched (same : (w.step operation).registry.descriptors = w.registry.descriptors) :
      ∃ stop, d.stop = some stop ∧
        operation = .register d.group d.name d.start (some stop) := by
    rw [Registry.completedSince_of_descriptors same] at member
    cases member
  have noted (k : κ) {action : Action BootstrapState Unit}
      (same : ∀ s, (action s).2.registry.descriptors = s.registry.descriptors) :
      (w.note k action).registry.descriptors = w.registry.descriptors := by
    rw [note]
    split
    · rfl
    · exact same _
  cases operation with
  | register group name start stop =>
    rw [step, Registry.call] at member
    cases registered : w.registry.register group name start stop with
    | error fault =>
      rw [registered, Registry.settle, Registry.completedSince_of_descriptors rfl] at member
      cases member
    | ok result =>
      obtain ⟨-, -, -, -, isPushed⟩ := Registry.register_eq_ok_iff.mp registered
      rw [registered, Registry.settle, isPushed] at member
      cases stop with
      | none =>
        rw [Registry.completedSince_push_open rfl] at member
        cases member
      | some stop =>
        rw [Registry.completedSince_push rfl, List.mem_singleton] at member
        cases member
        exact ⟨stop, rfl, rfl⟩
  | create | prepare => exact untouched rfl
  | enter k kind archive =>
    exact untouched (noted k (BootstrapState.descriptors_enter kind archive))
  | leave k kind published =>
    exact untouched (noted k (BootstrapState.descriptors_leave kind published))
  | freeze => exact untouched (Registry.descriptors_freeze w.registry)
  | unfreeze => exact untouched (Registry.descriptors_unfreeze w.registry)
  | openStub | closeStub | hydrate | commit | generate | emit => cases solitary

/-- The listener has been told of what the deeds have published and committed, in their order, and
of nothing else. -/
structure Told {i : ι} (deeds : List Deed) (g : Generator (σ i) (η i)) : Prop where
  events : g.events = deeds.flatMap Deed.events
  count : g.published = (deeds.flatMap Deed.published).length
  registered : g.events.filterMap Event.registered? =
    (deeds.flatMap Deed.published).map fun entry => entry.2.notice
  posted : g.events.filterMap Event.posted? = deeds.flatMap fun deed =>
    ((deed.published.map Prod.snd).filter deed.wants).map Descriptor.notice
  addresses : g.events.filterMap Event.address? = deeds.flatMap Deed.committed

omit [DecidableEq ι] [DecidableEq κ] [∀ i, Sink (σ i)] in
theorem told_of_events {i : ι} {deeds : List Deed} {g : Generator (σ i) (η i)}
    (events : g.events = deeds.flatMap Deed.events)
    (count : g.published = (deeds.flatMap Deed.published).length) : Told deeds g where
  events := events
  count := count
  registered := by
    rw [events, List.filterMap_flatMap, List.map_flatMap]
    simp only [Deed.registered_events]
  posted := by
    rw [events, List.filterMap_flatMap]
    simp only [Deed.posted_events]
  addresses := by
    rw [events, List.filterMap_flatMap]
    simp only [Deed.address_events]

/-- The complete descriptors of a registry have become complete once each. A descriptor is complete
from a direct registration on, or a generator has published it unless it was cut short. -/
structure Chronicle (all : List (Operation ι κ σ η × Deed)) (r : Registry) : Prop where
  nodup : ((completed all).map Prod.fst).Nodup
  complete_iff : ∀ handle d, r.get? handle = some d ∧ d.isComplete = true ↔
    (handle, d) ∈ completed all
  source : ∀ operation deed, (operation, deed) ∈ all → ∀ handle d, (handle, d) ∈ deed.completed →
    (∃ stop, d.stop = some stop ∧ operation = .register d.group d.name d.start (some stop)) ∨
      ∃ j, operation.party? = some j ∧ ((handle, d) ∈ deed.published ∨ deed.aborted = true)

theorem chronicle_annals (log : Log) (operations : List (Operation ι κ σ η)) :
    Chronicle ((start log).annals operations) ((start log).run operations).registry where
  nodup := nodup_completed (orderly_start log) _
  complete_iff handle d := by
    rw [mem_completed_iff (orderly_start log), Registry.mem_completedSince_iff]
    refine (and_iff_left fun e completed => ?_).symm
    exact absurd completed.1 (by simp [start, Registry.empty, Registry.get?])
  source operation deed member handle d completes := by
    obtain ⟨v, rfl⟩ := mem_annals member
    cases party : operation.party? with
    | none => exact .inl (completed_source completes party)
    | some j =>
      refine .inr ⟨j, rfl, ?_⟩
      cases aborted : (v.deed operation).aborted with
      | true => exact .inr rfl
      | false =>
        refine .inl ?_
        rw [Deed.published, aborted]
        exact completes

/-- Whatever becomes complete is published once, by the generator that has completed it. A direct
registration is not published, and neither is what an abort has cut off from its publication. -/
theorem published_once (log : Log) (earlier later : List (Operation ι κ σ η)) (i : ι) (sink : σ i)
    (hooks : Hooks (σ i) (η i)) (memory : η i) (archive : Option Archive) (listener : Listener)
    (listing : Bool) (sole : ∀ operation ∈ later, operation.created? ≠ some i) :
    let w := ((start log).run earlier).step (.create i sink hooks memory archive listener listing)
    let t := w.run later
    let deeds := deedsOf i (w.annals later)
    let published := deeds.flatMap Deed.published
    (∃ g, t.generators i = some g ∧ Told deeds g) ∧
      (published.map Prod.fst).Nodup ∧
      (∀ handle d, (handle, d) ∈ published →
        t.registry.get? handle = some d ∧ d.isComplete = true) ∧
      Chronicle ((start log).annals
        (earlier ++ .create i sink hooks memory archive listener listing :: later)) t.registry := by
  intro w t deeds published
  have orderly : w.Orderly := (((orderly_start log).run earlier).1.step _).1
  have found : w.generators i =
      some (.create sink hooks memory archive listener listing) := Function.update_self ..
  have sublist : published.Sublist (completed (w.annals later)) := published_sublist_completed i _
  have ended : (start log).run
      (earlier ++ .create i sink hooks memory archive listener listing :: later) = t :=
    List.foldl_append ..
  refine ⟨?_, ?_, ?_, ?_⟩
  · obtain ⟨g, isLast, events, count⟩ := generator_run orderly found later sole
    exact ⟨g, isLast, told_of_events events (count.trans (Nat.zero_add _))⟩
  · exact (nodup_completed orderly later).sublist (sublist.map _)
  · intro handle d member
    exact (Registry.mem_completedSince_iff.mp
      ((mem_completed_iff orderly later).mp (sublist.subset member))).1
  · rw [← ended]
    exact chronicle_annals log _

/-- The other generator has a stub open all the time, and somebody registers a region directly. Of
the two stubs that the generator itself attempts, one has the wrong number of entries. -/
def interleaved : List (Operation Bool Unit (fun _ => CodeBuffer) fun _ => Unit) :=
  [.openStub true "Boot" "other", .generate false .fence 0 Stub.fence.emitBody,
    .register "Boot" "direct" ⟨0x10⟩ (some ⟨0x20⟩), .closeStub false ⟨⟨0⟩, "other"⟩,
    .generate false .getPreviousSp 1 Stub.getPreviousSp.emitBody,
    .emit true (Stub.fence.emitBody >>= fun _ => pure ()), .closeStub true ⟨⟨0⟩, "other"⟩]

def meeting : Workshop Bool Unit (fun _ => CodeBuffer) fun _ => Unit :=
  ((start (.create (.upTo 0))).run
    [.create true (.create ⟨0x1000⟩ 64) .standard () none .silent false]).step
    (.create false (.create ⟨0x2000⟩ 64) .standard () none (.watching fun _ => true) false)

theorem published_once_interleaved :
    ∃ g, (meeting.run interleaved).generators false = some g ∧ g.published = 1 ∧
      g.events = [.registered "fence" ⟨0x2000⟩ ⟨0x2004⟩, .posted "fence" ⟨0x2000⟩ ⟨0x2004⟩,
        .address ⟨0x2000⟩] ∧
      (meeting.run interleaved).registry.get? ⟨1⟩ =
        some ⟨"StubRoutines", "fence", ⟨0x2000⟩, some ⟨0x2004⟩, 0, false⟩ := by
  have once := published_once (.create (.upTo 0))
    [.create true (.create ⟨0x1000⟩ 64) .standard () none .silent false] interleaved false
    (.create ⟨0x2000⟩ 64) .standard () none (.watching fun _ => true) false (by decide)
  obtain ⟨⟨g, isLast, told⟩, -, holds, -⟩ := once
  refine ⟨g, isLast, ?_, ?_, ?_⟩
  · rw [told.count]
    decide +kernel
  · rw [told.events]
    decide +kernel
  · refine (holds ⟨1⟩ _ ?_).1
    decide +kernel

end Workshop

end RuntimeStubs
