import RuntimeStubs.Proofs.Session.Lookup
import RuntimeStubs.Proofs.Session.Marks

/-! Generators that have stopped in the middle of a stub.

A generation that fails between the opening and the closing of its stub keeps the mark of the stub
to itself, and nobody else has one with the same handle. So the stub stays open for ever. Main
statement (`Workshop.standstill`): what the generator still does is to take stubs from its archive
and to commit addresses; it opens and closes nothing, and its sink stays as it is. -/

set_option autoImplicit false

namespace RuntimeStubs

namespace Session

variable {σ η : Type} [Sink σ] {s t u : Session σ η} {stub : Stub} {extra : Nat}
  {emit : Action σ (List Address)} {mark : Mark} {fault : Fault} {handle : Handle}

/-! ### Interrupted generations -/

/-- A generation has found nothing in the archive and has opened its stub. -/
def Begins (stub : Stub) (extra : Nat) (s : Session σ η) (mark : Mark) (t : Session σ η) : Prop :=
  ∃ looked, hydrate? stub extra s = (.ok none, looked) ∧
    openStub routinesGroup stub.name looked = (.ok mark, t)

/-- A generation has opened its stub and has failed before the stub was closed: the code of the stub
could not be emitted, or it has the wrong number of entries, or the stub could not be closed. -/
inductive Interrupted (stub : Stub) (extra : Nat) (emit : Action σ (List Address))
    (s : Session σ η) (mark : Mark) : Fault → Session σ η → Prop
  | emitting {u t : Session σ η} (fault : Fault) : s.Begins stub extra mark u →
    onSink emit u = (.error fault, t) → Interrupted stub extra emit s mark fault t
  | counting {u t : Session σ η} (entries : List Address) : s.Begins stub extra mark u →
    onSink emit u = (.ok entries, t) → entries.length ≠ extra →
    Interrupted stub extra emit s mark (.entryCountMismatch stub extra entries.length) t
  | closing {u v t : Session σ η} (entries : List Address) (fault : Fault) :
    s.Begins stub extra mark u → onSink emit u = (.ok entries, v) → entries.length = extra →
    closeStub mark v = (.error fault, t) → (∀ cause, fault ≠ .abort cause) →
    Interrupted stub extra emit s mark fault t

def fill (stub : Stub) (extra : Nat) (emit : Action σ (List Address)) (mark : Mark) :
    Action (Session σ η) StubEntries := do
  let entries ← onSink emit
  if entries.length ≠ extra then
    Action.fail (.entryCountMismatch stub extra entries.length)
  else do
    let d ← closeStub mark
    commit stub d.start d.stopOrStart entries
    return ⟨stub, d.start, d.stopOrStart, entries, false⟩

theorem generateFresh_eq (stub : Stub) (extra : Nat) (emit : Action σ (List Address)) :
    (generateFresh stub extra emit : Action (Session σ η) StubEntries) =
      openStub routinesGroup stub.name >>= fill stub extra emit := rfl

theorem Begins.generate_eq (begins : s.Begins stub extra mark t)
    (emit : Action σ (List Address)) :
    generate stub extra emit s = fill stub extra emit mark t := by
  obtain ⟨looked, misses, opens⟩ := begins
  rw [Session.generate_eq, Action.bind_of_ok misses]
  exact Action.bind_of_ok opens

theorem Begins.opened (begins : s.Begins stub extra mark t) :
    mark.handle = ⟨s.registry.size⟩ ∧ ∃ archive start, Quiet { s with
      archive := archive
      registry := s.registry.push (.create routinesGroup stub.name start none)
      active := some mark.handle } t := by
  obtain ⟨looked, misses, opens⟩ := begins
  cases (hydrate?_ends ..).of_eq misses with
  | missed _ quiet =>
    obtain ⟨_, _, _, rfl⟩ := quiet
    cases (openStub_ends ..).of_eq opens with
    | opened start inactive quiet =>
      obtain ⟨sink, memory, log, rfl⟩ := quiet
      exact ⟨rfl, _, start, sink, memory, log, rfl⟩

theorem Interrupted.generate_eq (interrupted : s.Interrupted stub extra emit mark fault t) :
    generate stub extra emit s = (.error fault, t) := by
  cases interrupted with
  | emitting _ begins emits =>
    rw [begins.generate_eq, fill]
    exact Action.bind_of_error emits
  | counting entries begins emits count =>
    rw [begins.generate_eq, fill, Action.bind_of_ok emits, if_pos count]
    rfl
  | closing entries _ begins emits count closes =>
    rw [begins.generate_eq, fill, Action.bind_of_ok emits, if_neg (not_not.mpr count)]
    exact Action.bind_of_error closes

-- Neither the code of the stub nor an attempt to close it that fails touches the registry.
theorem Interrupted.opened (interrupted : s.Interrupted stub extra emit mark fault t) :
    mark.handle = ⟨s.registry.size⟩ ∧ t.active = some mark.handle ∧ ∃ start,
      t.registry = s.registry.push (.create routinesGroup stub.name start none) := by
  suffices quiet : ∃ u, s.Begins stub extra mark u ∧ u.Quiet t by
    obtain ⟨u, begins, quiet⟩ := quiet
    obtain ⟨handle, archive, start, opened⟩ := begins.opened
    obtain ⟨_, _, _, rfl⟩ := opened.trans quiet
    exact ⟨handle, rfl, start, rfl⟩
  cases interrupted with
  | emitting _ begins emits => exact ⟨_, begins, quiet_of_onSink emits⟩
  | counting entries begins emits => exact ⟨_, begins, quiet_of_onSink emits⟩
  | closing entries _ begins emits _ closes returned =>
    refine ⟨_, begins, (quiet_of_onSink emits).trans ?_⟩
    cases (closeStub_ends ..).of_eq closes with
    | refused _ quiet => exact quiet
    | aborted cause => exact absurd rfl (returned cause)

/-! ### Sessions with a stub that nobody can close -/

/-- Nothing has happened on the way from one session to another but that stubs have been taken from
the archive or addresses have been committed to it. -/
structure Idles (s t : Session σ η) : Prop where
  sink : t.sink = s.sink
  active : t.active = s.active
  hydrated : ∀ entry ∈ s.registry.completedSince t.registry, entry.2.hydrated = true

theorem openStub_of_active {d : Descriptor} (active : s.active = some handle)
    (found : s.registry.get? handle = some d) (group name : String) :
    openStub group name s = (.error (.nestedStub d.name name), s) := by
  rw [openStub, Action.get_bind]
  simp only [active, found, Option.map_some, Option.getD_some]
  rfl

def Resting (s t : Session σ η) : Prop := t.sink = s.sink

omit [Sink σ] in
theorem Resting.trans (first : s.Resting t) (second : t.Resting u) : s.Resting u :=
  Eq.trans second first

omit [Sink σ] in
theorem Silent.resting (silent : s.Silent t) : s.Resting t := by
  obtain ⟨_, _, _, _, rfl⟩ := silent
  rfl

omit [Sink σ] in
theorem onRegistry_resting {α : Type} (change : Registry → Except Fault (α × Registry)) :
    (onRegistry change : Action (Session σ η) α).Respects Resting := by
  intro s
  rw [onRegistry_snd]
  rfl

omit [Sink σ] in
theorem lookUp_resting (stub : Stub) :
    (lookUp stub : Action (Session σ η) (Option ArchivedStub)).Respects Resting := by
  intro s
  rw [lookUp]
  repeat' split
  all_goals rfl

theorem adopt_resting (name : String) (start stop : Address) :
    (adopt name start stop : Action (Session σ η) Descriptor).Respects Resting := by
  rw [adopt]
  refine (onRegistry_resting _).bind Resting.trans fun handle => ?_
  refine Action.Respects.bind Resting.trans (fun s => ?_) fun offset => ?_
  · obtain ⟨t, displaced, silent⟩ := displacement_eq start s
    rw [displaced]
    exact silent.resting
  refine (onRegistry_resting _).bind Resting.trans fun d => ?_
  refine Action.Respects.bind Resting.trans
    (fun s => (silent_describe d none s).resting) fun _ => ?_
  refine Action.Respects.bind Resting.trans (fun s => ?_) fun _ s => rfl
  obtain ⟨t, published, silent⟩ := publish_eq d s
  rw [published]
  exact silent.resting

theorem hydrate?_resting (stub : Stub) (extra : Nat) :
    (hydrate? stub extra : Action (Session σ η) (Option StubEntries)).Respects Resting := by
  rw [hydrate?]
  refine (lookUp_resting stub).bind Resting.trans fun archived? => ?_
  cases archived? with
  | none => exact fun s => rfl
  | some archived =>
    dsimp only
    split
    · exact fun s => rfl
    · exact Action.Respects.bind Resting.trans (adopt_resting _ _ _) fun d s => rfl

theorem hydrate?_idles (stub : Stub) (extra : Nat) :
    (hydrate? stub extra : Action (Session σ η) (Option StubEntries)).Respects Idles := by
  intro s
  have resting := hydrate?_resting stub extra s
  rcases ran : hydrate? stub extra s with ⟨result, t⟩
  rw [ran] at resting
  cases (hydrate?_ends ..).of_eq ran with
  | missed _ quiet | refused _ _ _ quiet =>
    obtain ⟨_, _, _, rfl⟩ := quiet
    exact ⟨resting, rfl, by simp [Registry.completedSince_of_descriptors]⟩
  | adopted archive archived _ _ quiet isAnnounced =>
    obtain ⟨_, _, _, rfl⟩ := quiet
    rw [isAnnounced] at resting ⊢
    refine ⟨resting, rfl, fun entry new => ?_⟩
    rw [announced, Registry.completedSince_push rfl, List.mem_singleton] at new
    rw [new]
    rfl

omit [Sink σ] in
theorem commit_idles (stub : Stub) (start stop : Address) (extras : List Address) :
    (commit stub start stop extras : Action (Session σ η) _).Respects Idles := by
  refine Action.Ends.respects (commit_ends stub start stop extras) fun s result t committing => ?_
  have nothing (entry : Handle × Descriptor) (new : entry ∈ s.registry.completedSince s.registry) :
      entry.2.hydrated = true := by
    rw [Registry.completedSince_of_descriptors rfl] at new
    cases new
  cases committing <;> exact ⟨rfl, rfl, nothing⟩

/-- Takes a stub from the archive; if it is not there, the open stub `blocker` stands in the way. -/
def hydrateOnly (blocker : String) (stub : Stub) (extra : Nat) :
    Action (Session σ η) StubEntries := do
  match ← hydrate? stub extra with
  | some entries => return entries
  | none => Action.fail (.nestedStub blocker stub.name)

-- Looking for the stub in the archive does not touch the descriptor of the open stub.
theorem generate_of_active {d : Descriptor} (active : s.active = some handle)
    (found : s.registry.get? handle = some d) (stub : Stub) (extra : Nat)
    (emit : Action σ (List Address)) :
    generate stub extra emit s = hydrateOnly d.name stub extra s := by
  rw [generate, hydrateOnly]
  rcases ran : hydrate? stub extra s with ⟨fault | entries?, t⟩
  · rw [Action.bind_of_error ran, Action.bind_of_error ran]
  · rw [Action.bind_of_ok ran, Action.bind_of_ok ran]
    cases (hydrate?_ends ..).of_eq ran with
    | adopted => rfl
    | missed _ quiet =>
      have still : t.active = some handle ∧ t.registry.get? handle = some d := by
        obtain ⟨_, _, _, rfl⟩ := quiet
        exact ⟨active, found⟩
      exact Action.bind_of_error (openStub_of_active still.1 still.2 routinesGroup stub.name)

theorem hydrateOnly_snd (blocker : String) (stub : Stub) (extra : Nat) (s : Session σ η) :
    (hydrateOnly blocker stub extra s).2 = (hydrate? stub extra s).2 := by
  rw [hydrateOnly]
  rcases ran : hydrate? stub extra s with ⟨fault | _ | entries, t⟩
  · rw [Action.bind_of_error ran]
  · rw [Action.bind_of_ok ran]
    rfl
  · rw [Action.bind_of_ok ran]
    rfl

theorem hydrated_of_hydrateOnly {blocker : String} {e : StubEntries}
    (ran : hydrateOnly blocker stub extra s = (.ok e, t)) : e.hydrated = true := by
  obtain ⟨entries?, looked, hydrates, returns⟩ := Action.bind_eq_ok_iff.mp ran
  cases (hydrate?_ends ..).of_eq hydrates with
  | missed => cases returns
  | adopted =>
    cases returns
    rfl

omit [Sink σ] in
theorem Idles.refl (s : Session σ η) : s.Idles s where
  sink := rfl
  active := rfl
  hydrated entry new := by
    rw [Registry.completedSince_of_descriptors rfl] at new
    cases new

/-- A session with an open stub idles, whatever it is asked but to emit code, as long as nobody
comes with a mark for the stub. -/
theorem Request.idles {d : Descriptor} (active : s.active = some handle)
    (found : s.registry.get? handle = some d) {request : Request σ}
    (foreign : ∀ mark, request = .closeStub mark → mark.handle ≠ handle)
    (silent : ∀ code, request ≠ .emit code) : s.Idles (request.perform s).2 := by
  cases request with
  | openStub group name =>
    rw [perform, openStub_of_active active found]
    exact .refl s
  | closeStub mark =>
    have inactive : s.active ≠ some mark.handle := by
      rw [active]
      exact fun same => foreign mark rfl (Option.some.inj same).symm
    rw [perform, closeStub_of_inactive inactive]
    exact .refl s
  | hydrate stub extra => exact hydrate?_idles stub extra s
  | commit stub start stop extras => exact commit_idles stub start stop extras s
  | generate stub extra emit =>
    rw [perform, generate_of_active active found, hydrateOnly_snd]
    exact hydrate?_idles stub extra s
  | emit code => exact absurd rfl (silent code)

/-- A session whose open stub `name` is in the way of every other one. Nobody has a mark to close it
with. -/
structure Stopped (name : String) (obtainable : Mark → Prop) (s : Session σ η) : Prop where
  openStub : ∀ group other,
    Session.openStub group other s = (.error (.nestedStub name other), s)
  closeStub : ∀ mark, obtainable mark →
    Session.closeStub mark s = (.error (.markMismatch mark.name), s)
  generate : ∀ stub extra emit,
    Session.generate stub extra emit s = hydrateOnly name stub extra s
  hydrated : ∀ stub extra emit e, (Session.generate stub extra emit s).1 = .ok e →
    e.hydrated = true
  idles : ∀ request : Request σ, (∀ code, request ≠ .emit code) →
    (∀ mark, request = .closeStub mark → obtainable mark) → s.Idles (request.perform s).2

theorem stopped_of_active {d : Descriptor} {obtainable : Mark → Prop}
    (active : s.active = some handle) (found : s.registry.get? handle = some d)
    (foreign : ∀ mark, obtainable mark → mark.handle ≠ handle) :
    s.Stopped d.name obtainable where
  openStub := openStub_of_active active found
  closeStub mark obtained := closeStub_of_inactive fun same =>
    foreign mark obtained (Option.some.inj (same.symm.trans active))
  generate := generate_of_active active found
  hydrated stub extra emit e generated := by
    rw [generate_of_active active found] at generated
    exact hydrated_of_hydrateOnly (Prod.ext generated rfl)
  idles request silent obtained := Request.idles active found
    (fun mark closes => foreign mark (obtained mark closes)) silent

-- Code that is emitted past the stub reaches the sink only.
theorem Request.open_of_foreign {d : Descriptor} (active : s.active = some handle)
    (found : s.registry.get? handle = some d) {request : Request σ}
    (foreign : ∀ mark, request = .closeStub mark → mark.handle ≠ handle) :
    (request.perform s).2.active = some handle ∧
      ∀ entry ∈ (request.deed s).completed, entry.2.hydrated = true := by
  by_cases emits : ∃ code, request = .emit code
  · obtain ⟨code, rfl⟩ := emits
    exact ⟨active, (Idles.refl s).hydrated⟩
  · have idles := Request.idles active found foreign (not_exists.mp emits)
    exact ⟨idles.active.trans active, idles.hydrated⟩

end Session

/-! ### Generators that stand still -/

namespace Workshop

variable {ι κ : Type} {σ η : ι → Type} [DecidableEq ι] [DecidableEq κ] [∀ i, Sink (σ i)]
  {w : Workshop ι κ σ η} {i j : ι} {handle : Handle} {mark : Mark}

theorem Orderly.open_of_foreign (orderly : w.Orderly) {operation : Operation ι κ σ η}
    (isOpen : w.active i = some handle) (sole : operation.created? ≠ some i)
    (foreign : ∀ mark, operation = .closeStub i mark → mark.handle ≠ handle) :
    (w.step operation).active i = some handle ∧ (operation.party? = some i →
      ∀ entry ∈ (w.deed operation).completed, entry.2.hydrated = true) := by
  by_cases party : operation.party? = some i
  · obtain ⟨⟨j, request⟩, asks, same⟩ := Option.map_eq_some_iff.mp party
    obtain rfl : j = i := same
    obtain ⟨g, found, active⟩ := Option.bind_eq_some_iff.mp isOpen
    obtain ⟨d, known, -⟩ := Registry.Orderly.isOpen orderly j handle isOpen
    have foreign (mark : Mark) (closes : request = .closeStub mark) : mark.handle ≠ handle := by
      subst closes
      refine foreign mark ?_
      cases operation <;> cases asks
      rfl
    obtain ⟨stillOpen, hydrated⟩ := Session.Request.open_of_foreign
      (s := ⟨g, w.registry, w.log⟩) active known foreign
    rw [step_of_generator asks found, active_update, Function.update_self,
      deed_of_request asks found]
    exact ⟨stillOpen, fun _ => hydrated⟩
  · rw [active, generators_step_ne party sole]
    exact ⟨isOpen, fun isParty => absurd isParty party⟩

theorem Orderly.open_of_run (orderly : w.Orderly) {operations : List (Operation ι κ σ η)}
    (isOpen : w.active i = some handle)
    (sole : ∀ operation ∈ operations, operation.created? ≠ some i)
    (foreign : ∀ mark, .closeStub i mark ∈ operations → mark.handle ≠ handle) :
    (w.run operations).active i = some handle ∧ ∀ deed ∈ deedsOf i (w.annals operations),
      ∀ entry ∈ deed.published, entry.2.hydrated = true := by
  induction operations generalizing w with
  | nil => exact ⟨isOpen, by simp [annals, deedsOf]⟩
  | cons operation rest ih =>
    obtain ⟨stillOpen, hydrated⟩ := orderly.open_of_foreign isOpen
      (sole operation List.mem_cons_self)
      fun mark closes => foreign mark (closes ▸ List.mem_cons_self)
    obtain ⟨last, later⟩ := ih (orderly.step operation).1 stillOpen
      (fun other member => sole other (List.mem_cons_of_mem _ member))
      fun mark member => foreign mark (List.mem_cons_of_mem _ member)
    refine ⟨last, fun deed member => ?_⟩
    by_cases party : operation.party? = some i
    · rw [annals, deedsOf_cons_self party] at member
      rcases List.mem_cons.mp member with rfl | member
      · intro entry published
        rw [Deed.published] at published
        split at published
        · cases published
        · exact hydrated party entry published
      · exact later deed member
    · rw [annals, deedsOf_cons_ne party] at member
      exact later deed member

section

variable {g : Generator (σ i) (η i)} {stub : Stub} {extra : Nat}
  {emit : Action (σ i) (List Address)} {fault : Fault} {t : Session (σ i) (η i)}

theorem step_of_interrupted (found : w.generators i = some g)
    (interrupted : Session.Interrupted stub extra emit ⟨g, w.registry, w.log⟩ mark fault t) :
    w.step (.generate i stub extra emit) = { w with
      generators := Function.update w.generators i (some t.toGenerator)
      registry := t.registry
      log := t.log } := by
  have asks : (Operation.generate i stub extra emit : Operation ι κ σ η).request? =
    some ⟨i, .generate stub extra emit⟩ := rfl
  rw [step_of_generator asks found, Session.Request.perform, interrupted.generate_eq]

omit [DecidableEq ι] [DecidableEq κ] in
theorem fault?_generate (found : w.generators i = some g) :
    w.fault? (.generate i stub extra emit) =
      faultOf (Session.generate stub extra emit ⟨g, w.registry, w.log⟩).1 := by
  simp only [fault?, Operation.request?, found, Option.bind_some, Session.Request.perform]
  cases (Session.generate stub extra emit ⟨g, w.registry, w.log⟩).1 <;> rfl

-- The mark of the generation is handed out to nobody. Marks handed out before it have lower
-- handles, and marks handed out after it have higher ones.
theorem Orderly.foreign_of_interrupted (orderly : w.Orderly)
    {earlier later : List (Operation ι κ σ η)} (found : (w.run earlier).generators i = some g)
    (interrupted : Session.Interrupted stub extra emit
      ⟨g, (w.run earlier).registry, (w.run earlier).log⟩ mark fault t) {other : Mark}
    (obtained : (j, other) ∈ w.issued (earlier ++ .generate i stub extra emit :: later)) :
    other.handle ≠ mark.handle := by
  have before := (orderly.run earlier).1
  obtain ⟨handle, -, start, pushed⟩ := interrupted.opened
  rw [issued_append, List.mem_append] at obtained
  intro same
  rcases obtained with older | newer
  · have lower := (orderly.index_of_issued older).2
    rw [same, handle] at lower
    exact Nat.lt_irrefl _ lower
  · have higher := ((before.step _).1.index_of_issued newer).1
    rw [step_of_interrupted found interrupted, pushed, same, handle, Registry.size_push] at higher
    exact Nat.not_succ_le_self _ higher

end

/-- The stub was begun but has no end, so that it answers no look-up. -/
structure Unfinished (r : Registry) (handle : Handle) (name : String) : Prop where
  known : ∃ d, r.get? handle = some d ∧ d.name = name ∧ d.isComplete = false
  unanswered : ∀ pc d, ¬ r.Answers pc handle d

theorem unfinished_of_stop {r : Registry} {d : Descriptor} (known : r.get? handle = some d)
    (noEnd : d.stop = none) : Unfinished r handle d.name where
  known := ⟨d, known, rfl, by rw [Descriptor.isComplete, noEnd]; rfl⟩
  unanswered pc e answers := by
    cases known.symm.trans answers.found
    have isComplete := Registry.isComplete_of_contains answers.contains
    rw [Descriptor.isComplete, noEnd] at isComplete
    cases isComplete

/-- A generator has had these deeds since, in which it has published nothing but stubs from its
archive. -/
structure Hydrating (deeds : List Deed) (g h : Generator (σ i) (η i)) : Prop where
  events : h.events = g.events ++ deeds.flatMap Deed.events
  published : h.published = g.published + (deeds.flatMap Deed.published).length
  hydrated : ∀ deed ∈ deeds, ∀ entry ∈ deed.published, entry.2.hydrated = true

/-- What becomes of a generator that has been interrupted. Its stub stays open and never answers a
look-up; whatever is asked of it, it opens no stub, closes none and emits no code for one; and it
publishes nothing but stubs from its archive. -/
theorem standstill (log : Log) (earlier later : List (Operation ι κ σ η)) (i : ι)
    (g : Generator (σ i) (η i)) (stub : Stub) (extra : Nat) (emit : Action (σ i) (List Address))
    (mark : Mark) (fault : Fault) (t : Session (σ i) (η i))
    (found : ((start log).run earlier).generators i = some g)
    (interrupted : Session.Interrupted stub extra emit
      ⟨g, ((start log).run earlier).registry, ((start log).run earlier).log⟩ mark fault t)
    (sole : ∀ operation ∈ later, operation.created? ≠ some i)
    (obtained : ∀ other, .closeStub i other ∈ later → ∃ j,
      (j, other) ∈ (start log).issued (earlier ++ .generate i stub extra emit :: later)) :
    let w := (start log).run earlier
    let failed := w.step (.generate i stub extra emit)
    let v := failed.run later
    w.fault? (.generate i stub extra emit) = some fault ∧
      Unfinished v.registry mark.handle stub.name ∧
      ∃ h, v.generators i = some h ∧
        Hydrating (deedsOf i (failed.annals later)) t.toGenerator h ∧
        Session.Stopped stub.name (fun other => ∃ j, (j, other) ∈
          (start log).issued (earlier ++ .generate i stub extra emit :: later))
          ⟨h, v.registry, v.log⟩ := by
  intro w failed v
  have fresh : (start log : Workshop ι κ σ η).Orderly := orderly_start log
  have foreign (other : Mark) : (∃ j, (j, other) ∈
      (start log).issued (earlier ++ .generate i stub extra emit :: later)) →
      other.handle ≠ mark.handle := by
    rintro ⟨j, issued⟩
    exact fresh.foreign_of_interrupted found interrupted issued
  have orderly : failed.Orderly := ((fresh.run earlier).1.step _).1
  have stepped : failed = _ := step_of_interrupted found interrupted
  obtain ⟨handle, isActive, start, pushed⟩ := interrupted.opened
  have present : failed.generators i = some t.toGenerator := by
    rw [stepped]
    exact Function.update_self ..
  have isOpen : failed.active i = some mark.handle := by
    rw [active, present]
    exact isActive
  have begun : failed.registry.get? mark.handle =
      some (.create Session.routinesGroup stub.name start none) := by
    rw [stepped, pushed, handle]
    exact Registry.get?_push_size ..
  obtain ⟨stillOpen, hydrated⟩ := orderly.open_of_run isOpen sole fun other closes =>
    foreign other (obtained other closes)
  obtain ⟨after, keeps⟩ := orderly.run later
  obtain ⟨d, known, grows⟩ := keeps mark.handle _ begun
  have named : d.name = stub.name := grows.name
  obtain ⟨_, sameKnown, noEnd⟩ := Registry.Orderly.isOpen after i mark.handle stillOpen
  cases known.symm.trans sameKnown
  obtain ⟨h, last, events, count⟩ := generator_run orderly present later sole
  have active : h.active = some mark.handle := by
    rwa [Workshop.active, last] at stillOpen
  refine ⟨?_, named ▸ unfinished_of_stop known noEnd, h, last, ⟨events, count, hydrated⟩, ?_⟩
  · rw [fault?_generate found, interrupted.generate_eq]
    rfl
  · rw [← named]
    exact Session.stopped_of_active (s := ⟨h, v.registry, v.log⟩) active known foreign

def busy : List (Operation Bool Unit (fun _ => CodeBuffer) fun _ => Unit) :=
  [.create true (.create ⟨0x1000⟩ 64) .standard () (some (.create .initial)) .silent false,
    .create false (.create ⟨0x2000⟩ 64) .standard () none .silent false,
    .openStub false "Boot" "other"]

/-- The first generator is tried to be freed with the mark of the second, and takes a stub from its
archive. -/
def attempts : List (Operation Bool Unit (fun _ => CodeBuffer) fun _ => Unit) :=
  [.closeStub true ⟨⟨0⟩, "other"⟩, .openStub true "Boot" "another", .closeStub false ⟨⟨0⟩, "other"⟩,
    .commit true .getPreviousSp ⟨0x4000⟩ ⟨0x4010⟩ [],
    .generate true .getPreviousSp 0 Stub.getPreviousSp.emitBody]

theorem standstill_attempts :
    let v := (((start (.create (.upTo 0))).run busy).step
      (.generate true .fence 1 Stub.fence.emitBody)).run attempts
    (∃ d, v.registry.get? ⟨1⟩ = some d ∧ d.name = "fence" ∧ d.isComplete = false) ∧
      ∃ h, v.generators true = some h ∧ h.published = 1 ∧
        Session.openStub "Boot" "more" ⟨h, v.registry, v.log⟩ =
          (.error (.nestedStub "fence" "more"), ⟨h, v.registry, v.log⟩) := by
  intro v
  let w := (start (.create (.upTo 0))).run busy
  obtain ⟨g, found⟩ : ∃ g, w.generators true = some g := ⟨_, rfl⟩
  obtain ⟨t, interrupted⟩ : ∃ t, Session.Interrupted .fence 1 Stub.fence.emitBody
      ⟨g, w.registry, w.log⟩ ⟨⟨1⟩, "fence"⟩ (.entryCountMismatch .fence 1 0) t := by
    cases found
    exact ⟨_, .counting [] ⟨_, Prod.ext rfl rfl, Prod.ext rfl rfl⟩ (Prod.ext rfl rfl) (by decide)⟩
  have issued : (false, ⟨⟨0⟩, "other"⟩) ∈ (start (.create (.upTo 0))).issued
      (busy ++ .generate true .fence 1 Stub.fence.emitBody :: attempts) := by decide +kernel
  have obtained (other : Mark) (closes : .closeStub true other ∈ attempts) : ∃ j, (j, other) ∈
      (start (.create (.upTo 0))).issued
        (busy ++ .generate true .fence 1 Stub.fence.emitBody :: attempts) := by
    have same : other = ⟨⟨0⟩, "other"⟩ := by simpa [attempts] using closes
    exact ⟨false, same ▸ issued⟩
  obtain ⟨-, unfinished, h, last, -, stopped⟩ := standstill (.create (.upTo 0)) busy attempts true g
    .fence 1 Stub.fence.emitBody _ _ t found interrupted (by decide) obtained
  refine ⟨unfinished.known, h, last, ?_, stopped.openStub "Boot" "more"⟩
  have count : (v.generators true).map Generator.published = some 1 := by decide +kernel
  simpa [show v.generators true = some h from last] using count

end Workshop

end RuntimeStubs
