import RuntimeStubs.Proofs.Session.Annals
import RuntimeStubs.Proofs.Session.Operations

/-! Where the code of a descriptor comes from.

Nobody registers a descriptor without a name, and only routines come from an archive: a session
marks a descriptor as hydrated right after it has registered it in the group of the routines, and
neither the mark nor the group changes later. So every registry of a workshop is attested
(`Workshop.attested_run`). -/

set_option autoImplicit false

namespace RuntimeStubs

namespace Registry

def Named (r : Registry) : Prop := ∀ d ∈ r.descriptors, d.name ≠ ""

/-- Only descriptors in the group of the routines are marked as hydrated. -/
def Credited (r : Registry) : Prop :=
  ∀ d ∈ r.descriptors, d.hydrated = true → d.group = Session.routinesGroup

structure Attested (r : Registry) : Prop where
  named : r.Named
  credited : r.Credited

variable {r s : Registry} {d : Descriptor} {handle : Handle}

theorem Attested.of_descriptors (attested : r.Attested) (same : s.descriptors = r.descriptors) :
    s.Attested :=
  ⟨fun d member => attested.named d (same ▸ member),
    fun d member => attested.credited d (same ▸ member)⟩

theorem forall_push {P : Descriptor → Prop} (all : ∀ e ∈ r.descriptors, P e) (new : P d) :
    ∀ e ∈ (r.push d).descriptors, P e :=
  List.forall_mem_append.mpr ⟨all, List.forall_mem_singleton.mpr new⟩

theorem forall_put {P : Descriptor → Prop} (all : ∀ e ∈ r.descriptors, P e) (new : P d) :
    ∀ e ∈ (r.put handle d).descriptors, P e := by
  intro e member
  rcases List.mem_or_eq_of_mem_set member with older | rfl
  · exact all e older
  · exact new

/-! ### Names -/

theorem Named.settle {α : Type} {attempt : Except Fault (α × Registry)} (named : r.Named)
    (kept : ∀ value changed, attempt = .ok (value, changed) → changed.Named) :
    (r.settle attempt).Named := by
  cases attempt with
  | error fault => exact named
  | ok result => exact kept result.1 result.2 rfl

theorem Named.update {change : Descriptor → Except Fault Descriptor} (named : r.Named)
    (renames : ∀ old new, change old = .ok new → new.name = old.name)
    (updated : r.update handle change = .ok (d, s)) : s.Named := by
  obtain ⟨old, found, changed, rfl⟩ := update_eq_ok_iff.mp updated
  have isNamed : old.name ≠ "" := named old (List.mem_of_getElem? found)
  exact forall_put named (renames old d changed ▸ isNamed)

theorem Named.call (named : r.Named) (call : RegistryCall) : (r.call call).Named := by
  cases call with
  | register group name start stop =>
    refine named.settle fun handle changed registered => ?_
    obtain ⟨isNamed, -, -, -, rfl⟩ := register_eq_ok_iff.mp registered
    exact forall_push named isNamed
  | setStart handle start =>
    refine named.settle fun d changed => named.update fun old new moved => ?_
    obtain ⟨-, -, rfl⟩ := Descriptor.setStart_eq_ok_iff.mp moved
    rfl
  | finish handle stop displacement =>
    refine named.settle fun d changed finished => ?_
    obtain ⟨opened, found, -, rfl, rfl⟩ := finish_eq_ok_iff.mp finished
    exact forall_put named (named opened (List.mem_of_getElem? found))
  | markHydrated handle displacement =>
    refine named.settle fun d changed => named.update fun old new marked => ?_
    cases marked
    rfl

theorem Named.evolves (named : r.Named) (evolves : r.Evolves s) : s.Named := by
  obtain ⟨calls, rfl⟩ := evolves
  induction calls generalizing r with
  | nil => exact named
  | cons call rest ih => exact ih (named.call call)

/-! ### Marks -/

theorem Credited.register (credited : r.Credited) (group name : String) (start : Address)
    (stop : Option Address) : (r.call (.register group name start stop)).Credited := by
  rw [call]
  cases registered : r.register group name start stop with
  | error fault => exact credited
  | ok result =>
    obtain ⟨-, -, -, -, isPushed⟩ := register_eq_ok_iff.mp registered
    rw [settle, isPushed]
    exact forall_push credited fun marked => absurd marked Bool.false_ne_true

end Registry

namespace Session

open Registry (forall_push forall_put)

variable {σ η : Type} [Sink σ] {s t u : Session σ η}

def Credits (s t : Session σ η) : Prop := s.registry.Credited → t.registry.Credited

omit [Sink σ] in
theorem Credits.trans (first : s.Credits t) (second : t.Credits u) : s.Credits u := second ∘ first

omit [Sink σ] in
theorem Quiet.credits (quiet : s.Quiet t) : s.Credits t := by
  obtain ⟨_, _, _, rfl⟩ := quiet
  exact id

theorem openStub_credits (group name : String) :
    (openStub group name : Action (Session σ η) Mark).Respects Credits := by
  refine Action.Ends.respects (openStub_ends group name) fun s result t opening => ?_
  cases opening with
  | refused _ quiet => exact quiet.credits
  | abandoned _ start quiet => exact fun credited => quiet.credits (forall_push credited nofun)
  | opened start _ quiet => exact fun credited => quiet.credits (forall_push credited nofun)

theorem Completes.credits {handle : Handle} {d : Descriptor} {sink : σ}
    (completes : s.Completes handle d sink) : s.Credits (s.completed handle d) := by
  obtain ⟨opened, -, known, -, -, rfl⟩ := completes
  exact fun credited => forall_put credited (credited opened (List.mem_of_getElem? known))

theorem closeStub_credits (mark : Mark) :
    (closeStub mark : Action (Session σ η) Descriptor).Respects Credits := by
  refine Action.Ends.respects (closeStub_ends mark) fun s result t closing => ?_
  cases closing with
  | refused _ quiet => exact quiet.credits
  | aborted _ d completes quiet => exact completes.credits.trans quiet.credits
  | closed d completes quiet isAnnounced =>
    rw [isAnnounced]
    exact completes.credits.trans quiet.credits

theorem hydrate?_credits (stub : Stub) (extra : Nat) :
    (hydrate? stub extra : Action (Session σ η) (Option StubEntries)).Respects Credits := by
  refine Action.Ends.respects (hydrate?_ends stub extra) fun s result t hydration => ?_
  cases hydration with
  | missed _ quiet => exact quiet.credits
  | refused _ archive _ quiet => exact quiet.credits
  | adopted archive archived _ _ quiet isAnnounced =>
    rw [isAnnounced]
    exact fun credited => quiet.credits (forall_push credited fun _ => rfl)

omit [Sink σ] in
theorem commit_credits (stub : Stub) (start stop : Address) (extras : List Address) :
    (commit stub start stop extras : Action (Session σ η) Unit).Respects Credits := by
  refine Action.Ends.respects (commit_ends stub start stop extras) fun s result t committing => ?_
  cases committing <;> exact id

theorem generate_credits (stub : Stub) (extra : Nat) (emit : Action σ (List Address)) :
    (generate stub extra emit : Action (Session σ η) StubEntries).Respects Credits := by
  have pure {α : Type} (value : α) : (pure value : Action (Session σ η) α).Respects Credits :=
    fun _ => id
  rw [generate]
  refine (hydrate?_credits stub extra).bind Credits.trans fun hydrated? => ?_
  cases hydrated? with
  | some entries => exact pure entries
  | none =>
    refine (openStub_credits routinesGroup stub.name).bind Credits.trans fun mark => ?_
    refine Action.Respects.bind Credits.trans (fun _ => id) fun entries => ?_
    split
    · exact fun _ => id
    · refine (closeStub_credits mark).bind Credits.trans fun d => ?_
      exact (commit_credits stub d.start d.stopOrStart entries).bind Credits.trans fun _ => pure _

theorem Request.perform_attested (request : Request σ) (attested : s.registry.Attested) :
    (request.perform s).2.registry.Attested := by
  cases request with
  | openStub group name =>
    exact ⟨attested.named.evolves (admits_evolves.openStub group name s),
      openStub_credits group name s attested.credited⟩
  | closeStub mark =>
    exact ⟨attested.named.evolves (admits_evolves.closeStub mark s),
      closeStub_credits mark s attested.credited⟩
  | hydrate stub extra =>
    exact ⟨attested.named.evolves (admits_evolves.hydrate? stub extra s),
      hydrate?_credits stub extra s attested.credited⟩
  | commit stub start stop extras =>
    exact ⟨attested.named.evolves (admits_evolves.commit stub start stop extras s),
      commit_credits stub start stop extras s attested.credited⟩
  | generate stub extra body =>
    have emits : (onSink body : Action (Session σ η) (List Address)).Respects
        fun s t => s.registry.Evolves t.registry := fun s => .refl s.registry
    exact ⟨attested.named.evolves (admits_evolves.generate stub extra emits s),
      generate_credits stub extra body s attested.credited⟩
  | emit code => exact attested

end Session

namespace Workshop

variable {ι κ : Type} {σ η : ι → Type} [DecidableEq ι] [DecidableEq κ] [∀ i, Sink (σ i)]
  {w : Workshop ι κ σ η}

omit [DecidableEq ι] [∀ i, Sink (σ i)] in
theorem descriptors_note {k : κ} {action : Action BootstrapState Unit}
    (same : ∀ s, (action s).2.registry.descriptors = s.registry.descriptors) :
    (w.note k action).registry.descriptors = w.registry.descriptors := by
  rw [note]
  split
  · rfl
  · exact same _

theorem attested_step (attested : w.registry.Attested) (operation : Operation ι κ σ η) :
    (w.step operation).registry.Attested := by
  cases asks : operation.request? with
  | some asked =>
    obtain ⟨i, request⟩ := asked
    cases found : w.generators i with
    | none =>
      simp only [step_of_request asks, serve, found]
      exact attested
    | some generator =>
      rw [step_of_generator asks found]
      exact request.perform_attested attested
  | none =>
    cases operation with
    | create | prepare => exact attested
    | enter k kind archive =>
      exact attested.of_descriptors
        (descriptors_note (BootstrapState.descriptors_enter kind archive))
    | leave k kind published =>
      exact attested.of_descriptors
        (descriptors_note (BootstrapState.descriptors_leave kind published))
    | register group name start stop =>
      exact ⟨attested.named.call _, attested.credited.register group name start stop⟩
    | freeze => exact attested.of_descriptors (Registry.descriptors_freeze w.registry)
    | unfreeze => exact attested.of_descriptors (Registry.descriptors_unfreeze w.registry)
    | openStub | closeStub | hydrate | commit | generate | emit => cases asks

theorem attested_run (log : Log) (operations : List (Operation ι κ σ η)) :
    ((start log).run operations).registry.Attested := by
  suffices ∀ w : Workshop ι κ σ η, w.registry.Attested → (w.run operations).registry.Attested from
    this _ ⟨nofun, nofun⟩
  induction operations with
  | nil => exact fun w attested => attested
  | cons operation rest ih => exact fun w attested => ih _ (attested_step attested operation)

end Workshop

end RuntimeStubs
