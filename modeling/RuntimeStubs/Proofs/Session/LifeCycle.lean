import RuntimeStubs.Code.StubBody
import RuntimeStubs.Proofs.Bootstrap.Timeline
import RuntimeStubs.Proofs.Session.Endings

/-! Generators that share a registry.

A workshop is a registry with any number of generators and bootstraps over it. Its operations are
those of the sessions of its generators, the begin and the end of phases, and what anybody may do to
the registry directly; they come in any order, and failing is one of the things they do. Main
statement: the handle of a stub leads to the descriptor of this stub for ever, and a descriptor that
is complete never changes again (`descriptors_kept`). -/

set_option autoImplicit false

namespace RuntimeStubs

namespace Session

variable {σ η : Type} [Sink σ]

/-- What a session has done to the registry is a series of turns. -/
def Turns (s t : Session σ η) : Prop :=
  Relation.ReflTransGen Registry.Turn (s.registry, s.active) (t.registry, t.active)

variable {s t u : Session σ η}

omit [Sink σ] in
theorem Turns.trans (first : s.Turns t) (second : t.Turns u) : s.Turns u :=
  Relation.ReflTransGen.trans first second

omit [Sink σ] in
theorem Quiet.turns (quiet : s.Quiet t) : s.Turns t := by
  obtain ⟨_, _, _, rfl⟩ := quiet
  exact .refl

theorem openStub_turns (group name : String) :
    (openStub group name : Action (Session σ η) Mark).Respects Turns := by
  refine Action.Ends.respects (openStub_ends group name) fun s result t opening => ?_
  cases opening with
  | refused _ quiet => exact quiet.turns
  | abandoned _ start quiet => exact .head (.abandon _ _ _ rfl) quiet.turns
  | opened start inactive quiet =>
    refine .head ?_ quiet.turns
    rw [inactive]
    exact .start _ _ rfl

theorem Completes.turns {handle : Handle} {d : Descriptor} {sink : σ}
    (completes : s.Completes handle d sink) : s.Turns (s.completed handle d) := by
  obtain ⟨opened, isActive, known, -, ordered, rfl⟩ := completes
  refine .single ?_
  rw [isActive]
  exact .finish s.registry handle opened _ _ known ordered

theorem closeStub_turns (mark : Mark) :
    (closeStub mark : Action (Session σ η) Descriptor).Respects Turns := by
  refine Action.Ends.respects (closeStub_ends mark) fun s result t closing => ?_
  cases closing with
  | refused _ quiet => exact quiet.turns
  | aborted _ d completes quiet => exact completes.turns.trans quiet.turns
  | closed d completes quiet isAnnounced =>
    rw [isAnnounced]
    exact completes.turns.trans quiet.turns

theorem hydrate?_turns (stub : Stub) (extra : Nat) :
    (hydrate? stub extra : Action (Session σ η) (Option StubEntries)).Respects Turns := by
  refine Action.Ends.respects (hydrate?_ends stub extra) fun s result t hydration => ?_
  cases hydration with
  | missed _ quiet => exact quiet.turns
  | refused _ archive _ quiet => exact quiet.turns
  | adopted archive archived _ ordered quiet isAnnounced =>
    rw [isAnnounced]
    refine .head (.adopt _ _ _ ?_) quiet.turns
    exact Descriptor.ordered_of_not_lt rfl ordered

omit [Sink σ] in
theorem commit_turns (stub : Stub) (start stop : Address) (extras : List Address) :
    (commit stub start stop extras : Action (Session σ η) Unit).Respects Turns := by
  refine Action.Ends.respects (commit_ends stub start stop extras) fun s result t committing => ?_
  cases committing <;> exact .refl

theorem generate_turns (stub : Stub) (extra : Nat) (emit : Action σ (List Address)) :
    (generate stub extra emit : Action (Session σ η) StubEntries).Respects Turns := by
  have pure {α : Type} (value : α) : (pure value : Action (Session σ η) α).Respects Turns :=
    fun _ => .refl
  rw [generate]
  refine (hydrate?_turns stub extra).bind Turns.trans fun hydrated? => ?_
  cases hydrated? with
  | some entries => exact pure entries
  | none =>
    refine (openStub_turns routinesGroup stub.name).bind Turns.trans fun mark => ?_
    refine Action.Respects.bind Turns.trans (fun _ => .refl) fun entries => ?_
    split
    · exact fun _ => .refl
    · refine (closeStub_turns mark).bind Turns.trans fun d => ?_
      exact (commit_turns stub d.start d.stopOrStart entries).bind Turns.trans fun _ => pure _

end Session

namespace BootstrapState

theorem descriptors_enter (kind : Phase) (archive : Option Phase) (s : BootstrapState) :
    (enter kind archive s).2.registry.descriptors = s.registry.descriptors := by
  cases checked : s.bootstrap.check kind archive with
  | error fault => rw [enter_of_check_error checked]
  | ok =>
    obtain ⟨log, entered⟩ := enter_of_check_ok checked
    rw [entered]

theorem descriptors_leave (kind : Phase) (published : Nat) (s : BootstrapState) :
    (leave kind published s).2.registry.descriptors = s.registry.descriptors := by
  obtain ⟨log, left⟩ := leave_eq kind published s
  rw [left]

end BootstrapState

/-! ### Workshops -/

structure Workshop (ι κ : Type) (σ η : ι → Type) where
  generators : (i : ι) → Option (Generator (σ i) (η i))
  bootstraps : κ → Option Bootstrap
  registry : Registry
  log : Log

namespace Workshop

variable {ι κ : Type} {σ η : ι → Type}

/-- What may be done in a workshop. A generator may be asked for the parts of a generation one by
one, so that others come in between, and may be replaced by a new one in the middle of a stub. -/
inductive Operation (ι κ : Type) (σ η : ι → Type) where
  | create (i : ι) (sink : σ i) (hooks : Hooks (σ i) (η i)) (memory : η i)
    (archive : Option Archive) (listener : Listener) (listing : Bool)
  | openStub (i : ι) (group name : String)
  | closeStub (i : ι) (mark : Mark)
  | hydrate (i : ι) (stub : Stub) (extra : Nat)
  | commit (i : ι) (stub : Stub) (start stop : Address) (extras : List Address)
  | generate (i : ι) (stub : Stub) (extra : Nat) (emit : Action (σ i) (List Address))
  | emit (i : ι) (code : Action (σ i) Unit)
  | prepare (k : κ) (delayed listing : Bool)
  | enter (k : κ) (kind : Phase) (archive : Option Phase)
  | leave (k : κ) (kind : Phase) (published : Nat)
  | register (group name : String) (start : Address) (stop : Option Address)
  | freeze
  | unfreeze

def start (log : Log) : Workshop ι κ σ η := ⟨fun _ => none, fun _ => none, .empty, log⟩

def active (w : Workshop ι κ σ η) (i : ι) : Option Handle := (w.generators i).bind Generator.active

def Orderly (w : Workshop ι κ σ η) : Prop := w.registry.Orderly w.active

theorem orderly_start (log : Log) : (start log : Workshop ι κ σ η).Orderly :=
  Registry.orderly_empty

variable [DecidableEq ι] [DecidableEq κ] [∀ i, Sink (σ i)]

def serve {α : Type} (i : ι) (action : Action (Session (σ i) (η i)) α) (w : Workshop ι κ σ η) :
    Workshop ι κ σ η :=
  match w.generators i with
  | none => w
  | some generator =>
    let session := (action ⟨generator, w.registry, w.log⟩).2
    { w with
      generators := Function.update w.generators i (some session.toGenerator)
      registry := session.registry
      log := session.log }

def note (k : κ) (action : Action BootstrapState Unit) (w : Workshop ι κ σ η) :
    Workshop ι κ σ η :=
  match w.bootstraps k with
  | none => w
  | some bootstrap =>
    let shared := (action ⟨bootstrap, w.registry, w.log⟩).2
    { w with
      bootstraps := Function.update w.bootstraps k (some shared.bootstrap)
      registry := shared.registry
      log := shared.log }

def step (w : Workshop ι κ σ η) : Operation ι κ σ η → Workshop ι κ σ η
  | .create i sink hooks memory archive listener listing =>
    let generator := Generator.create sink hooks memory archive listener listing
    { w with generators := Function.update w.generators i (some generator) }
  | .openStub i group name => w.serve i (Session.openStub group name)
  | .closeStub i mark => w.serve i (Session.closeStub mark)
  | .hydrate i stub extra => w.serve i (Session.hydrate? stub extra)
  | .commit i stub start stop extras => w.serve i (Session.commit stub start stop extras)
  | .generate i stub extra emit => w.serve i (Session.generate stub extra emit)
  | .emit i code => w.serve i (Session.onSink code)
  | .prepare k delayed listing =>
    { w with bootstraps := Function.update w.bootstraps k (some (.create delayed listing)) }
  | .enter k kind archive => w.note k (BootstrapState.enter kind archive)
  | .leave k kind published => w.note k (BootstrapState.leave kind published)
  | .register group name start stop =>
    { w with registry := w.registry.call (.register group name start stop) }
  | .freeze => { w with registry := w.registry.freeze.toOption.getD w.registry }
  | .unfreeze => { w with registry := w.registry.unfreeze.toOption.getD w.registry }

def run (w : Workshop ι κ σ η) (operations : List (Operation ι κ σ η)) : Workshop ι κ σ η :=
  operations.foldl step w

variable {w : Workshop ι κ σ η}

omit [DecidableEq κ] [∀ i, Sink (σ i)] in
theorem active_update (w : Workshop ι κ σ η) (i : ι) (generator : Generator (σ i) (η i))
    (registry : Registry) (log : Log) :
    active ⟨Function.update w.generators i (some generator), w.bootstraps, registry, log⟩ =
      Function.update w.active i generator.active := by
  funext j
  by_cases same : j = i
  · subst same
    simp [active]
  · simp [active, same]

omit [DecidableEq κ] [∀ i, Sink (σ i)] in
theorem Orderly.serve (orderly : w.Orderly) {α : Type} (i : ι)
    {action : Action (Session (σ i) (η i)) α} (turns : action.Respects Session.Turns) :
    (w.serve i action).Orderly ∧ w.registry.Keeps (w.serve i action).registry := by
  rw [Workshop.serve]
  cases found : w.generators i with
  | none => exact ⟨orderly, .refl _⟩
  | some generator =>
    have isActive : w.active i = generator.active := by rw [active, found, Option.bind_some]
    obtain ⟨after, keeps⟩ := Registry.Orderly.turns (turns ⟨generator, w.registry, w.log⟩)
      isActive orderly
    refine ⟨?_, keeps⟩
    rw [Orderly, active_update]
    exact after

omit [DecidableEq ι] [∀ i, Sink (σ i)] in
theorem Orderly.note (orderly : w.Orderly) (k : κ) {action : Action BootstrapState Unit}
    (same : ∀ s, (action s).2.registry.descriptors = s.registry.descriptors) :
    (w.note k action).Orderly ∧ w.registry.Keeps (w.note k action).registry := by
  rw [Workshop.note]
  cases w.bootstraps k with
  | none => exact ⟨orderly, .refl _⟩
  | some bootstrap => exact ⟨orderly.of_descriptors (same _), .of_descriptors (same _)⟩

theorem Orderly.step (orderly : w.Orderly) (operation : Operation ι κ σ η) :
    (w.step operation).Orderly ∧ w.registry.Keeps (w.step operation).registry := by
  cases operation with
  | create i sink hooks memory archive listener listing =>
    refine ⟨?_, .refl _⟩
    rw [Orderly, Workshop.step, active_update]
    exact Registry.Orderly.close orderly
  | openStub i group name => exact orderly.serve i (Session.openStub_turns group name)
  | closeStub i mark => exact orderly.serve i (Session.closeStub_turns mark)
  | hydrate i stub extra => exact orderly.serve i (Session.hydrate?_turns stub extra)
  | commit i stub start stop extras =>
    exact orderly.serve i (Session.commit_turns stub start stop extras)
  | generate i stub extra emit => exact orderly.serve i (Session.generate_turns stub extra emit)
  | emit i code => exact orderly.serve i fun _ => .refl
  | prepare k delayed listing => exact ⟨orderly, .refl _⟩
  | enter k kind archive => exact orderly.note k (BootstrapState.descriptors_enter kind archive)
  | leave k kind published => exact orderly.note k (BootstrapState.descriptors_leave kind published)
  | register group name start stop => exact Registry.Orderly.register orderly group name start stop
  | freeze =>
    have same := Registry.descriptors_freeze w.registry
    exact ⟨Registry.Orderly.of_descriptors orderly same, .of_descriptors same⟩
  | unfreeze =>
    have same := Registry.descriptors_unfreeze w.registry
    exact ⟨Registry.Orderly.of_descriptors orderly same, .of_descriptors same⟩

theorem Orderly.run (orderly : w.Orderly) (operations : List (Operation ι κ σ η)) :
    (w.run operations).Orderly ∧ w.registry.Keeps (w.run operations).registry := by
  induction operations generalizing w with
  | nil => exact ⟨orderly, .refl _⟩
  | cons operation rest ih =>
    obtain ⟨orderly, keeps⟩ := orderly.step operation
    obtain ⟨after, keepsAgain⟩ := ih orderly
    exact ⟨after, keeps.trans keepsAgain⟩

theorem descriptors_kept (log : Log) (earlier later : List (Operation ι κ σ η)) :
    let s := (start log).run earlier
    let t := s.run later
    s.registry.size ≤ t.registry.size ∧
      (∀ d ∈ s.registry.descriptors, ∀ stop, d.stop = some stop → d.start ≤ stop) ∧
      ∀ handle d, s.registry.get? handle = some d → ∃ e, t.registry.get? handle = some e ∧
        e.group = d.group ∧ e.name = d.name ∧ d.start ≤ e.start ∧ (d.isComplete = true → e = d) := by
  intro s t
  have orderly : s.Orderly := ((orderly_start log).run earlier).1
  have keeps : s.registry.Keeps t.registry := (orderly.run later).2
  refine ⟨keeps.size_le, orderly.ordered, fun handle d found => ?_⟩
  obtain ⟨e, isFound, grows⟩ := keeps handle d found
  exact ⟨e, isFound, grows.group, grows.name, grows.start, grows.fixed⟩

/-! ### Two generators -/

/-- One stub is closed while another is open. -/
def overlapping : List (Operation Bool Unit (fun _ => CodeBuffer) fun _ => Unit) :=
  [.create true (.create ⟨0x1000⟩ 64) .standard () none .silent false,
    .create false (.create ⟨0x2000⟩ 64) .standard () none .silent false,
    .openStub true "Boot" "first", .openStub false "Boot" "second",
    .emit true (Stub.fence.emitBody >>= fun _ => pure ()), .closeStub true ⟨⟨0⟩, "first"⟩]

def retries : List (Operation Bool Unit (fun _ => CodeBuffer) fun _ => Unit) :=
  [.closeStub true ⟨⟨0⟩, "first"⟩, .freeze, .closeStub false ⟨⟨0⟩, "first"⟩,
    .openStub true "Boot" "third", .closeStub false ⟨⟨1⟩, "second"⟩]

theorem descriptors_kept_overlapping :
    let s := (start (.create (.upTo 0))).run overlapping
    let t := s.run retries
    let first : Descriptor := ⟨"Boot", "first", ⟨0x1000⟩, some ⟨0x1004⟩, 0, false⟩
    s.registry.get? ⟨0⟩ = some first ∧ t.registry.get? ⟨0⟩ = some first ∧
      t.registry.size = s.registry.size := by
  intro s t first
  obtain ⟨-, -, kept⟩ := descriptors_kept (.create (.upTo 0)) overlapping retries
  have found : s.registry.get? ⟨0⟩ = some first := by decide +kernel
  have grown : t.registry.size = s.registry.size := by decide +kernel
  obtain ⟨e, isFound, -, -, -, fixed⟩ := kept ⟨0⟩ first found
  rw [fixed rfl] at isFound
  exact ⟨found, isFound, grown⟩

end Workshop

end RuntimeStubs
