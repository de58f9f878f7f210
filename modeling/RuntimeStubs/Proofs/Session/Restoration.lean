import RuntimeStubs.Proofs.Archive.RoundTrip
import RuntimeStubs.Proofs.Code.Calls
import RuntimeStubs.Proofs.Session.Operations
import RuntimeStubs.Proofs.Session.Outcomes

/-! Sessions over an archive that an earlier session has filled.

Main statement (`attemptAll_restored`): if every attempt of a session succeeds, then its archive can
be written down and read back, and the same attempts over the archive read back succeed again, with
the same addresses and matching descriptors, without emitting any code. Whatever the first session
returns is held by its archive from then on (`Recorded`), so that the second session finds each stub
in turn. -/

set_option autoImplicit false

namespace RuntimeStubs

def Task.request {σ : Type} (task : Task σ) : Stub × Nat := (task.stub, task.extra)

namespace StubEntries

def request (e : StubEntries) : Stub × Nat := (e.stub, e.entries.length)

def descriptor (base : Address) (e : StubEntries) : Descriptor :=
  Session.complete base e.stub.name e.start e.stop e.hydrated

def restored (e : StubEntries) : StubEntries := { e with hydrated := true }

end StubEntries

/-- An archive holds what a session has returned, with bounds that a registry accepts. -/
def Archive.Recorded (a : Archive) (e : StubEntries) : Prop :=
  a.Holds e.archived ∧ ¬ e.stop < e.start

/-- Descriptors of the same code, which may lie at another distance from the base of the sink. -/
def Descriptor.Agrees (d e : Descriptor) : Prop :=
  d.group = e.group ∧ d.name = e.name ∧ d.start = e.start ∧ d.stop = e.stop

namespace Session

variable {σ η : Type} [Sink σ]

def SteadyTask (base : Address) (task : Task σ) : Prop :=
  ∀ sink : σ, Sink.base sink = base → Sink.base (task.emit sink).2 = base

theorem respects_based {base : Address} {task : Task σ} (steady : SteadyTask base task) :
    (onSink task.emit : Action (Session σ η) (List Address)).Respects
      fun s t => s.Based base → t.Based base := by
  rintro s ⟨hooks, isBase⟩
  exact ⟨hooks, steady s.sink isBase⟩

-- One successful attempt, fresh or not.
theorem generate_recorded {task : Task σ} {e : StubEntries} {s t : Session σ η} {a : Archive}
    (reachable : a.Reachable) (attached : s.archive = some a)
    (generated : generate task.stub task.extra task.emit s = (.ok e, t)) :
    e.request = task.request ∧
      t.registry = s.registry.push (e.descriptor (Sink.base t.sink)) ∧
      ∃ b, t.archive = some b ∧ b.Reachable ∧ b.Recorded e ∧
        ∀ other, a.Recorded other → b.Recorded other := by
  obtain ⟨count, taken | ⟨b, fresh⟩⟩ := generate_ok_cases attached reachable.sound generated
  · have selected := reachable.find taken.holds.find
    refine ⟨Prod.ext taken.stub_eq count, ?_, _, taken.attached, ?_, ⟨taken.holds, taken.ordered⟩,
      fun _ recorded => recorded⟩
    · rw [taken.registry, StubEntries.descriptor, taken.stub_eq, taken.hydrated, taken.sink]
    · rwa [← taken.stub_eq]
  · have missed := reachable.find fresh.missed
    have holds := Archive.holds_store missed.sound fresh.stored
    rw [← fresh.stub_eq] at holds
    refine ⟨Prod.ext fresh.stub_eq count, ?_, b, fresh.attached, missed.store fresh.stored,
      ⟨holds, fresh.ordered⟩, ?_⟩
    · rw [fresh.registry, StubEntries.descriptor, fresh.stub_eq, fresh.hydrated]
    · rintro other ⟨holds, ordered⟩
      exact ⟨(Archive.holds_select.mpr holds).store missed.sound fresh.stored, ordered⟩

/-- What a list of successful attempts has returned and registered. -/
structure Recording (tasks : List (Task σ)) (entries : List StubEntries) (a b : Archive)
    (new : List Descriptor) (s t : Session σ η) : Prop where
  requests : entries.map StubEntries.request = tasks.map Task.request
  attached : t.archive = some b
  reachable : b.Reachable
  recorded : ∀ e ∈ entries, b.Recorded e
  kept : ∀ e, a.Recorded e → b.Recorded e
  registry : t.registry.descriptors = s.registry.descriptors ++ new
  agree : List.Forall₂ (fun e d => ∃ base, d = e.descriptor base) entries new
  based : ∀ base, s.Based base → (∀ task ∈ tasks, SteadyTask base task) →
    new = entries.map (StubEntries.descriptor base)

-- Induction on the tasks. What the first attempt has recorded is kept by all later ones, so that in
-- the end the archive holds every stub of the list, repetitions included.
theorem attemptAll_recorded {tasks : List (Task σ)} {entries : List StubEntries}
    {s t : Session σ η} {a : Archive} (reachable : a.Reachable) (attached : s.archive = some a)
    (ran : attemptAll tasks s = (entries.map .ok, t)) :
    ∃ b new, Recording tasks entries a b new s t := by
  induction tasks generalizing s a entries with
  | nil =>
    cases entries with
    | nil =>
      cases ran
      exact ⟨a, [], rfl, attached, reachable, by simp, fun _ => id, by simp, .nil, fun _ _ _ => rfl⟩
    | cons e entries => cases ran
  | cons task rest ih =>
    cases entries with
    | nil => cases ran
    | cons e entries =>
      obtain ⟨middle, generated, ranRest⟩ := attemptAll_cons_eq_iff.mp ran
      obtain ⟨request, registered, b, attachedMiddle, reachableMiddle, recorded, kept⟩ :=
        generate_recorded reachable attached generated
      obtain ⟨c, new, recording⟩ := ih reachableMiddle attachedMiddle ranRest
      refine ⟨c, e.descriptor (Sink.base middle.sink) :: new, ?_, recording.attached,
        recording.reachable, ?_, ?_, ?_, .cons ⟨_, rfl⟩ recording.agree, ?_⟩
      · rw [List.map_cons, List.map_cons, request, recording.requests]
      · exact List.forall_mem_cons.mpr ⟨recording.kept e recorded, recording.recorded⟩
      · exact fun other before => recording.kept other (kept other before)
      · rw [recording.registry, registered, Registry.push, List.append_assoc]
        rfl
      · intro base based steady
        obtain ⟨steadyTask, steadyRest⟩ := List.forall_mem_cons.mp steady
        have basedMiddle := (admits_based base).generate task.stub task.extra
          (respects_based steadyTask) s based
        rw [generated] at basedMiddle
        rw [recording.based base basedMiddle steadyRest, basedMiddle.2, List.map_cons]

-- Induction on what has been recorded. The session reached is named before the tasks are, because
-- it does not depend on the code that they would emit.
theorem attemptAll_of_recorded {entries : List StubEntries} {s : Session σ η} {a : Archive}
    (sound : a.Sound) (attached : s.archive = some a) (unfrozen : s.registry.frozen = false)
    (recorded : ∀ e ∈ entries, a.Recorded e) :
    ∃ t b, (∀ tasks : List (Task σ), tasks.map Task.request = entries.map StubEntries.request →
        attemptAll tasks s = (entries.map fun e => .ok e.restored, t)) ∧
      t.sink = s.sink ∧ t.archive = some b ∧ b.slots = a.slots ∧ b.addresses = a.addresses ∧
      t.registry.descriptors = s.registry.descriptors ++
        entries.map fun e => e.restored.descriptor (Sink.base s.sink) := by
  induction entries generalizing s a with
  | nil =>
    refine ⟨s, a, ?_, rfl, attached, rfl, rfl, (List.append_nil _).symm⟩
    intro tasks same
    rw [List.map_eq_nil_iff.mp same]
    rfl
  | cons e rest ih =>
    obtain ⟨⟨holds, ordered⟩, recordedRest⟩ := List.forall_mem_cons.mp recorded
    obtain ⟨middle, generated, silent⟩ := generate_of_holds attached sound holds ordered unfrozen
    obtain ⟨memory, published, events, log, rfl⟩ := silent
    obtain ⟨t, b, ran, sink, attachedLast, slots, addresses, registry⟩ :=
      ih (s := { s.hydrated a e.archived with
        memory := memory, published := published, events := events, log := log })
        (sound.find holds.find) rfl unfrozen recordedRest
    refine ⟨t, b, ?_, sink, attachedLast, slots, addresses, ?_⟩
    · intro tasks same
      obtain ⟨task, others, rfl, first, sameRest⟩ := List.map_eq_cons_iff.mp same
      obtain ⟨stub, extra, emit⟩ := task
      cases first
      exact attemptAll_cons_eq_iff.mpr ⟨_, generated emit, ran others sameRest⟩
    · rw [registry]
      exact List.append_assoc ..

/-- Hydration reproduces generation. The second session reaches the same end for all tasks with the
same requests, so that none of them is asked for its code. -/
theorem attemptAll_restored {tasks : List (Task σ)} {entries : List StubEntries}
    {first last : Session σ η} {a : Archive} (reachable : a.Reachable)
    (attached : first.archive = some a) (ran : attemptAll tasks first = (entries.map .ok, last))
    (limit : ∀ b, last.archive = some b → b.addresses.length ≤ Snapshot.addressLimit) :
    ∃ b restored, last.archive = some b ∧ Archive.ofSnapshot b.snapshot = .ok restored ∧
      ∀ {τ θ : Type} [Sink τ] (second : Session τ θ), second.archive = some restored →
        second.registry.frozen = false →
          ∃ final c, (∀ others : List (Task τ), others.map Task.request = tasks.map Task.request →
              attemptAll others second = (entries.map fun e => .ok e.restored, final)) ∧
            final.sink = second.sink ∧
            final.archive = some c ∧ c.slots = restored.slots ∧ c.addresses = restored.addresses ∧
            ∃ old new, last.registry.descriptors = first.registry.descriptors ++ old ∧
              final.registry.descriptors = second.registry.descriptors ++ new ∧
              List.Forall₂ Descriptor.Agrees old new ∧
              ∀ base, first.Based base → (∀ task ∈ tasks, SteadyTask base task) →
                Sink.base second.sink = base →
                  old.map Descriptor.displacement = new.map Descriptor.displacement := by
  obtain ⟨b, old, recording⟩ := attemptAll_recorded reachable attached ran
  have restores := Archive.ofSnapshot_snapshot recording.reachable.sound
    (limit b recording.attached)
  refine ⟨b, _, recording.attached, restores, ?_⟩
  intro τ θ _ second attachedSecond unfrozen
  obtain ⟨final, c, again, sink, attachedFinal, slots, addresses, registry⟩ :=
    attemptAll_of_recorded (Archive.sound_ofSnapshot restores) attachedSecond unfrozen
      recording.recorded
  refine ⟨final, c, ?_, sink, attachedFinal, slots, addresses, old, _, recording.registry,
    registry, ?_, ?_⟩
  · intro others same
    exact again others (same.trans recording.requests.symm)
  · refine List.forall₂_map_right_iff.mpr (recording.agree.flip.imp ?_)
    rintro d e ⟨firstBase, rfl⟩
    exact ⟨rfl, rfl, rfl, rfl⟩
  · intro base based steady sameBase
    rw [recording.based base based steady, sameBase, List.map_map, List.map_map]
    rfl

/-! ### A run -/

def calls : List (Task CodeBuffer) :=
  [⟨.callStub, 1, Stub.callStub.emitBody⟩, ⟨.fence, 0, Stub.fence.emitBody⟩,
    ⟨.callStub, 1, Stub.callStub.emitBody⟩]

def idleCalls : List (Task CodeBuffer) :=
  calls.map fun task => { task with emit := Action.fail .noCurrentStub }

def callsSession (archive : Archive) : Session CodeBuffer Unit :=
  ⟨.create (.forPhase .initial ⟨0x1000⟩) Hooks.standard () (some archive) .silent false, .empty,
    .create (.upTo 0)⟩

def callsEntries : List StubEntries :=
  [⟨.callStub, ⟨0x1000⟩, ⟨0x1018⟩, [⟨0x100e⟩], false⟩, ⟨.fence, ⟨0x1018⟩, ⟨0x101c⟩, [], false⟩,
    ⟨.callStub, ⟨0x1000⟩, ⟨0x1018⟩, [⟨0x100e⟩], true⟩]

theorem steady_standard (base : Address) :
    Steady base (Hooks.standard : Hooks CodeBuffer Unit) where
  flush sink isBase := Eq.trans (CodeBuffer.wrote_flush sink).extends.base isBase
  prolog _ _ _ isBase := isBase

theorem steady_calls (base : Address) : ∀ task ∈ calls, SteadyTask base task := by
  simp only [calls, List.forall_mem_cons, List.not_mem_nil, false_implies, implies_true, and_true]
  have steady (stub : Stub) (extra : Nat) : SteadyTask base ⟨stub, extra, stub.emitBody⟩ :=
    fun sink isBase => Eq.trans (stub.respects_emitBody sink).extends.base isBase
  exact ⟨steady .callStub 1, steady .fence 0, steady .callStub 1⟩

theorem attemptAll_restored_calls :
    ∃ b restored final, (attemptAll calls (callsSession (.create .initial))).2.archive = some b ∧
      Archive.ofSnapshot b.snapshot = .ok restored ∧
      attemptAll idleCalls (callsSession restored) =
        (callsEntries.map fun e => .ok e.restored, final) ∧
      final.registry.descriptors.map Descriptor.displacement = [0, 24, 0] := by
  have ran : attemptAll calls (callsSession (.create .initial)) =
      (callsEntries.map .ok, (attemptAll calls (callsSession (.create .initial))).2) :=
    Prod.ext (by rfl) rfl
  have limit : ∀ b, (attemptAll calls (callsSession (.create .initial))).2.archive = some b →
      b.addresses.length ≤ Snapshot.addressLimit := by
    rintro b ⟨⟩
    decide
  obtain ⟨b, restored, attached, restores, again⟩ :=
    attemptAll_restored (.created .initial) rfl ran limit
  obtain ⟨final, c, results, -, -, -, -, old, new, registered, registeredAgain, -, displaced⟩ :=
    again (callsSession restored) rfl rfl
  refine ⟨b, restored, final, attached, restores, results idleCalls rfl, ?_⟩
  have isNew : final.registry.descriptors = new := registeredAgain
  have isOld : (attemptAll calls (callsSession (.create .initial))).2.registry.descriptors = old :=
    registered
  rw [isNew, ← displaced ⟨0x1000⟩ ⟨steady_standard _, rfl⟩ (steady_calls _) rfl, ← isOld]
  rfl

end Session

end RuntimeStubs
