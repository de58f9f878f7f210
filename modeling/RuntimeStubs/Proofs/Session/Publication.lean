import RuntimeStubs.Code.StubBody
import RuntimeStubs.Proofs.Session.Endings

/-! What a failed generation has published.

A stub is published when it is closed, and its addresses go to the archive only then. Every failure
before that moment leaves the session as if it had published nothing (`Unpublished`). One failure
comes later: the archive refuses a null address, and the stub it belongs to is out already
(`Belated`). Main statement: there is no third case (`generate_failed`). -/

set_option autoImplicit false

namespace RuntimeStubs

def AddressRole.addresses (role : AddressRole) (start stop : Address) (extras : List Address) :
    List Address :=
  match role with
  | .start => [start]
  | .stop => [stop]
  | .entry => extras

namespace Archive

-- The look-up has ruled out the other reasons for a refusal: the stub is of the right phase, and
-- its slot is empty.
theorem store_error_of_missed {a b : Archive} {stub : Stub} {start stop : Address}
    {extras : List Address} {fault : Fault} (missed : a.find stub = .ok (false, b))
    (refused : b.store stub start stop extras = .error fault) :
    ∃ role : AddressRole, fault = .nullAddress stub role ∧
      (role.addresses start stop extras).any Address.isNull = true := by
  obtain ⟨phase, noHit, rfl⟩ := find_eq_ok_iff.mp missed
  have phase : stub.phase = Archive.kind { a with current := none } := phase
  have empty : (Archive.slot? { a with current := none } stub.localIndex).isSome = false := noHit.symm
  simp only [store, if_neg Bool.false_ne_true, slotIndex_of_phase phase, empty] at refused
  split at refused
  · next null =>
    cases refused
    exact ⟨.start, rfl, by simpa [AddressRole.addresses] using null⟩
  split at refused
  · next null =>
    cases refused
    exact ⟨.stop, rfl, by simpa [AddressRole.addresses] using null⟩
  split at refused
  · next null =>
    cases refused
    exact ⟨.entry, rfl, null⟩
  · cases refused

end Archive

namespace Registry

def completeDescriptors (r : Registry) : List Descriptor :=
  r.descriptors.filter Descriptor.isComplete

theorem completeDescriptors_push {r : Registry} {d : Descriptor} (isOpen : d.stop = none) :
    (r.push d).completeDescriptors = r.completeDescriptors := by
  simp [completeDescriptors, push, Descriptor.isComplete, isOpen]

-- A descriptor without an end contains no address.
theorem find?_completeDescriptors (r : Registry) (pc : Address) :
    r.find? pc = r.completeDescriptors.reverse.find? fun d => d.contains pc := by
  rw [find?, newestFirst, completeDescriptors, ← List.filter_reverse, List.find?_filter]
  congr 1
  funext d
  cases ends : d.stop <;> simp [Descriptor.contains, Descriptor.isComplete, ends]

end Registry

namespace Session

variable {σ η : Type} {s t : Session σ η}

/-- Nothing has been published on the way from one session to another. -/
structure Unpublished (s t : Session σ η) : Prop where
  events : t.events = s.events
  published : t.published = s.published
  descriptors : t.registry.completeDescriptors = s.registry.completeDescriptors
  find? : ∀ pc, t.registry.find? pc = s.registry.find? pc

theorem unpublished_of_quiet (archive : Option Archive) (registry : Registry)
    (active : Option Handle) (descriptors : registry.completeDescriptors =
      s.registry.completeDescriptors)
    (quiet : Quiet { s with archive := archive, registry := registry, active := active } t) :
    s.Unpublished t := by
  obtain ⟨_, _, _, rfl⟩ := quiet
  refine ⟨rfl, rfl, descriptors, fun pc => ?_⟩
  rw [Registry.find?_completeDescriptors, Registry.find?_completeDescriptors, descriptors]

/-- The archive of a session has refused an address of a stub that had been published already. The
addresses are the bounds of the descriptor and the entries that `emit` has answered with. -/
structure Belated (stub : Stub) (extra : Nat) (emit : Action σ (List Address)) (role : AddressRole)
    (d : Descriptor) (entries : List Address) (s t : Session σ η) : Prop where
  attached : s.archive.isSome = true
  emitted : ∃ before after, emit before = (.ok entries, after)
  count : entries.length = extra
  null : (role.addresses d.start d.stopOrStart entries).any Address.isNull = true
  group : d.group = routinesGroup
  name : d.name = stub.name
  isComplete : d.isComplete = true
  events : t.events = s.events ++ s.announcement d t.log
  published : t.published = s.published + 1
  registry : t.registry = s.registry.push d

theorem address_not_mem_announcement (d : Descriptor) (log : Log) (address : Address) :
    Event.address address ∉ s.announcement d log := by
  rw [announcement]
  split <;> simp

variable [Sink σ] {stub : Stub} {extra : Nat} {emit : Action σ (List Address)} {fault : Fault}

def generateFresh (stub : Stub) (extra : Nat) (emit : Action σ (List Address)) :
    Action (Session σ η) StubEntries := do
  let mark ← openStub routinesGroup stub.name
  let entries ← onSink emit
  if entries.length ≠ extra then
    Action.fail (.entryCountMismatch stub extra entries.length)
  else do
    let d ← closeStub mark
    commit stub d.start d.stopOrStart entries
    return ⟨stub, d.start, d.stopOrStart, entries, false⟩

theorem generate_eq (stub : Stub) (extra : Nat) (emit : Action σ (List Address)) :
    generate stub extra emit = (do
      match ← (hydrate? stub extra : Action (Session σ η) (Option StubEntries)) with
      | some entries => return entries
      | none => generateFresh stub extra emit) := rfl

-- Closing the stub that has just been opened completes the descriptor registered last.
theorem Completes.of_opened {group name : String} {start : Address} {d : Descriptor} {sink : σ}
    (opened : Quiet { s with
      registry := s.registry.push (.create group name start none)
      active := some ⟨s.registry.size⟩ } t)
    (completes : t.Completes ⟨s.registry.size⟩ d sink) :
    (∃ stop displacement, d = ⟨group, name, start, some stop, displacement, false⟩) ∧
      Quiet { s with registry := s.registry.push d, active := none }
        (t.completed ⟨s.registry.size⟩ d) := by
  obtain ⟨sink, memory, log, rfl⟩ := opened
  obtain ⟨old, -, known, -, -, rfl⟩ := completes
  obtain rfl : Descriptor.create group name start none = old := by
    simpa [Registry.push, Registry.size] using known
  refine ⟨⟨_, _, rfl⟩, sink, memory, log, ?_⟩
  rw [completed, Registry.put_push]

-- Between opening and closing the registry holds one more descriptor, which is not complete. A
-- failure leaves it there; it is no descriptor that anybody is told of or can find.
theorem generateFresh_failed (returned : ∀ cause, fault ≠ .abort cause)
    (missed : ∀ b, s.archive = some b → ∃ a : Archive, a.find stub = .ok (false, b))
    (failed : generateFresh stub extra emit s = (.error fault, t)) :
    t.archive = s.archive ∧ (s.Unpublished t ∨ ∃ role d entries, fault = .nullAddress stub role ∧
      s.Belated stub extra emit role d entries t) := by
  have unpublished {registry : Registry} {active : Option Handle} {t : Session σ η}
      (descriptors : registry.completeDescriptors = s.registry.completeDescriptors)
      (quiet : Quiet { s with registry := registry, active := active } t) :
      t.archive = s.archive ∧ s.Unpublished t := by
    refine ⟨?_, unpublished_of_quiet s.archive registry active descriptors quiet⟩
    obtain ⟨_, _, _, rfl⟩ := quiet
    rfl
  rcases Action.bind_eq_error_iff.mp failed with opens | ⟨mark, _, opens, rest⟩
  · cases (openStub_ends ..).of_eq opens with
    | refused _ quiet => exact (unpublished rfl quiet).imp_right .inl
    | abandoned _ start quiet =>
      exact (unpublished (Registry.completeDescriptors_push rfl) quiet).imp_right .inl
  cases (openStub_ends ..).of_eq opens with
  | opened start inactive quiet =>
    have concealed : (s.registry.push (.create routinesGroup stub.name start none)
      ).completeDescriptors = s.registry.completeDescriptors :=
        Registry.completeDescriptors_push rfl
    rcases Action.bind_eq_error_iff.mp rest with emits | ⟨entries, _, emits, rest⟩
    · exact (unpublished concealed (quiet.trans (quiet_of_onSink emits))).imp_right .inl
    have emitted := quiet.trans (quiet_of_onSink emits)
    split at rest
    · cases rest
      exact (unpublished concealed emitted).imp_right .inl
    next count =>
    rcases Action.bind_eq_error_iff.mp rest with closes | ⟨d, closed, closes, rest⟩
    · cases (closeStub_ends ..).of_eq closes with
      | refused _ quiet => exact (unpublished concealed (emitted.trans quiet)).imp_right .inl
      | aborted cause => exact absurd rfl (returned cause)
    cases (closeStub_ends ..).of_eq closes with
    | closed _ completes quietly isAnnounced =>
      obtain ⟨⟨stop, displacement, made⟩, completed⟩ := completes.of_opened emitted
      obtain ⟨_, _, _, rfl⟩ := completed.trans quietly
      rcases Action.bind_eq_error_iff.mp rest with commits | ⟨_, _, _, returns⟩
      · cases (commit_ends ..).of_eq commits with
        | refused _ a attached refused =>
          have sameArchive : t.archive = s.archive := congrArg (fun u => u.archive) isAnnounced
          obtain ⟨b, missed⟩ := missed a (sameArchive.symm.trans attached)
          obtain ⟨role, rfl, null⟩ := Archive.store_error_of_missed missed refused
          obtain ⟨sink, ran, -⟩ := onSink_eq_iff.mp emits
          refine ⟨sameArchive, .inr ⟨role, d, entries, rfl, ?_⟩⟩
          exact {
            attached := by rw [← sameArchive, attached, Option.isSome_some]
            emitted := ⟨_, sink, ran⟩
            count := not_not.mp count
            null := null
            group := by rw [made]
            name := by rw [made]
            isComplete := by rw [made]; rfl
            events := congrArg (fun u => u.events) isAnnounced
            published := congrArg (fun u => u.published) isAnnounced
            registry := congrArg (fun u => u.registry) isAnnounced }
      · cases returns

-- An abort is not an error that the caller gets to see, and an epilog that aborts has the complete
-- stub behind it.
theorem generate_failed (returned : ∀ cause, fault ≠ .abort cause)
    (failed : generate stub extra emit s = (.error fault, t)) :
    t.archive.map Archive.rested = s.archive.map Archive.rested ∧
      (∃ sent, t.events = s.events ++ sent ∧ ∀ address, Event.address address ∉ sent) ∧
      (s.Unpublished t ∨ ∃ role d entries, fault = .nullAddress stub role ∧
        s.Belated stub extra emit role d entries t) := by
  suffices outcome : t.archive.map Archive.rested = s.archive.map Archive.rested ∧
      (s.Unpublished t ∨ ∃ role d entries, fault = .nullAddress stub role ∧
        s.Belated stub extra emit role d entries t) by
    refine ⟨outcome.1, ?_, outcome.2⟩
    rcases outcome.2 with unpublished | ⟨_, _, _, -, belated⟩
    · exact ⟨[], by rw [unpublished.events, List.append_nil], fun _ => List.not_mem_nil⟩
    · exact ⟨_, belated.events, address_not_mem_announcement _ _⟩
  rw [generate_eq] at failed
  rcases Action.bind_eq_error_iff.mp failed with hydrates | ⟨hydrated?, looked, hydrates, rest⟩
  · cases (hydrate?_ends ..).of_eq hydrates with
    | refused _ archive same quiet =>
      refine ⟨?_, .inl (unpublished_of_quiet archive s.registry s.active rfl quiet)⟩
      obtain ⟨_, _, _, rfl⟩ := quiet
      exact same
  · cases (hydrate?_ends ..).of_eq hydrates with
    | adopted => cases rest
    | missed missed quiet =>
      obtain ⟨sink, memory, log, rfl⟩ := quiet
      have misses : ∀ b, s.archive.map Archive.rested = some b →
          ∃ a : Archive, a.find stub = .ok (false, b) := by
        intro b isRested
        obtain ⟨a, attached, rfl⟩ := Option.map_eq_some_iff.mp isRested
        exact ⟨a, missed a attached⟩
      obtain ⟨sameArchive, outcome⟩ := generateFresh_failed returned misses rest
      refine ⟨?_, outcome.imp (fun unpublished => ?_) ?_⟩
      · rw [sameArchive]
        exact Archive.map_rested s.archive
      · exact { unpublished with }
      · rintro ⟨role, d, entries, cause, belated⟩
        refine ⟨role, d, entries, cause, { belated with attached := ?_ }⟩
        exact (Option.isSome_map ..).symm.trans belated.attached

/-! ### The lowest address -/

def lowestSession : Session CodeBuffer Unit :=
  ⟨.create (.create .null 64) Hooks.standard () (some (.create .initial)) .silent false, .empty,
    .create (.upTo 0)⟩

-- The first stub of the buffer is published with the range [0, 4) before the archive refuses its
-- start.
theorem generate_published_null :
    let ran := generate .fence 0 Stub.fence.emitBody lowestSession
    ran.1 = .error (.nullAddress .fence .start) ∧
      ran.2.events = [.registered "fence" ⟨0⟩ ⟨4⟩] ∧ ran.2.published = 1 ∧
      ran.2.registry.completeDescriptors.length = 1 ∧ ¬ lowestSession.Unpublished ran.2 := by
  refine ⟨rfl, rfl, rfl, rfl, fun unpublished => ?_⟩
  have counted := unpublished.published
  exact absurd counted (by decide)

theorem generate_failed_count :
    ∃ t, generate .fence 1 Stub.fence.emitBody lowestSession =
        (.error (.entryCountMismatch .fence 1 0), t) ∧ lowestSession.Unpublished t := by
  refine ⟨_, rfl, ?_⟩
  have failed : generate .fence 1 Stub.fence.emitBody lowestSession =
    (.error (.entryCountMismatch .fence 1 0), _) := rfl
  obtain ⟨-, -, unpublished | ⟨role, d, entries, cause, -⟩⟩ :=
    generate_failed (fun _ => Fault.noConfusion) failed
  · exact unpublished
  · cases cause

end Session

end RuntimeStubs
