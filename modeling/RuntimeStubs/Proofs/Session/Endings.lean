import RuntimeStubs.Proofs.Registry.LifeCycle
import RuntimeStubs.Proofs.Session.Outcomes

/-! All the ways in which the operations of a session end.

An operation may stop at every one of its steps. For each operation an inductive predicate lists its
endings, good and bad, and says what the session is in each of them, up to the sink, the log and
what the hooks keep in mind (`Quiet`). The rule for sequences (`Action.ends_bind`) takes an
operation apart into its steps, whichever of them fails. -/

set_option autoImplicit false

namespace RuntimeStubs

namespace Action

variable {σ α β : Type} {action : Action σ α} {s : σ}

def Ends (action : Action σ α) (s : σ) (post : Except Fault α → σ → Prop) : Prop :=
  post (action s).1 (action s).2

theorem Ends.respects {R : σ → σ → Prop} {post : σ → Except Fault α → σ → Prop}
    (ends : ∀ s, action.Ends s (post s)) (related : ∀ s result t, post s result t → R s t) :
    action.Respects R := fun s => related s _ _ (ends s)

theorem Ends.of_eq {post : Except Fault α → σ → Prop} {result : Except Fault α} {t : σ}
    (ends : action.Ends s post) (ran : action s = (result, t)) : post result t := by
  rwa [Ends, ran] at ends

theorem ends_bind {next : α → Action σ β} {post : Except Fault β → σ → Prop}
    (failed : ∀ fault t, action s = (.error fault, t) → post (.error fault) t)
    (rest : ∀ value t, action s = (.ok value, t) → (next value).Ends t post) :
    (action >>= next).Ends s post := by
  rcases ran : action s with ⟨fault | value, t⟩
  · rw [Ends, bind_of_error ran]
    exact failed fault t ran
  · rw [Ends, bind_of_ok ran]
    exact rest value t ran

end Action

namespace Registry

theorem finish_eq_ok_iff {r changed : Registry} {handle : Handle} {stop : Address}
    {displacement : Nat} {d : Descriptor} :
    r.finish handle stop displacement = .ok (d, changed) ↔
      ∃ opened, r.descriptors[handle.index]? = some opened ∧ ¬ stop < opened.start ∧
        d = { opened with stop := some stop, displacement := displacement } ∧
        changed = r.put handle d := by
  rw [finish, update_eq_ok_iff]
  refine exists_congr fun opened => and_congr_right fun _ => ?_
  by_cases below : stop < opened.start
  · simp [Descriptor.setStop, below]
  · simp [Descriptor.setStop, below, put, eq_comm]

end Registry

namespace Archive

def rested (a : Archive) : Archive := { a with current := none }

theorem map_rested (archive : Option Archive) :
    (archive.map rested).map rested = archive.map rested := by
  cases archive <;> rfl

theorem find_eq_ok_rested {a b : Archive} {stub : Stub} {hit : Bool}
    (found : a.find stub = .ok (hit, b)) : b.rested = a.rested := by
  obtain ⟨-, -, rfl⟩ := find_eq_ok_iff.mp found
  rfl

end Archive

namespace Session

variable {σ η : Type} {s t u : Session σ η}

/-- The second session differs from the first in the sink, in the log and in what the hooks keep in
mind. -/
def Quiet (s t : Session σ η) : Prop :=
  ∃ sink memory log, t = { s with sink := sink, memory := memory, log := log }

theorem Quiet.refl (s : Session σ η) : s.Quiet s := ⟨_, _, _, rfl⟩

theorem Quiet.trans (first : s.Quiet t) (second : t.Quiet u) : s.Quiet u := by
  obtain ⟨_, _, _, rfl⟩ := first
  obtain ⟨sink, memory, log, rfl⟩ := second
  exact ⟨sink, memory, log, rfl⟩

theorem quiet_of_onSink {α : Type} {action : Action σ α} {result : Except Fault α}
    (ran : onSink action s = (result, t)) : s.Quiet t := by
  obtain ⟨sink, rfl⟩ := exists_sink_of_onSink ran
  exact ⟨sink, s.memory, s.log, rfl⟩

theorem quiet_of_runProlog {d : Descriptor} {result : Except Fault Unit}
    (ran : runProlog d s = (result, t)) : s.Quiet t := by
  obtain ⟨sink, memory, rfl⟩ := exists_sink_of_runProlog ran
  exact ⟨sink, memory, s.log, rfl⟩

theorem exists_log_of_runEpilog {d : Descriptor} {result : Except Fault Unit}
    (ran : runEpilog d s = (result, t)) :
    ∃ memory log, t = { s with memory := memory, log := log } := by
  cases ran
  exact ⟨_, _, rfl⟩

theorem runEpilog_error {d : Descriptor} {fault : Fault}
    (ran : runEpilog d s = (.error fault, t)) : ∃ cause, fault = .abort cause := by
  have failed := congrArg Prod.fst ran
  rw [runEpilog, Action.get_bind, Action.focus_apply, Action.aborting_apply] at failed
  cases ended : (s.hooks.epilog s.sink d s.listing (s.memory, s.log)).1 with
  | ok => simp [ended, Fault.ofAborting] at failed
  | error cause =>
    rw [ended] at failed
    cases failed
    exact ⟨cause, rfl⟩

theorem onRegistry_error {α : Type} {change : Registry → Except Fault (α × Registry)}
    {fault : Fault} (ran : onRegistry change s = (.error fault, t)) : t = s := by
  rw [onRegistry] at ran
  split at ran
  · cases ran
  · cases ran
    rfl

theorem describe_none_quiet (d : Descriptor) (s : Session σ η) :
    ∃ t, describe d none s = (.ok (), t) ∧ s.Quiet t := by
  obtain ⟨t, described, -⟩ := describe_none_eq d s
  refine ⟨t, described, ?_⟩
  obtain rfl : (describe d none s).2 = t := congrArg Prod.snd described
  exact ⟨_, _, _, rfl⟩

theorem descriptor_snd {handle : Handle} {result : Except Fault Descriptor}
    (ran : descriptor handle s = (result, t)) : t = s :=
  (congrArg Prod.snd ran).symm

/-! ### Publication -/

def announcement (s : Session σ η) (d : Descriptor) (log : Log) : List Event :=
  .registered d.name d.start d.stopOrStart ::
    if s.listener.wantsCode log (s.events ++ [.registered d.name d.start d.stopOrStart]) then
      [.posted d.name d.start d.stopOrStart]
    else []

/-- The session after a descriptor has been published. -/
def announced (d : Descriptor) (log : Log) (s : Session σ η) : Session σ η :=
  { s with published := s.published + 1, events := s.events ++ s.announcement d log, log := log }

-- Of the log a listener uses the filter at most, which nothing that is reported changes.
theorem wantsCode_congr (listener : Listener) {log other : Log} (same : log.filter = other.filter) :
    listener.wantsCode log = listener.wantsCode other := by
  funext sent
  cases listener with
  | logging => simp only [Listener.wantsCode, Log.enabled, same]
  | watching wants => rfl

theorem filter_receive (listener : Listener) (event : Event) (log : Log) :
    (listener.receive event log).filter = log.filter := by
  cases listener with
  | logging => exact Log.filter_report event.diagnostic log
  | watching wants => rfl

theorem announcement_congr {log other : Log} (same : log.filter = other.filter) (d : Descriptor)
    (s : Session σ η) : s.announcement d log = s.announcement d other := by
  rw [announcement, wantsCode_congr s.listener same, announcement]

theorem announced_report {d : Descriptor} (isAnnounced : u = t.announced d u.log)
    (diagnostic : Diagnostic) :
    { u with log := u.log.report diagnostic } = t.announced d (u.log.report diagnostic) := by
  generalize u.log = log at isAnnounced ⊢
  subst isAnnounced
  simp only [announced, announcement_congr (Log.filter_report diagnostic log)]

theorem publish_announced (d : Descriptor) (s : Session σ η) :
    ∃ log : Log, log.filter = s.log.filter ∧ publish d s = (.ok (), s.announced d log) := by
  let registered : Event := .registered d.name d.start d.stopOrStart
  let posted : Event := .posted d.name d.start d.stopOrStart
  have first : (s.listener.receive registered s.log).filter = s.log.filter := filter_receive ..
  have second : (s.listener.receive posted (s.listener.receive registered s.log)).filter =
    s.log.filter := (filter_receive ..).trans first
  cases wants : s.listener.wantsCode s.log (s.events ++ [registered]) with
  | true =>
    refine ⟨_, second, Prod.ext rfl ?_⟩
    simp [publish, tell, announced, announcement, registered, posted, wants,
      wantsCode_congr s.listener first, wantsCode_congr s.listener second]
  | false =>
    refine ⟨_, first, Prod.ext rfl ?_⟩
    simp [publish, tell, announced, announcement, registered, wants,
      wantsCode_congr s.listener first]

section

variable [Sink σ]

theorem displacement_logs (start : Address) (s : Session σ η) :
    ∃ log, displacement start s =
      (.ok ((start.offsetFrom (Sink.base s.sink)).getD 0), { s with log := log }) := by
  rw [displacement, Action.bind_of_ok (Action.get_apply s)]
  cases start.offsetFrom (Sink.base s.sink) with
  | some offset => exact ⟨s.log, rfl⟩
  | none => exact ⟨_, rfl⟩

/-! ### Opening a stub -/

/-- Opening is refused before or after the registration, or the stub is open. -/
inductive Opening (group name : String) (s : Session σ η) : Except Fault Mark → Session σ η → Prop
  | refused (fault : Fault) {t : Session σ η} : s.Quiet t → Opening group name s (.error fault) t
  | abandoned (fault : Fault) (start : Address) {t : Session σ η} :
    Quiet { s with registry := s.registry.push (.create group name start none) } t →
      Opening group name s (.error fault) t
  | opened (start : Address) {t : Session σ η} : s.active = none →
    Quiet { s with
      registry := s.registry.push (.create group name start none)
      active := some ⟨s.registry.size⟩ } t →
      Opening group name s (.ok ⟨⟨s.registry.size⟩, name⟩) t

-- Only the last step marks the stub as open. Whatever fails between the registration and it leaves
-- a descriptor without an end that nobody will complete.
theorem openStub_ends (group name : String) (s : Session σ η) :
    (openStub group name).Ends s (Opening group name s) := by
  rw [openStub, Action.Ends, Action.get_bind]
  cases active : s.active with
  | some handle => exact .refused _ (.refl s)
  | none =>
    refine Action.ends_bind (fun fault t ran => .refused fault (quiet_of_onSink ran)) ?_
    intro _ flushed ran
    have quiet := quiet_of_onSink ran
    rw [Action.Ends, pc_bind]
    refine Action.ends_bind (fun fault t ran => ?_) ?_
    · cases onRegistry_error ran
      exact .refused fault quiet
    intro handle _ ran
    obtain ⟨_, registered, rfl⟩ := onRegistry_eq_ok_iff.mp ran
    obtain ⟨-, -, -, rfl, rfl⟩ := Registry.register_eq_ok_iff.mp registered
    obtain ⟨sink, memory, log, rfl⟩ := quiet
    have known := Registry.descriptor_push s.registry (.create group name (Sink.pc sink) none)
    rw [Action.Ends, Action.bind_of_ok (descriptor_eq_ok_iff.mpr ⟨known, rfl⟩)]
    have registered : Quiet { s with
        registry := s.registry.push (.create group name (Sink.pc sink) none) } { s with
        registry := s.registry.push (.create group name (Sink.pc sink) none)
        sink := sink, memory := memory, log := log } := ⟨sink, memory, log, rfl⟩
    refine Action.ends_bind
      (fun fault t ran => .abandoned fault _ (registered.trans (quiet_of_runProlog ran))) ?_
    intro _ _ ran
    have emitted := registered.trans (quiet_of_runProlog ran)
    refine Action.ends_bind
      (fun fault t ran => .abandoned fault _ (emitted.trans (quiet_of_onSink ran))) ?_
    intro _ _ ran
    have flushedAgain := emitted.trans (quiet_of_onSink ran)
    rw [Action.Ends, pc_bind]
    refine Action.ends_bind (fun fault t ran => ?_) ?_
    · cases onRegistry_error ran
      exact .abandoned fault _ flushedAgain
    intro _ _ ran
    obtain ⟨_, updated, rfl⟩ := onRegistry_eq_ok_iff.mp ran
    obtain ⟨sink, memory, log, rfl⟩ := flushedAgain
    obtain ⟨moved, rfl⟩ := Registry.update_push_eq_ok_iff.mp updated
    obtain ⟨-, -, rfl⟩ := Descriptor.setStart_eq_ok_iff.mp moved
    exact .opened _ active ⟨sink, memory, _, rfl⟩

/-! ### Closing a stub -/

def Completes (s : Session σ η) (handle : Handle) (d : Descriptor) (sink : σ) : Prop :=
  ∃ opened, s.active = some handle ∧ s.registry.descriptors[handle.index]? = some opened ∧
    Sink.flush s.sink = (.ok (), sink) ∧ ¬ Sink.pc sink < opened.start ∧
    d = { opened with
      stop := some (Sink.pc sink)
      displacement := (opened.start.offsetFrom (Sink.base sink)).getD 0 }

def completed (handle : Handle) (d : Descriptor) (s : Session σ η) : Session σ η :=
  { s with registry := s.registry.put handle d, active := none }

/-- Closing is refused, or the stub is complete. Then it is published as well, unless the epilog
aborts. -/
inductive Closing (mark : Mark) (s : Session σ η) : Except Fault Descriptor → Session σ η → Prop
  | refused (fault : Fault) {t : Session σ η} : s.Quiet t → Closing mark s (.error fault) t
  | aborted (cause : Abort) (d : Descriptor) {t : Session σ η} :
    s.Completes mark.handle d t.sink → (s.completed mark.handle d).Quiet t →
      Closing mark s (.error (.abort cause)) t
  | closed (d : Descriptor) {t u : Session σ η} : s.Completes mark.handle d t.sink →
    (s.completed mark.handle d).Quiet t → u = t.announced d u.log → Closing mark s (.ok d) u

theorem closeStub_ends (mark : Mark) (s : Session σ η) :
    (closeStub mark).Ends s (Closing mark s) := by
  rw [closeStub, Action.Ends, Action.get_bind]
  split
  · exact .refused _ (.refl s)
  · next active =>
    refine Action.ends_bind (fun fault t ran => .refused fault (quiet_of_onSink ran)) ?_
    intro _ _ ran
    obtain ⟨sink, flushed, rfl⟩ := onSink_eq_iff.mp ran
    rw [Action.Ends, pc_bind]
    refine Action.ends_bind (fun fault t ran => ?_) ?_
    · cases descriptor_snd ran
      exact .refused fault ⟨sink, s.memory, s.log, rfl⟩
    intro found _ ran
    obtain ⟨isFound, rfl⟩ := descriptor_eq_ok_iff.mp ran
    obtain ⟨log, displaced⟩ := displacement_logs found.start { s with sink := sink }
    rw [Action.Ends, Action.bind_of_ok displaced]
    refine Action.ends_bind (fun fault t ran => ?_) ?_
    · cases onRegistry_error ran
      exact .refused fault ⟨sink, s.memory, log, rfl⟩
    intro d _ ran
    obtain ⟨_, finished, rfl⟩ := onRegistry_eq_ok_iff.mp ran
    obtain ⟨opened, known, ordered, isComplete, rfl⟩ := Registry.finish_eq_ok_iff.mp finished
    obtain rfl : found = opened :=
      Option.some.inj ((Registry.descriptor_eq_ok_iff.mp isFound).symm.trans known)
    have completes : s.Completes mark.handle d sink :=
      ⟨found, not_not.mp active, known, flushed, ordered, isComplete⟩
    rw [Action.Ends, Action.modify_bind]
    refine Action.ends_bind (fun fault t ran => ?_) ?_
    · obtain ⟨cause, rfl⟩ := runEpilog_error ran
      obtain ⟨memory, log, rfl⟩ := exists_log_of_runEpilog ran
      exact .aborted cause d completes ⟨sink, memory, log, rfl⟩
    intro _ t ran
    obtain ⟨log, -, published⟩ := publish_announced d t
    rw [Action.Ends, Action.bind_of_ok published]
    obtain ⟨memory, logged, rfl⟩ := exists_log_of_runEpilog ran
    exact .closed d completes ⟨sink, memory, logged, rfl⟩ rfl

/-! ### Stubs from the archive -/

/-- A look-up misses the stub, finds it or is refused. It selects a stub of the archive at most. -/
inductive Looking (stub : Stub) (s : Session σ η) :
    Except Fault (Option ArchivedStub) → Session σ η → Prop
  | missed (log : Log) :
    (∀ a, s.archive = some a → a.find stub = .ok (false, a.rested)) →
    Looking stub s (.ok none) { s with archive := s.archive.map Archive.rested, log := log }
  | found (archived : ArchivedStub) (archive : Option Archive) (log : Log) :
    archive.map Archive.rested = s.archive.map Archive.rested →
    Looking stub s (.ok (some archived)) { s with archive := archive, log := log }
  | refused (fault : Fault) (archive : Option Archive) (log : Log) :
    archive.map Archive.rested = s.archive.map Archive.rested →
    Looking stub s (.error fault) { s with archive := archive, log := log }

omit [Sink σ] in
theorem lookUp_ends (stub : Stub) (s : Session σ η) :
    (lookUp stub).Ends s (Looking stub s) := by
  rw [Action.Ends]
  cases attached : s.archive with
  | none =>
    simp only [lookUp, attached]
    have missed : Looking stub s _ _ := .missed s.log (by simp [attached])
    rwa [attached, Option.map_none, ← attached] at missed
  | some a =>
    cases looked : a.find stub with
    | error fault =>
      simp only [lookUp, attached, looked]
      exact .refused fault s.archive s.log rfl
    | ok result =>
      obtain ⟨hit, b⟩ := result
      have same : (some b).map Archive.rested = s.archive.map Archive.rested := by
        rw [attached, Option.map_some, Option.map_some, Archive.find_eq_ok_rested looked]
      cases hit with
      | false =>
        simp only [lookUp, attached, looked]
        obtain ⟨-, -, rfl⟩ := Archive.find_eq_ok_iff.mp looked
        have misses : ∀ b, s.archive = some b → b.find stub = .ok (false, b.rested) := by
          intro b isAttached
          cases attached.symm.trans isAttached
          exact looked
        have missed := Looking.missed (s.log.report (.archiveLookup a.kind stub false)) misses
        rwa [attached, Option.map_some] at missed
      | true =>
        simp only [lookUp, attached, looked]
        cases b.retrieveAll with
        | error fault => exact .refused fault _ _ same
        | ok archived => exact .found archived _ _ same

inductive Adopting (name : String) (start stop : Address) (s : Session σ η) :
    Except Fault Descriptor → Session σ η → Prop
  | refused (fault : Fault) : Adopting name start stop s (.error fault) s
  | adopted {t u : Session σ η} : ¬ stop < start →
    Quiet { s with
      registry := s.registry.push (complete (Sink.base s.sink) name start stop true) } t →
    u = t.announced (complete (Sink.base s.sink) name start stop true) u.log →
      Adopting name start stop s (.ok (complete (Sink.base s.sink) name start stop true)) u

theorem adopt_ends (name : String) (start stop : Address) (s : Session σ η) :
    (adopt name start stop).Ends s (Adopting name start stop s) := by
  rw [adopt]
  refine Action.ends_bind (fun fault t ran => onRegistry_error ran ▸ .refused fault) ?_
  intro handle _ ran
  obtain ⟨_, registered, rfl⟩ := onRegistry_eq_ok_iff.mp ran
  obtain ⟨-, ordered, -, rfl, rfl⟩ := Registry.register_eq_ok_iff.mp registered
  obtain ⟨_, displaced⟩ := displacement_logs start { s with
    registry := s.registry.push (.create routinesGroup name start (some stop)) }
  rw [Action.Ends, Action.bind_of_ok displaced, Action.bind_of_ok (onRegistry_eq_ok_iff.mpr
    ⟨_, Registry.markHydrated_push s.registry _ _, rfl⟩)]
  obtain ⟨_, described, _, _, _, rfl⟩ := describe_none_quiet _ _
  rw [Action.bind_of_ok described]
  obtain ⟨_, -, published⟩ := publish_announced _ _
  rw [Action.bind_of_ok published]
  exact .adopted (ordered stop rfl) ⟨_, _, _, rfl⟩ rfl

inductive Hydration (stub : Stub) (extra : Nat) (s : Session σ η) :
    Except Fault (Option StubEntries) → Session σ η → Prop
  | missed {t : Session σ η} :
    (∀ a, s.archive = some a → a.find stub = .ok (false, a.rested)) →
    Quiet { s with archive := s.archive.map Archive.rested } t → Hydration stub extra s (.ok none) t
  | refused (fault : Fault) (archive : Option Archive) {t : Session σ η} :
    archive.map Archive.rested = s.archive.map Archive.rested →
    Quiet { s with archive := archive } t → Hydration stub extra s (.error fault) t
  | adopted (archive : Option Archive) (archived : ArchivedStub) {t u : Session σ η} :
    archive.map Archive.rested = s.archive.map Archive.rested → ¬ archived.stop < archived.start →
    Quiet { s with
      archive := archive
      registry := s.registry.push
        (complete (Sink.base s.sink) stub.name archived.start archived.stop true) } t →
    u = t.announced (complete (Sink.base s.sink) stub.name archived.start archived.stop true) u.log →
      Hydration stub extra s
        (.ok (some ⟨stub, archived.start, archived.stop, archived.entries, true⟩)) u

theorem hydrate?_ends (stub : Stub) (extra : Nat) (s : Session σ η) :
    (hydrate? stub extra).Ends s (Hydration stub extra s) := by
  rw [hydrate?]
  refine Action.ends_bind (fun fault t ran => ?_) ?_
  · cases (lookUp_ends stub s).of_eq ran with
    | refused _ archive log same => exact .refused fault archive same ⟨s.sink, s.memory, log, rfl⟩
  intro archived? t ran
  cases (lookUp_ends stub s).of_eq ran with
  | missed log missed => exact .missed missed ⟨s.sink, s.memory, log, rfl⟩
  | found archived archive log same =>
    have looked : Quiet { s with archive := archive } { s with archive := archive, log := log } :=
      ⟨s.sink, s.memory, log, rfl⟩
    dsimp only
    split
    · exact .refused _ archive same looked
    refine Action.ends_bind (fun fault u ran => ?_) ?_
    · cases (adopt_ends ..).of_eq ran with
      | refused => exact .refused fault archive same looked
    intro d u ran
    cases (adopt_ends ..).of_eq ran with
    | adopted ordered quiet isAnnounced =>
      obtain ⟨sink, memory, log, rfl⟩ := quiet
      rw [Action.Ends, report_bind]
      refine .adopted archive archived same ordered ⟨sink, memory, log, rfl⟩ ?_
      exact announced_report isAnnounced _

/-! ### Entries -/

def entered (addresses : List Address) (log : Log) (s : Session σ η) : Session σ η :=
  { s with events := s.events ++ addresses.map Event.address, log := log }

omit [Sink σ] in
theorem tellAll_entered (addresses : List Address) (s : Session σ η) :
    tellAll (addresses.map Event.address) s =
      s.entered addresses (tellAll (addresses.map Event.address) s).log := by
  induction addresses generalizing s with
  | nil => simp [tellAll, entered]
  | cons address rest ih =>
    have later := ih (s.tell (.address address))
    rw [tellAll, List.map_cons, List.foldl_cons, ← tellAll, later]
    simp [entered, tell]

omit [Sink σ] in
theorem filter_tellAll (events : List Event) (s : Session σ η) :
    (tellAll events s).log.filter = s.log.filter := by
  induction events generalizing s with
  | nil => rfl
  | cons event rest ih => exact (ih (s.tell event)).trans (filter_receive s.listener event s.log)

inductive Committing (stub : Stub) (start stop : Address) (extras : List Address)
    (s : Session σ η) : Except Fault Unit → Session σ η → Prop
  | refused (fault : Fault) (a : Archive) : s.archive = some a →
    a.store stub start stop extras = .error fault →
    Committing stub start stop extras s (.error fault) s
  | unattached (log : Log) : s.archive = none →
    Committing stub start stop extras s (.ok ()) (s.entered (start :: extras) log)
  | stored (a b : Archive) (log : Log) : s.archive = some a →
    a.store stub start stop extras = .ok b →
    Committing stub start stop extras s (.ok ())
      (entered (start :: extras) log { s with archive := some b })

omit [Sink σ] in
theorem commit_ends (stub : Stub) (start stop : Address) (extras : List Address)
    (s : Session σ η) :
    (commit stub start stop extras).Ends s (Committing stub start stop extras s) := by
  rw [Action.Ends, commit]
  cases attached : s.archive with
  | none =>
    have skipped : archiveStub stub start stop extras s = (.ok (), s) := by
      simp only [archiveStub, attached]
    rw [Action.bind_of_ok skipped, Action.modify_apply, tellAll_entered]
    exact .unattached _ attached
  | some a =>
    cases stored : a.store stub start stop extras with
    | error fault =>
      have refused : archiveStub stub start stop extras s = (.error fault, s) := by
        simp only [archiveStub, attached, stored]
      rw [Action.bind_of_error refused]
      exact .refused fault a attached stored
    | ok b =>
      have stores : archiveStub stub start stop extras s = (.ok (), { s with
          archive := some b
          log := s.log.report (.archived stub start stop extras.length a.addresses.length) }) := by
        simp only [archiveStub, attached, stored]
      rw [Action.bind_of_ok stores, Action.modify_apply, tellAll_entered]
      exact .stored a b _ attached stored

end

end Session

end RuntimeStubs
