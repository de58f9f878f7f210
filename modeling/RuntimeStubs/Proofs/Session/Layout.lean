import RuntimeStubs.Proofs.Code.Calls
import RuntimeStubs.Proofs.Session.Operations
import RuntimeStubs.Proofs.Session.Requests

/-! Where the code of fresh stubs lies.

Sessions work one after another over one code buffer. A survey follows them and keeps a plot for
every stub that they complete: the descriptor, the buffer when opening the stub returned and the
buffer when closing it was called. Nothing in a session depends on the survey (`session_ask`). Main
statement (`stubs_placed`): the range of a fresh stub holds what was queued between these two
moments and nothing else, now and for ever, and the ranges lie in the order in which the stubs were
opened. -/

set_option autoImplicit false

namespace RuntimeStubs

/-- The prolog writes to the buffer, but only by calling it. -/
def Hooks.Writes {η : Type} (hooks : Hooks CodeBuffer η) : Prop :=
  ∀ d (b : CodeBuffer) memory, b.Wrote (hooks.prolog d (b, memory)).2.1

namespace Session

variable {η : Type} {s t : Session CodeBuffer η}

def Request.Writes : Request CodeBuffer → Prop
  | .generate _ _ body => body.Respects CodeBuffer.Wrote
  | .emit code => code.Respects CodeBuffer.Wrote
  | _ => True

theorem admits_wrote : Admits fun s t : Session CodeBuffer η =>
    s.hooks.Writes → t.hooks = s.hooks ∧ s.sink.Wrote t.sink where
  refl s _ := ⟨rfl, .refl s.sink⟩
  trans first second writes := by
    obtain ⟨hooks, wrote⟩ := first writes
    obtain ⟨hooksAgain, wroteAgain⟩ := second (hooks ▸ writes)
    exact ⟨hooksAgain.trans hooks, wrote.trans wroteAgain⟩
  silent := by
    rintro s t ⟨_, _, _, _, rfl⟩ -
    exact ⟨rfl, .refl s.sink⟩
  flush s _ := ⟨rfl, CodeBuffer.wrote_flush s.sink⟩
  prolog d s writes := ⟨rfl, writes d s.sink s.memory⟩
  call s _ _ := ⟨rfl, .refl s.sink⟩
  request s _ _ _ _ := ⟨rfl, .refl s.sink⟩
  active s _ _ := ⟨rfl, .refl s.sink⟩

/-- What goes on beside the open stub. The registry gets one descriptor at most, which is none of a
stub that has just been closed. -/
structure Aside (s t : Session CodeBuffer η) : Prop where
  hooks : t.hooks = s.hooks
  wrote : s.sink.Wrote t.sink
  active : t.active = s.active
  registry : t.registry = s.registry ∨
    ∃ d, (d.stop = none ∨ d.hydrated = true) ∧ t.registry = s.registry.push d

theorem aside_openStub (writes : s.hooks.Writes) {group name : String} {fault : Fault}
    (failed : openStub group name s = (.error fault, t)) : s.Aside t := by
  have wrote := admits_wrote.openStub group name s writes
  rw [failed] at wrote
  cases (openStub_ends group name s).of_eq failed with
  | refused _ quiet =>
    obtain ⟨_, _, _, rfl⟩ := quiet
    exact ⟨rfl, wrote.2, rfl, .inl rfl⟩
  | abandoned _ start quiet =>
    obtain ⟨_, _, _, rfl⟩ := quiet
    exact ⟨rfl, wrote.2, rfl, .inr ⟨_, .inl rfl, rfl⟩⟩

theorem aside_hydrate? (writes : s.hooks.Writes) (stub : Stub) (extra : Nat) :
    s.Aside (hydrate? stub extra s).2 := by
  obtain ⟨hooks, wrote⟩ := admits_wrote.hydrate? stub extra s writes
  rcases ran : hydrate? stub extra s with ⟨result, t⟩
  rw [ran] at hooks wrote
  cases (hydrate?_ends stub extra s).of_eq ran with
  | missed _ quiet | refused _ _ _ quiet =>
    obtain ⟨_, _, _, rfl⟩ := quiet
    exact ⟨hooks, wrote, rfl, .inl rfl⟩
  | adopted archive archived _ _ quiet isAnnounced =>
    obtain ⟨_, _, _, rfl⟩ := quiet
    generalize t.log = log at isAnnounced
    obtain rfl := isAnnounced
    refine ⟨hooks, wrote, rfl, .inr ⟨_, ?_, rfl⟩⟩
    exact .inr rfl

theorem aside_commit (writes : s.hooks.Writes) (stub : Stub) (start stop : Address)
    (extras : List Address) : s.Aside (commit stub start stop extras s).2 := by
  obtain ⟨hooks, wrote⟩ := admits_wrote.commit stub start stop extras s writes
  refine ⟨hooks, wrote, ?_, .inl ?_⟩ <;>
    rcases ran : commit stub start stop extras s with ⟨result, t⟩ <;>
    cases (commit_ends stub start stop extras s).of_eq ran <;> rfl

theorem aside_onSink {α : Type} {body : Action CodeBuffer α}
    (writes : body.Respects CodeBuffer.Wrote) (s : Session CodeBuffer η) :
    s.Aside (onSink body s).2 :=
  ⟨rfl, writes s.sink, rfl, .inl rfl⟩

end Session

/-- A stub that has been completed. -/
structure Plot where
  handle : Handle
  d : Descriptor
  /-- The buffer when opening the stub returned. -/
  opened : CodeBuffer
  /-- The buffer when closing the stub was called. -/
  closed : CodeBuffer
  deriving DecidableEq, Repr

/-- The place of a completed stub in a buffer. -/
structure Plot.Lies (base : Address) (b : CodeBuffer) (p : Plot) : Prop where
  start : p.d.start = base.add p.opened.size
  stop : p.d.stop = some (base.add p.closed.tape.length)
  displacement : p.d.displacement = (p.d.start.offsetFrom base).getD 0
  flushed : p.opened.queue = []
  wrote : p.opened.Wrote p.closed
  since : p.closed.Wrote b
  committed : p.closed.tape <+: b.code

namespace Plot.Lies

variable {base : Address} {b c : CodeBuffer} {p q : Plot}

theorem later (lies : p.Lies base b) (wrote : b.Wrote c) : p.Lies base c :=
  { lies with
    since := lies.since.trans wrote
    committed := lies.committed.trans wrote.extends.code }

theorem extent (lies : p.Lies base b) : p.opened.size ≤ p.closed.tape.length := by
  rw [CodeBuffer.size, ← CodeBuffer.tape_of_queue lies.flushed]
  exact lies.wrote.tape_prefix.length_le

theorem bounds (lies : p.Lies base b) (inside : base.raw.toNat + b.size < UInt64.size) :
    ∃ stop, p.d.stop = some stop ∧ base ≤ p.d.start ∧ p.d.start ≤ stop ∧
      stop.raw.toNat ≤ base.raw.toNat + b.size ∧
      p.d.displacement = p.d.start.raw.toNat - base.raw.toNat := by
  have extent := lies.extent
  have fits : p.closed.tape.length ≤ b.size := lies.committed.length_le
  have insideFirst : base.raw.toNat + p.opened.size < UInt64.size := by omega
  have insideLast : base.raw.toNat + p.closed.tape.length < UInt64.size := by omega
  refine ⟨_, lies.stop, ?_, ?_, ?_, ?_⟩
  · rw [lies.start, Address.le_iff, Address.toNat_add_of_lt insideFirst]
    exact Nat.le_add_right ..
  · rw [lies.start, Address.le_iff, Address.toNat_add_of_lt insideFirst,
      Address.toNat_add_of_lt insideLast]
    exact Nat.add_le_add_left extent _
  · rw [Address.toNat_add_of_lt insideLast]
    exact Nat.add_le_add_left fits _
  · rw [lies.displacement, lies.start, Address.offsetFrom_add insideFirst,
      Address.toNat_add_of_lt insideFirst, Nat.add_sub_cancel_left, Option.getD_some]

-- The tape at the opening is all committed, so the calls that follow write the code of the stub.
theorem reads (lies : p.Lies base b) (isBase : b.base = base)
    (inside : base.raw.toNat + b.size < UInt64.size) {calls : List CodeBuffer.Call}
    (written : p.closed = p.opened.perform calls) {stop : Address} (ends : p.d.stop = some stop) :
    b.codeBytes p.d.start stop =
      some (CodeBuffer.encoding (CodeBuffer.queued p.opened.repeatPending calls)) := by
  have whole : p.closed.tape = p.opened.code ++
      CodeBuffer.encoding (CodeBuffer.queued p.opened.repeatPending calls) := by
    rw [written, CodeBuffer.tape_perform, CodeBuffer.tape_of_queue lies.flushed]
  have committed := lies.committed
  obtain rfl := Option.some.inj (lies.stop.symm.trans ends)
  subst isBase
  rw [whole] at committed
  rw [lies.start, whole]
  exact CodeBuffer.codeBytes_eq committed inside

theorem apart (lies : p.Lies base b) (other : q.Lies base b) (wrote : p.closed.Wrote q.opened)
    (inside : base.raw.toNat + b.size < UInt64.size) {stop : Address}
    (ends : p.d.stop = some stop) : stop ≤ q.d.start := by
  have behind : p.closed.tape.length ≤ q.opened.size := by
    rw [CodeBuffer.size, ← CodeBuffer.tape_of_queue other.flushed]
    exact wrote.tape_prefix.length_le
  have extent := other.extent
  have fits : q.closed.tape.length ≤ b.size := other.committed.length_le
  obtain rfl := Option.some.inj (lies.stop.symm.trans ends)
  rw [other.start, Address.le_iff, Address.toNat_add_of_lt (by omega),
    Address.toNat_add_of_lt (by omega)]
  exact Nat.add_le_add_left behind _

end Plot.Lies

/-- A session, and what is remembered of the stubs in its buffer. The hooks of later sessions may be
others, with a memory of the same type. -/
structure Survey (η : Type) where
  session : Session CodeBuffer η
  /-- The buffer when a stub was last opened. -/
  opened : CodeBuffer
  plots : List Plot

namespace Survey

variable {η α : Type}

def start (s : Session CodeBuffer η) : Survey η := ⟨s, s.sink, []⟩

def onSession (action : Action (Session CodeBuffer η) α) : Action (Survey η) α :=
  Action.focus session (fun s v => { v with session := s }) action

def openStub (group name : String) : Action (Survey η) Mark := do
  let mark ← onSession (Session.openStub group name)
  Action.modify fun v => { v with opened := v.session.sink }
  return mark

def close (s : Session CodeBuffer η) (v : Survey η) : Survey η :=
  { v with
    session := s
    plots := v.plots ++ (v.session.registry.completedSince s.registry).map
      fun (handle, d) => ⟨handle, d, v.opened, v.session.sink⟩ }

def closeStub (mark : Mark) : Action (Survey η) Descriptor := fun v =>
  let (result, s) := Session.closeStub mark v.session
  (result, v.close s)

def generate (stub : Stub) (extra : Nat) (body : Action CodeBuffer (List Address)) :
    Action (Survey η) StubEntries := do
  match ← onSession (Session.hydrate? stub extra) with
  | some entries => return entries
  | none => do
    let mark ← openStub Session.routinesGroup stub.name
    let entries ← onSession (Session.onSink body)
    if entries.length ≠ extra then
      Action.fail (.entryCountMismatch stub extra entries.length)
    else do
      let d ← closeStub mark
      onSession (Session.commit stub d.start d.stopOrStart entries)
      return ⟨stub, d.start, d.stopOrStart, entries, false⟩

def ask (v : Survey η) : Session.Request CodeBuffer → Survey η
  | .openStub group name => (openStub group name v).2
  | .closeStub mark => (closeStub mark v).2
  | .generate stub extra body => (generate stub extra body v).2
  | request => { v with session := (request.perform v.session).2 }

/-- What may happen to a buffer: its session serves a request, another session takes it over, or
somebody else changes the registry, but for the descriptor of the open stub. -/
inductive Move : Survey η → Survey η → Prop
  | request (v : Survey η) (request : Session.Request CodeBuffer) : request.Writes →
    Move v (v.ask request)
  | session (v : Survey η) (s : Session CodeBuffer η) : s.sink = v.session.sink →
    s.active = none → s.hooks.Writes → Move v { v with session := s }
  | others (v : Survey η) (registry : Registry) (log : Log) :
    (∀ handle, v.session.active = some handle →
      registry.get? handle = v.session.registry.get? handle) →
    Move v { v with session := { v.session with registry := registry, log := log } }

/-! ### The session under a survey -/

def Mirrors (action : Action (Survey η) α) (inner : Action (Session CodeBuffer η) α) : Prop :=
  ∀ v, (action v).1 = (inner v.session).1 ∧ (action v).2.session = (inner v.session).2

theorem mirrors_onSession (action : Action (Session CodeBuffer η) α) :
    Mirrors (onSession action) action := fun _ => ⟨rfl, rfl⟩

theorem Mirrors.bind {β : Type} {action : Action (Survey η) α}
    {inner : Action (Session CodeBuffer η) α} {next : α → Action (Survey η) β}
    {innerNext : α → Action (Session CodeBuffer η) β} (first : Mirrors action inner)
    (rest : ∀ value, Mirrors (next value) (innerNext value)) :
    Mirrors (action >>= next) (inner >>= innerNext) := by
  intro v
  obtain ⟨same, session⟩ := first v
  rcases ran : action v with ⟨fault | value, w⟩ <;> rw [ran] at same session
  · have innerRan : inner v.session = (.error fault, w.session) := Prod.ext same.symm session.symm
    rw [Action.bind_of_error ran, Action.bind_of_error innerRan]
    exact ⟨rfl, rfl⟩
  · have innerRan : inner v.session = (.ok value, w.session) := Prod.ext same.symm session.symm
    rw [Action.bind_of_ok ran, Action.bind_of_ok innerRan]
    exact rest value w

theorem mirrors_openStub (group name : String) :
    Mirrors (openStub group name : Action (Survey η) Mark) (Session.openStub group name) := by
  rw [← bind_pure (Session.openStub group name)]
  exact (mirrors_onSession _).bind fun _ _ => ⟨rfl, rfl⟩

theorem mirrors_generate (stub : Stub) (extra : Nat) (body : Action CodeBuffer (List Address)) :
    Mirrors (generate stub extra body : Action (Survey η) StubEntries)
      (Session.generate stub extra body) := by
  refine (mirrors_onSession _).bind fun hydrated? => ?_
  cases hydrated? with
  | some entries => exact fun _ => ⟨rfl, rfl⟩
  | none =>
    refine (mirrors_openStub _ _).bind fun mark => (mirrors_onSession _).bind fun entries => ?_
    split
    · exact fun _ => ⟨rfl, rfl⟩
    · refine Mirrors.bind (fun _ => ⟨rfl, rfl⟩) fun d => ?_
      exact (mirrors_onSession _).bind fun _ _ => ⟨rfl, rfl⟩

theorem session_ask (v : Survey η) (request : Session.Request CodeBuffer) :
    (v.ask request).session = (request.perform v.session).2 := by
  cases request with
  | openStub group name => exact (mirrors_openStub group name v).2
  | generate stub extra body => exact (mirrors_generate stub extra body v).2
  | closeStub | hydrate | commit | emit => rfl

/-! ### The invariant -/

/-- The open stub begins where the buffer was when it was opened, behind all plots. -/
structure Open (base : Address) (v : Survey η) (d : Descriptor) : Prop where
  start : d.start = base.add v.opened.size
  stop : d.stop = none
  fresh : d.hydrated = false
  flushed : v.opened.queue = []
  wrote : v.opened.Wrote v.session.sink
  behind : ∀ p ∈ v.plots, p.closed.Wrote v.opened

structure Sound (base : Address) (capacity : Nat) (v : Survey η) : Prop where
  isBase : v.session.sink.base = base
  room : v.session.sink.capacity = capacity
  fits : v.session.sink.size ≤ capacity
  writes : v.session.hooks.Writes
  opened : ∀ handle, v.session.active = some handle →
    ∃ d, v.session.registry.get? handle = some d ∧ v.Open base d
  plots : ∀ p ∈ v.plots, p.Lies base v.session.sink
  apart : v.plots.Pairwise fun p q => p.closed.Wrote q.opened

theorem Sound.tidy {base : Address} {capacity : Nat} {v : Survey η}
    (sound : v.Sound base capacity) : v.session.Tidy := by
  intro handle isActive
  obtain ⟨d, found, isOpen⟩ := sound.opened handle isActive
  exact ⟨d, found, isOpen.stop⟩

/-- The plots grow by the stubs that are completed and do not come from an archive. -/
structure Grown (v w : Survey η) : Prop where
  keeps : v.session.registry.Keeps w.session.registry
  plots : ∃ new, w.plots = v.plots ++ new ∧ ∀ handle d,
    (∃ p ∈ new, p.handle = handle ∧ p.d = d) ↔
      (handle, d) ∈ v.session.registry.completedSince w.session.registry ∧ d.hydrated = false

variable {base : Address} {capacity : Nat} {v w x : Survey η}

theorem Grown.trans (first : v.Grown w) (second : w.Grown x) : v.Grown x := by
  refine ⟨first.keeps.trans second.keeps, ?_⟩
  obtain ⟨new, grown, isNew⟩ := first.plots
  obtain ⟨more, grownAgain, areMore⟩ := second.plots
  refine ⟨new ++ more, by rw [grownAgain, grown, List.append_assoc], fun handle d => ?_⟩
  rw [Registry.mem_completedSince_trans_iff first.keeps second.keeps, or_and_right, ← isNew,
    ← areMore, ← exists_or]
  refine exists_congr fun p => ?_
  rw [List.mem_append, or_and_right]

theorem Sound.wrote (sound : v.Sound base capacity) (wrote : v.session.sink.Wrote w.session.sink)
    (hooks : w.session.hooks = v.session.hooks) (same : w.plots = v.plots)
    (opened : ∀ handle, w.session.active = some handle →
      ∃ d, w.session.registry.get? handle = some d ∧ w.Open base d) :
    w.Sound base capacity where
  isBase := wrote.extends.base.trans sound.isBase
  room := wrote.extends.capacity.trans sound.room
  fits := by
    have fits := wrote.extends.fits (sound.room ▸ sound.fits)
    rwa [wrote.extends.capacity, sound.room] at fits
  writes := hooks ▸ sound.writes
  opened := opened
  plots p member := (sound.plots p (same ▸ member)).later wrote
  apart := same ▸ sound.apart

def Advances (base : Address) (capacity : Nat) (v w : Survey η) : Prop :=
  v.Sound base capacity → w.Sound base capacity ∧ v.Grown w

theorem Advances.trans (first : v.Advances base capacity w) (second : w.Advances base capacity x) :
    v.Advances base capacity x := by
  intro sound
  obtain ⟨next, grown⟩ := first sound
  obtain ⟨last, grownAgain⟩ := second next
  exact ⟨last, grown.trans grownAgain⟩

/-! ### What operations do to a survey -/

-- Whatever goes on beside the open stub leaves its descriptor and the plots alone.
theorem Sound.aside {s : Session CodeBuffer η} (sound : v.Sound base capacity)
    (aside : v.session.Aside s) : Sound base capacity { v with session := s } := by
  refine sound.wrote aside.wrote aside.hooks rfl fun handle isActive => ?_
  obtain ⟨d, found, isOpen⟩ := sound.opened handle (aside.active ▸ isActive)
  refine ⟨d, ?_, { isOpen with wrote := isOpen.wrote.trans aside.wrote }⟩
  rcases aside.registry with same | ⟨new, -, pushed⟩
  · rwa [same]
  · rw [pushed]
    exact Registry.get?_push_of_some found new

theorem grown_of_registry (plots : w.plots = v.plots)
    (registry : w.session.registry = v.session.registry ∨
      ∃ d, (d.stop = none ∨ d.hydrated = true) ∧
        w.session.registry = v.session.registry.push d) : v.Grown w := by
  suffices v.session.registry.Keeps w.session.registry ∧ ∀ handle d,
      (handle, d) ∈ v.session.registry.completedSince w.session.registry → d.hydrated = true by
    refine ⟨this.1, [], by rw [plots, List.append_nil], fun handle d => ?_⟩
    refine ⟨fun ⟨_, member, _⟩ => absurd member List.not_mem_nil, fun ⟨member, fresh⟩ => ?_⟩
    exact absurd ((this.2 handle d member).symm.trans fresh) (by decide)
  rcases registry with same | ⟨new, stale, pushed⟩
  · rw [same]
    refine ⟨.refl _, fun handle d member => ?_⟩
    rw [Registry.completedSince_of_descriptors rfl] at member
    cases member
  · rw [pushed]
    refine ⟨Registry.keeps_push _ new, fun handle d member => ?_⟩
    cases stop : new.stop with
    | none =>
      rw [Registry.completedSince_push_open stop] at member
      cases member
    | some bound =>
      rw [Registry.completedSince_push (by rw [Descriptor.isComplete, stop, Option.isSome_some]),
        List.mem_singleton] at member
      cases member
      exact stale.resolve_left (by rw [stop]; exact Option.some_ne_none bound)

theorem advances_aside {s : Session CodeBuffer η}
    (aside : v.session.hooks.Writes → v.session.Aside s) :
    v.Advances base capacity { v with session := s } := fun sound =>
  ⟨sound.aside (aside sound.writes), grown_of_registry rfl (aside sound.writes).registry⟩

theorem onSession_of_eq {action : Action (Session CodeBuffer η) α} {result : Except Fault α}
    {s : Session CodeBuffer η} (ran : action v.session = (result, s)) :
    onSession action v = (result, { v with session := s }) := by
  rw [onSession, Action.focus_apply, ran]

-- The buffer has just been flushed, so the stub begins where its committed code ends.
theorem Sound.openStub {group name : String} {mark : Mark} {s : Session CodeBuffer η}
    (sound : v.Sound base capacity)
    (ran : Session.openStub group name v.session = (.ok mark, s)) :
    Sound base capacity { v with session := s, opened := s.sink } := by
  obtain ⟨hooks, wrote⟩ := Session.admits_wrote.openStub group name v.session sound.writes
  rw [ran] at hooks wrote
  obtain ⟨-, -, -, -, pushed, sink, flushed⟩ := Session.openStub_ok ran
  refine sound.wrote wrote hooks rfl fun handle isActive => ?_
  have started : s.active = some ⟨v.session.registry.size⟩ := by
    cases (Session.openStub_ends group name v.session).of_eq ran with
    | opened start inactive quiet =>
      obtain ⟨_, _, _, rfl⟩ := quiet
      rfl
  obtain rfl : ⟨v.session.registry.size⟩ = handle := Option.some.inj (started.symm.trans isActive)
  refine ⟨.create group name (Sink.pc s.sink) none, ?_, ?_, rfl, rfl, ?_, .refl s.sink, ?_⟩
  · rw [pushed]
    exact Registry.get?_push_size ..
  · exact congrArg (Address.add · s.sink.size) (wrote.extends.base.trans sound.isBase)
  · exact (CodeBuffer.eq_of_flush flushed) ▸ rfl
  · intro p member
    exact (sound.plots p member).since.trans wrote

theorem advances_openStub (group name : String) :
    (openStub group name : Action (Survey η) Mark).Respects (Advances base capacity) := by
  intro v
  rcases ran : Session.openStub group name v.session with ⟨fault | mark, s⟩
  · rw [openStub, Action.bind_of_error (onSession_of_eq ran)]
    exact advances_aside fun writes => Session.aside_openStub writes ran
  · rw [openStub, Action.bind_of_ok (onSession_of_eq ran)]
    obtain ⟨-, -, -, -, pushed, -⟩ := Session.openStub_ok ran
    exact fun sound => ⟨sound.openStub ran, grown_of_registry rfl (.inr ⟨_, .inl rfl, pushed⟩)⟩

section

variable {handle : Handle} {d : Descriptor} {s : Session CodeBuffer η}

theorem Sound.completes {sink : CodeBuffer} (sound : v.Sound base capacity)
    (completes : v.session.Completes handle d sink) :
    ∃ old, v.session.registry.get? handle = some old ∧ v.Open base old ∧
      CodeBuffer.flush v.session.sink = (.ok (), sink) ∧
      d = { old with
        stop := some sink.pc
        displacement := (old.start.offsetFrom sink.base).getD 0 } := by
  obtain ⟨old, isActive, known, flushed, -, isClosed⟩ := completes
  obtain ⟨opened, found, isOpen⟩ := sound.opened handle isActive
  obtain rfl : old = opened := Option.some.inj (known.symm.trans found)
  exact ⟨old, found, isOpen, flushed, isClosed⟩

-- What is committed by the flush is the whole tape of the buffer, so that the stub ends where the
-- tape has ended.
theorem Sound.closed (sound : v.Sound base capacity)
    (completes : v.session.Completes handle d s.sink) (hooks : s.hooks = v.session.hooks)
    (inactive : s.active = none) : Sound base capacity { v with
      session := s
      plots := v.plots ++ [⟨handle, d, v.opened, v.session.sink⟩] } := by
  obtain ⟨old, found, isOpen, flushed, rfl⟩ := sound.completes completes
  have committed : s.sink.code = v.session.sink.tape := CodeBuffer.eq_of_flush flushed ▸ rfl
  have wrote : v.session.sink.Wrote s.sink := by
    have wrote := CodeBuffer.wrote_flush v.session.sink
    rwa [flushed] at wrote
  have isBase : s.sink.base = base := wrote.extends.base.trans sound.isBase
  have shut {open? : Handle → Prop} (other : Handle) (isOther : s.active = some other) :
      open? other := by
    rw [inactive] at isOther
    cases isOther
  have kept := sound.wrote (w := { v with session := s }) wrote hooks rfl shut
  refine { kept with opened := shut, plots := ?_, apart := ?_ }
  · refine List.forall_mem_append.mpr ⟨kept.plots, List.forall_mem_singleton.mpr ?_⟩
    refine ⟨isOpen.start, ?_, ?_, isOpen.flushed, isOpen.wrote, wrote, ?_⟩
    · rw [← committed, ← isBase]
      rfl
    · rw [← isBase]
    · exact committed ▸ List.prefix_rfl
  · refine List.pairwise_append.mpr ⟨sound.apart, List.pairwise_singleton .., ?_⟩
    intro p member q isLast
    rw [List.mem_singleton.mp isLast]
    exact isOpen.behind p member

theorem Sound.grown_closed (sound : v.Sound base capacity)
    (completes : v.session.Completes handle d s.sink)
    (registry : s.registry = v.session.registry.put handle d) : v.Grown { v with
      session := s
      plots := v.plots ++ [⟨handle, d, v.opened, v.session.sink⟩] } := by
  have completed := completes.completedSince sound.tidy
  obtain ⟨old, found, isOpen, -, rfl⟩ := sound.completes completes
  refine ⟨?_, _, rfl, fun other e => ?_⟩
  · rw [registry]
    have still : old.start ≤ old.start := Address.le_iff.mpr (Nat.le_refl _)
    refine Registry.keeps_put found ⟨rfl, rfl, still, fun complete => ?_⟩
    rw [Descriptor.isComplete, isOpen.stop] at complete
    cases complete
  · rw [registry, completed]
    simp only [List.mem_singleton, exists_eq_left, Prod.mk.injEq]
    constructor
    · rintro ⟨rfl, rfl⟩
      exact ⟨⟨rfl, rfl⟩, isOpen.fresh⟩
    · rintro ⟨⟨rfl, rfl⟩, -⟩
      exact ⟨rfl, rfl⟩

end

theorem advances_closeStub (mark : Mark) :
    (closeStub mark : Action (Survey η) Descriptor).Respects (Advances base capacity) := by
  intro v sound
  have wrote := Session.admits_wrote.closeStub mark v.session sound.writes
  rcases ran : Session.closeStub mark v.session with ⟨result, s⟩
  have surveyed : (closeStub mark v).2 = v.close s := by rw [closeStub, ran]
  rw [surveyed]
  rw [ran] at wrote
  have closed {d : Descriptor} (completes : v.session.Completes mark.handle d s.sink)
      (inactive : s.active = none)
      (registry : s.registry = v.session.registry.put mark.handle d) :
      (v.close s).Sound base capacity ∧ v.Grown (v.close s) := by
    rw [close, registry, completes.completedSince sound.tidy]
    exact ⟨sound.closed completes wrote.1 inactive, sound.grown_closed completes registry⟩
  cases (Session.closeStub_ends mark v.session).of_eq ran with
  | refused _ quiet =>
    obtain ⟨_, _, _, rfl⟩ := quiet
    rw [close, Registry.completedSince_of_descriptors rfl, List.map_nil, List.append_nil]
    exact advances_aside (fun _ => ⟨wrote.1, wrote.2, rfl, .inl rfl⟩) sound
  | aborted _ d completes quiet =>
    obtain ⟨_, _, _, rfl⟩ := quiet
    exact closed completes rfl rfl
  | closed d completes quiet isAnnounced =>
    generalize s.log = log at isAnnounced
    obtain ⟨_, _, _, rfl⟩ := quiet
    obtain rfl := isAnnounced
    exact closed completes rfl rfl

theorem advances_generate (stub : Stub) (extra : Nat) {body : Action CodeBuffer (List Address)}
    (writes : body.Respects CodeBuffer.Wrote) :
    (generate stub extra body : Action (Survey η) StubEntries).Respects
      (Advances base capacity) := by
  have rest {α : Type} (value : Except Fault α) :
      (Action.ofExcept value : Action (Survey η) α).Respects (Advances base capacity) :=
    fun _ sound => ⟨sound, grown_of_registry rfl (.inl rfl)⟩
  have hydrates : (onSession (Session.hydrate? stub extra) :
      Action (Survey η) (Option StubEntries)).Respects (Advances base capacity) :=
    fun _ => advances_aside fun writes => Session.aside_hydrate? writes stub extra
  refine hydrates.bind Advances.trans fun hydrated? => ?_
  cases hydrated? with
  | some entries => exact rest (.ok entries)
  | none =>
    refine (advances_openStub _ _).bind Advances.trans fun mark => ?_
    have emits : (onSession (Session.onSink body) :
        Action (Survey η) (List Address)).Respects (Advances base capacity) :=
      fun v => advances_aside fun _ => Session.aside_onSink writes v.session
    refine emits.bind Advances.trans fun entries => ?_
    split
    · exact rest (.error _)
    · refine (advances_closeStub mark).bind Advances.trans fun d => ?_
      have commits : (onSession (Session.commit stub d.start d.stopOrStart entries) :
          Action (Survey η) Unit).Respects (Advances base capacity) :=
        fun _ => advances_aside fun writes => Session.aside_commit writes stub _ _ _
      exact commits.bind Advances.trans fun _ => rest (.ok _)

theorem advances_ask {request : Session.Request CodeBuffer} (writes : request.Writes)
    (v : Survey η) : v.Advances base capacity (v.ask request) := by
  cases request with
  | openStub group name => exact advances_openStub group name v
  | closeStub mark => exact advances_closeStub mark v
  | generate stub extra body => exact advances_generate stub extra writes v
  | hydrate stub extra =>
    exact advances_aside fun writes => Session.aside_hydrate? writes stub extra
  | commit stub start stop extras =>
    exact advances_aside fun writes => Session.aside_commit writes stub start stop extras
  | emit code => exact advances_aside fun _ => Session.aside_onSink writes v.session

theorem Sound.move (sound : v.Sound base capacity) (move : Move v w) :
    w.Sound base capacity ∧ v.plots <+: w.plots := by
  cases move with
  | request request writes =>
    obtain ⟨next, grown⟩ := advances_ask writes v sound
    obtain ⟨new, isGrown, -⟩ := grown.plots
    exact ⟨next, new, isGrown.symm⟩
  | session s sink inactive writes =>
    refine ⟨⟨sink ▸ sound.isBase, sink ▸ sound.room, sink ▸ sound.fits, writes, ?_,
      sink ▸ sound.plots, sound.apart⟩, List.prefix_rfl⟩
    intro handle isActive
    rw [inactive] at isActive
    cases isActive
  | others registry log spared =>
    refine ⟨{ sound with opened := fun handle isActive => ?_ }, List.prefix_rfl⟩
    obtain ⟨d, found, isOpen⟩ := sound.opened handle isActive
    exact ⟨d, (spared handle isActive).trans found, { isOpen with }⟩

theorem Sound.moves (sound : v.Sound base capacity) (moves : Relation.ReflTransGen Move v w) :
    w.Sound base capacity ∧ v.plots <+: w.plots := by
  induction moves with
  | refl => exact ⟨sound, List.prefix_rfl⟩
  | tail _ move ih =>
    obtain ⟨last, kept⟩ := ih.1.move move
    exact ⟨last, ih.2.trans kept⟩

theorem sound_start {s : Session CodeBuffer η} (fresh : s.sink = .create base capacity)
    (inactive : s.active = none) (writes : s.hooks.Writes) : (start s).Sound base capacity where
  isBase := congrArg CodeBuffer.base fresh
  room := congrArg CodeBuffer.capacity fresh
  fits := Nat.le_trans (Nat.le_of_eq (congrArg CodeBuffer.size fresh)) (Nat.zero_le _)
  writes := writes
  opened handle isActive := by
    have isActive : s.active = some handle := isActive
    rw [inactive] at isActive
    cases isActive
  plots := List.forall_mem_nil _
  apart := .nil

/-- The stubs of a buffer lie one behind the other, each of them with its own code. The buffer may
be looked at in the middle of an operation as well, where more has been written to it. -/
theorem stubs_placed (inside : base.raw.toNat + capacity < UInt64.size)
    {s : Session CodeBuffer η} (fresh : s.sink = .create base capacity) (inactive : s.active = none)
    (writes : s.hooks.Writes) (earlier : Relation.ReflTransGen Move (start s) v)
    (later : Relation.ReflTransGen Move v w) :
    (∀ request, (v.ask request).session = (request.perform v.session).2) ∧
    (∀ request : Session.Request CodeBuffer, request.Writes →
      ∃ new, (v.ask request).plots = v.plots ++ new ∧ ∀ handle d,
        (∃ p ∈ new, p.handle = handle ∧ p.d = d) ↔
          (handle, d) ∈ v.session.registry.completedSince (v.ask request).session.registry ∧
            d.hydrated = false) ∧
    (∀ p ∈ v.plots, ∃ stop, p.d.stop = some stop ∧ base ≤ p.d.start ∧ p.d.start ≤ stop ∧
      stop.raw.toNat ≤ base.raw.toNat + v.session.sink.size ∧
      p.d.displacement = p.d.start.raw.toNat - base.raw.toNat ∧ p.opened.Wrote p.closed ∧
      ∀ calls, p.closed = p.opened.perform calls → ∀ b, w.session.sink.Wrote b →
        b.codeBytes p.d.start stop =
          some (CodeBuffer.encoding (CodeBuffer.queued p.opened.repeatPending calls))) ∧
    v.plots.Pairwise fun p q => p.closed.Wrote q.opened ∧
      ∀ stop, p.d.stop = some stop → stop ≤ q.d.start := by
  obtain ⟨sound, -⟩ := (sound_start fresh inactive writes).moves earlier
  obtain ⟨soundLater, kept⟩ := sound.moves later
  have insideStill {u : Survey η} (sound : u.Sound base capacity) {b : CodeBuffer}
      (wrote : u.session.sink.Wrote b) : base.raw.toNat + b.size < UInt64.size := by
    have fits := wrote.extends.fits (sound.room ▸ sound.fits)
    rw [wrote.extends.capacity, sound.room] at fits
    omega
  refine ⟨session_ask v, fun request writes => (advances_ask writes v sound).2.plots, ?_, ?_⟩
  · intro p member
    have lies := sound.plots p member
    obtain ⟨stop, ends, lower, ordered, upper, displaced⟩ :=
      lies.bounds (insideStill sound (.refl _))
    refine ⟨stop, ends, lower, ordered, upper, displaced, lies.wrote, ?_⟩
    intro calls written b wrote
    have liesLater := (soundLater.plots p (kept.subset member)).later wrote
    exact liesLater.reads (wrote.extends.base.trans soundLater.isBase)
      (insideStill soundLater wrote) written ends
  · refine sound.apart.imp_of_mem fun {p q} first second wrote => ⟨wrote, fun stop ends => ?_⟩
    exact (sound.plots p first).apart (sound.plots q second) wrote
      (insideStill sound (.refl _)) ends

/-! ### Two sessions -/

def padding : Hooks CodeBuffer Unit :=
  { Hooks.standard with prolog _ := Action.modify fun both => (both.1.push .nop, both.2) }

def padded (b : CodeBuffer) : Session CodeBuffer Unit :=
  ⟨.create b padding () none .silent false, .empty, .create (.upTo 0)⟩

def fill (count : Nat) : Session.Request CodeBuffer :=
  .emit (Stub.queue (List.replicate count .nop))

/-- Something is queued in front of the first stub, the fence is attempted once too early, and more
is queued behind it. -/
def twoStubs : List (Session.Request CodeBuffer) :=
  [fill 1, .openStub "Boot" "first", fill 1, .generate .fence 0 Stub.fence.emitBody,
    .closeStub ⟨⟨0⟩, "first"⟩, .generate .fence 0 Stub.fence.emitBody, fill 1]

def overflowing : List (Session.Request CodeBuffer) :=
  [.openStub "Boot" "second", fill 16, .closeStub ⟨⟨0⟩, "second"⟩]

def fenceOpened : CodeBuffer := ⟨⟨0x1000⟩, 16, [0x90, 0x90, 0x90, 0x90], [], false⟩

theorem writes_padded (b : CodeBuffer) : (padded b).hooks.Writes := fun _ b _ =>
  CodeBuffer.wrote_apply (.push .nop) b

theorem writes_fill (count : Nat) : (fill count).Writes := Stub.respects_queue _

theorem moves_ask {requests : List (Session.Request CodeBuffer)}
    (writes : ∀ request ∈ requests, request.Writes) (v : Survey η) :
    Relation.ReflTransGen Move v (requests.foldl ask v) := by
  induction requests generalizing v with
  | nil => exact .refl
  | cons request rest ih =>
    obtain ⟨first, others⟩ := List.forall_mem_cons.mp writes
    exact .head (.request v request first) (ih others _)

theorem stubs_placed_twice :
    let v := twoStubs.foldl ask (start (padded (.create ⟨0x1000⟩ 16)))
    let w := overflowing.foldl ask { v with session := padded v.session.sink }
    v.plots.map Plot.d = [⟨"Boot", "first", ⟨0x1002⟩, some ⟨0x1003⟩, 2, false⟩,
      ⟨"StubRoutines", "fence", ⟨0x1004⟩, some ⟨0x1008⟩, 4, false⟩] ∧
    w.session.sink.codeBytes ⟨0x1004⟩ ⟨0x1008⟩ = some [0x0f, 0xae, 0xf0, 0xc3] := by
  intro v w
  have fills := Stub.fence.respects_emitBody
  have earlier : Relation.ReflTransGen Move (start (padded (.create ⟨0x1000⟩ 16))) v := by
    refine moves_ask ?_ _
    simp only [twoStubs, List.forall_mem_cons, List.not_mem_nil, false_implies, implies_true,
      and_true]
    exact ⟨writes_fill 1, trivial, writes_fill 1, fills, trivial, fills, writes_fill 1⟩
  have later : Relation.ReflTransGen Move v w := by
    refine .head (.session v (padded v.session.sink) rfl rfl (writes_padded _)) (moves_ask ?_ _)
    simp only [overflowing, List.forall_mem_cons, List.not_mem_nil, false_implies, implies_true,
      and_true]
    exact ⟨trivial, writes_fill 16, trivial⟩
  obtain ⟨-, -, places, -⟩ :=
    stubs_placed (by decide) rfl rfl (writes_padded _) earlier later
  obtain ⟨stop, ends, -, -, -, -, -, holds⟩ := places
    ⟨⟨1⟩, ⟨"StubRoutines", "fence", ⟨0x1004⟩, some ⟨0x1008⟩, 4, false⟩, fenceOpened,
      fenceOpened.perform [.push .mfence, .push .ret]⟩ (by decide +kernel)
  cases ends
  exact ⟨by decide +kernel, holds _ rfl _ (.refl _)⟩

end Survey

end RuntimeStubs
