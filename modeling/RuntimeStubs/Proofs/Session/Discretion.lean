import RuntimeStubs.Code.Buffer
import RuntimeStubs.Proofs.Log.Loudness
import RuntimeStubs.Proofs.Session.Coupling

/-! Sessions that report more or less.

Two runs of a session may differ in whether code is listed, in their logs and, since a listener that
logs asks for code only if the log takes traces, in what such a listener is told. Main statement
(`archives_discreet`): every step of a session comes to the same in both, provided that the hooks do
not betray the difference. The hooks that report the code of a stub do not, over sinks whose code
ends within the address space. -/

set_option autoImplicit false

namespace RuntimeStubs

/-- Sinks that hold no code behind the end of the address space. -/
class BoundedSink (σ : Type) [Sink σ] : Prop where
  fits : ∀ {sink : σ} {start stop : Address} {code : List UInt8},
    Sink.codeBytes sink start stop = some code → start.raw.toNat + code.length ≤ UInt64.size

theorem Address.add_eq_of_offsetFrom {a base : Address} {offset : Nat}
    (above : a.offsetFrom base = some offset) : base.raw.toNat + offset = a.raw.toNat := by
  rw [offsetFrom] at above
  split at above
  · next le =>
    cases above
    exact Nat.add_sub_of_le (le_iff.mp le)
  · cases above

-- What is asked for ends at an address, and no more than that is given.
theorem CodeBuffer.fits_of_codeBytes {b : CodeBuffer} {start stop : Address} {code : List UInt8}
    (held : b.codeBytes start stop = some code) :
    start.raw.toNat + code.length ≤ UInt64.size := by
  rw [codeBytes] at held
  split at held
  · next first bound isFirst isBound =>
    have atStart := Address.add_eq_of_offsetFrom isFirst
    have atStop := Address.add_eq_of_offsetFrom isBound
    have inside : stop.raw.toNat < UInt64.size := stop.raw.toNat_lt
    split at held
    · next ordered =>
      cases held
      simp only [List.length_take, List.length_drop]
      omega
    · cases held
  · cases held

instance : BoundedSink CodeBuffer := ⟨CodeBuffer.fits_of_codeBytes⟩

variable {σ η : Type}

/-- Hooks that do the same in two runs of which the second may report more. `M` relates what they
keep in mind. -/
structure Hooks.Discreet (allowed : Prop) (L : Log → Log → Prop) (M : η → η → Prop)
    (hooks : Hooks σ η) : Prop where
  prolog : ∀ d sink {memory other}, M memory other →
    (hooks.prolog d (sink, memory)).1 = (hooks.prolog d (sink, other)).1 ∧
      (hooks.prolog d (sink, memory)).2.1 = (hooks.prolog d (sink, other)).2.1 ∧
      M (hooks.prolog d (sink, memory)).2.2 (hooks.prolog d (sink, other)).2.2
  epilog : ∀ sink d {first second memory other quiet loud}, Switched allowed first second →
    M memory other → L quiet loud →
    (hooks.epilog sink d first (memory, quiet)).1 =
        (hooks.epilog sink d second (other, loud)).1 ∧
      M (hooks.epilog sink d first (memory, quiet)).2.1
        (hooks.epilog sink d second (other, loud)).2.1 ∧
      L (hooks.epilog sink d first (memory, quiet)).2.2
        (hooks.epilog sink d second (other, loud)).2.2

section

variable {allowed : Prop} {L : Log → Log → Prop} {M : η → η → Prop}

theorem Hooks.discreet_of_standard [Sink σ] [BoundedSink σ] (louder : Louder allowed L)
    {hooks : Hooks σ η} (standard : hooks.epilog = Hooks.standard.epilog)
    (prolog : ∀ d sink {memory other}, M memory other →
      (hooks.prolog d (sink, memory)).1 = (hooks.prolog d (sink, other)).1 ∧
        (hooks.prolog d (sink, memory)).2.1 = (hooks.prolog d (sink, other)).2.1 ∧
        M (hooks.prolog d (sink, memory)).2.2 (hooks.prolog d (sink, other)).2.2) :
    hooks.Discreet allowed L M where
  prolog := prolog
  epilog := by
    intro sink d first second memory other quiet loud switched kept related
    rw [standard]
    have listable (code : List UInt8)
        (held : Sink.codeBytes sink d.start d.stopOrStart = some code) :
        first = second ∨ ∃ lines, disassemble code d.start = .ok lines :=
      .inr (disassemble_ok (BoundedSink.fits held))
    obtain ⟨same, reported⟩ := louder.describe d switched listable related
    exact ⟨same, kept, reported⟩

theorem Hooks.discreet_standard [Sink σ] [BoundedSink σ] (louder : Louder allowed L) :
    (Hooks.standard : Hooks σ η).Discreet allowed L M :=
  discreet_of_standard (σ := σ) louder rfl fun _ _ _ _ kept => ⟨rfl, rfl, kept⟩

end

namespace Session

open RuntimeStubs.Action

/-- What a session may be changed into. A listener that logs may have been told more; any other has
been told the same. -/
structure Varies (allowed : Prop) (L : Log → Log → Prop) (M : η → η → Prop) (listener : Listener)
    (s : Session σ η) (memory : η) (listing : Bool) (events : List Event) (log : Log) : Prop where
  hooks : s.hooks.Discreet allowed L M
  isListener : s.listener = listener
  memory : M s.memory memory
  listing : Switched allowed s.listing listing
  events : listener = .logging ∨ events = s.events
  log : L s.log log

/-- The second session is the first, but may report more. -/
def Discreet (allowed : Prop) (L : Log → Log → Prop) (M : η → η → Prop) (listener : Listener)
    (s t : Session σ η) : Prop :=
  ∃ memory listing events log, s.Varies allowed L M listener memory listing events log ∧
    t = { s with memory := memory, listing := listing, events := events, log := log }

variable {allowed : Prop} {L : Log → Log → Prop} {M : η → η → Prop} {listener : Listener}
  {s t : Session σ η}

theorem Discreet.tell (louder : Louder allowed L) (event : Event)
    (related : Discreet allowed L M listener s t) :
    Discreet allowed L M listener (s.tell event) (t.tell event) := by
  obtain ⟨memory, listing, events, log, varies, rfl⟩ := related
  refine ⟨memory, listing, events ++ [event], _, { varies with events := ?_, log := ?_ }, rfl⟩
  · exact varies.events.imp_right fun same => by rw [same, Session.tell]
  · simp only [Session.tell]
    cases s.listener with
    | logging => exact louder.report _ varies.log
    | watching wants => exact varies.log

theorem Discreet.wantsCode (louder : Louder allowed L)
    (related : Discreet allowed L M listener s t)
    (wants : s.listener.wantsCode s.log s.events = true) :
    t.listener.wantsCode t.log t.events = true := by
  obtain ⟨memory, listing, events, log, varies, rfl⟩ := related
  simp only [varies.isListener] at wants ⊢
  cases listener with
  | logging => exact louder.asks varies.log wants
  | watching asks =>
    obtain rfl : events = s.events := varies.events.resolve_left (by simp)
    exact wants

-- The loud run may have its listener ask for code where the quiet one does not. What the listener
-- is told then is a trace, which the quiet log does not take.
theorem Discreet.posted (louder : Louder allowed L) (related : Discreet allowed L M listener s t)
    (first : s.listener.wantsCode s.log s.events = false)
    (second : t.listener.wantsCode t.log t.events = true) (name : String) (start stop : Address) :
    Discreet allowed L M listener s (t.tell (.posted name start stop)) := by
  obtain ⟨memory, listing, events, log, varies, rfl⟩ := related
  simp only [varies.isListener] at first second
  cases listener with
  | watching asks =>
    obtain rfl : events = s.events := varies.events.resolve_left (by simp)
    exact absurd (first.symm.trans second) Bool.false_ne_true
  | logging =>
    refine ⟨memory, listing, events ++ [.posted name start stop],
      log.report (.codePosted name start stop),
      { varies with events := .inl rfl, log := louder.posted _ first rfl varies.log }, ?_⟩
    simp only [Session.tell, varies.isListener]
    rfl

theorem discreet_publish (louder : Louder allowed L) (d : Descriptor) :
    Couples (Discreet allowed L M listener) (publish d : Action (Session σ η) Unit)
      (publish d) := by
  intro s t related
  have counted : Discreet allowed L M listener { s with published := s.published + 1 }
      { t with published := t.published + 1 } := by
    obtain ⟨_, _, _, _, varies, rfl⟩ := related
    exact ⟨_, _, _, _, { varies with }, rfl⟩
  have registered := counted.tell louder (.registered d.name d.start d.stopOrStart)
  refine ⟨rfl, ?_⟩
  simp only [publish, modify_apply]
  split
  · next first =>
    rw [if_pos (registered.wantsCode louder first)]
    exact registered.tell louder _
  · next first =>
    split
    · next second => exact registered.posted louder (Bool.eq_false_iff.mpr first) second _ _ _
    · exact registered

variable [Sink σ]

theorem archives_discreet (louder : Louder allowed L) :
    Archives (Discreet allowed L M listener : Session σ η → Session σ η → Prop) where
  registry := by
    rintro s t ⟨_, _, _, _, -, rfl⟩
    rfl
  active := by
    rintro s t ⟨_, _, _, _, -, rfl⟩
    rfl
  pc := by
    rintro s t ⟨_, _, _, _, -, rfl⟩
    rfl
  base := by
    rintro s t ⟨_, _, _, _, -, rfl⟩
    rfl
  setRegistry := by
    rintro s t r ⟨_, _, _, _, varies, rfl⟩
    exact ⟨_, _, _, _, { varies with }, rfl⟩
  setActive := by
    rintro s t active ⟨_, _, _, _, varies, rfl⟩
    exact ⟨_, _, _, _, { varies with }, rfl⟩
  report := by
    rintro s t d ⟨_, _, _, _, varies, rfl⟩
    exact ⟨_, _, _, _, { varies with log := louder.report d varies.log }, rfl⟩
  flush := by
    rintro s t ⟨_, _, _, _, varies, rfl⟩
    exact ⟨rfl, _, _, _, _, { varies with }, rfl⟩
  prolog := by
    rintro d s t ⟨memory, _, _, _, varies, rfl⟩
    obtain ⟨same, sink, keeps⟩ := varies.hooks.prolog d s.sink varies.memory
    refine ⟨same, _, _, _, _, { varies with memory := keeps }, ?_⟩
    simp only [runProlog, get_bind, focus_apply, sink]
  epilog := by
    rintro d s t ⟨_, _, _, _, varies, rfl⟩
    obtain ⟨same, keeps, reported⟩ :=
      varies.hooks.epilog s.sink d varies.listing varies.memory varies.log
    exact ⟨congrArg Fault.ofAborting same, _, _, _, _,
      { varies with memory := keeps, log := reported }, rfl⟩
  describe := by
    rintro d s t ⟨_, listing, _, _, varies, rfl⟩
    have nothing (code : List UInt8) (given : none = some code) :
        s.listing = listing ∨ ∃ lines, disassemble code d.start = .ok lines := by cases given
    obtain ⟨same, reported⟩ := louder.describe d varies.listing nothing varies.log
    exact ⟨congrArg Fault.ofAborting same, _, _, _, _, { varies with log := reported }, rfl⟩
  publish := discreet_publish louder
  address a related := related.tell louder (.address a)
  archive := by
    rintro s t ⟨_, _, _, _, -, rfl⟩
    rfl
  setArchive := by
    rintro s t a ⟨_, _, _, _, varies, rfl⟩
    exact ⟨_, _, _, _, { varies with }, rfl⟩

omit [Sink σ] in
theorem discreet_onSink {α : Type} (action : Action σ α) :
    Couples (Discreet allowed L M listener : Session σ η → Session σ η → Prop) (onSink action)
      (onSink action) := by
  rintro s t ⟨_, _, _, _, varies, rfl⟩
  exact ⟨rfl, _, _, _, _, { varies with }, rfl⟩

omit [Sink σ]

theorem Discreet.same (related : Discreet allowed L M listener s t) :
    t.sink = s.sink ∧ t.archive = s.archive ∧ t.published = s.published ∧
      t.registry = s.registry := by
  obtain ⟨_, _, _, _, -, rfl⟩ := related
  exact ⟨rfl, rfl, rfl, rfl⟩

theorem Discreet.varies (related : Discreet allowed L M listener s t) :
    s.Varies allowed L M listener t.memory t.listing t.events t.log := by
  obtain ⟨_, _, _, _, varies, rfl⟩ := related
  exact varies

end Session

def Generator.Discreet (allowed : Prop) (L : Log → Log → Prop) (M : η → η → Prop)
    (listener : Listener) (g h : Generator σ η) : Prop :=
  ∀ registry quiet loud, L quiet loud →
    Session.Discreet allowed L M listener ⟨g, registry, quiet⟩ ⟨h, registry, loud⟩

section

variable {allowed : Prop} {L : Log → Log → Prop} {M : η → η → Prop} {listener : Listener}

theorem Session.Discreet.generator {s t : Session σ η}
    (related : s.Discreet allowed L M listener t) :
    s.toGenerator.Discreet allowed L M listener t.toGenerator := by
  obtain ⟨_, _, _, _, varies, rfl⟩ := related
  exact fun registry quiet loud logs => ⟨_, _, _, _, { varies with log := logs }, rfl⟩

theorem Generator.discreet_create {hooks : Hooks σ η} (discreet : hooks.Discreet allowed L M)
    {memory other : η} (kept : M memory other) {first second : Bool}
    (switched : Switched allowed first second) (sink : σ) (archive : Option Archive) :
    (create sink hooks memory archive listener first).Discreet allowed L M listener
      (create sink hooks other archive listener second) := fun _ _ _ logs =>
  ⟨other, second, [], _, ⟨discreet, rfl, kept, switched, .inr rfl, logs⟩, rfl⟩

end

end RuntimeStubs
