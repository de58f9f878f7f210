import RuntimeStubs.Proofs.Registry.Shares
import RuntimeStubs.Proofs.Session.Endings
import RuntimeStubs.Proofs.Session.Stepwise

/-! Sessions that share a registry.

A session works on a registry into which another party registers as well. Compared with the same
session on a registry of its own it finds other handles, but nothing else (`Alike`). Every step of
an operation keeps both sessions alike, answers with the same value up to handles, and leaves the
share of the other party alone (`Tracks`). Main statement: generating a stub comes to the same in
both sessions, even if the other party is at work between any two of its steps
(`generateSteps_tracks`). -/

set_option autoImplicit false

namespace RuntimeStubs

theorem Log.report_eq (d : Diagnostic) (log : Log) :
    log.report d = ⟨log.filter, log.records ++ [d].filter log.filter.keeps⟩ := by
  unfold report
  split <;> simp_all

namespace Session

open Stepwise (atom)

variable {σ η α β : Type}

def moveTo (active : Option Handle) (registry : Registry) (records : List Diagnostic)
    (s : Session σ η) : Session σ η :=
  { s with active := active, registry := registry, log := ⟨s.log.filter, records⟩ }

theorem moveTo_self (s : Session σ η) : s.moveTo s.active s.registry s.log.records = s := rfl

variable [Sink σ]

/-- The action neither uses nor changes the registry and the open stub, and of the log it uses the
filter only. -/
def Own (action : Action (Session σ η) α) : Prop :=
  ∀ s : Session σ η, s.hooks = .standard → ∃ (result : Except Fault α) (changed : Session σ η),
    changed.hooks = .standard ∧ changed.log.filter = s.log.filter ∧
      ∀ active registry records, ∃ later, action (s.moveTo active registry records) =
        (result, changed.moveTo active registry later)

theorem own_onSink (action : Action σ α) : Own (onSink action : Action (Session σ η) α) :=
  fun s standard => ⟨(action s.sink).1, { s with sink := (action s.sink).2 }, standard, rfl,
    fun _ _ records => ⟨records, rfl⟩⟩

theorem own_pc : Own (pc : Action (Session σ η) Address) :=
  fun s standard => ⟨.ok (Sink.pc s.sink), s, standard, rfl, fun _ _ records => ⟨records, rfl⟩⟩

theorem own_report (d : Diagnostic) : Own (report d : Action (Session σ η) Unit) :=
  fun s standard => ⟨.ok (), s, standard, rfl, fun _ _ records => by
    simp [report, moveTo, Log.report_eq]⟩

theorem own_displacement (start : Address) :
    Own (displacement start : Action (Session σ η) Nat) := by
  intro s standard
  cases offset : start.offsetFrom (Sink.base s.sink) with
  | some n =>
    refine ⟨.ok n, s, standard, rfl, fun active registry records => ⟨records, ?_⟩⟩
    simp only [displacement, Action.get_bind, moveTo, offset]
    rfl
  | none =>
    refine ⟨.ok 0, s, standard, rfl, fun active registry records => ?_⟩
    simp only [displacement, Action.get_bind, moveTo, offset, report_bind, Log.report_eq]
    exact ⟨_, rfl⟩

theorem own_publish (d : Descriptor) : Own (publish d : Action (Session σ η) Unit) := by
  intro s standard
  refine ⟨.ok (), s.announced d s.log, standard, rfl, fun active registry records => ?_⟩
  obtain ⟨log, same, published⟩ := publish_announced d (s.moveTo active registry records)
  have same : log.filter = s.log.filter := same
  refine ⟨log.records, ?_⟩
  rw [published, announced, announcement_congr same, announced, moveTo, moveTo, ← same]
  rfl

theorem own_describe (d : Descriptor) (code : Option (List UInt8)) :
    Own (describe d code : Action (Session σ η) Unit) := by
  intro s standard
  refine ⟨(describe d code s).1, s, standard, rfl, fun active registry records => ?_⟩
  cases listing : s.listing with
  | false => simp [describe, Action.bind_apply, onLog, Log.describe, moveTo, listing, Log.report_eq]
  | true =>
    cases code with
    | none =>
      simp [describe, Action.bind_apply, onLog, Log.describe, moveTo, listing, Log.report_eq]
    | some bytes =>
      cases lines : disassemble bytes d.start <;>
        simp [describe, Action.bind_apply, onLog, Log.describe, moveTo, listing, lines,
          Log.report_eq]

theorem own_runEpilog (d : Descriptor) : Own (runEpilog d : Action (Session σ η) Unit) := by
  intro s standard
  obtain ⟨result, changed, isStandard, same, moved⟩ :=
    own_describe d (Sink.codeBytes s.sink d.start d.stopOrStart) s standard
  refine ⟨result, changed, isStandard, same, fun active registry records => ?_⟩
  have described := runEpilog_standard (s := s.moveTo active registry records) standard d
  rw [described]
  exact moved active registry records

theorem own_runProlog (d : Descriptor) : Own (runProlog d : Action (Session σ η) Unit) :=
  fun s standard => ⟨.ok (), s, standard, rfl, fun active registry records =>
    ⟨records, runProlog_standard (s := s.moveTo active registry records) standard d⟩⟩

theorem own_lookUp (stub : Stub) : Own (lookUp stub : Action (Session σ η) _) := by
  intro s standard
  cases attached : s.archive with
  | none =>
    exact ⟨.ok none, s, standard, rfl, fun _ _ records =>
      ⟨records, by simp [lookUp, moveTo, attached]⟩⟩
  | some a =>
    cases looked : a.find stub with
    | error fault =>
      exact ⟨.error fault, s, standard, rfl, fun _ _ records =>
        ⟨records, by simp [lookUp, moveTo, attached, looked]⟩⟩
    | ok found =>
      obtain ⟨hit, b⟩ := found
      cases hit with
      | false =>
        refine ⟨.ok none, { s with archive := some b }, standard, rfl, fun _ _ records => ?_⟩
        simp [lookUp, moveTo, attached, looked, Log.report_eq]
      | true =>
        cases retrieved : b.retrieveAll with
        | error fault =>
          refine ⟨.error fault, { s with archive := some b }, standard, rfl, fun _ _ records => ?_⟩
          simp [lookUp, moveTo, attached, looked, retrieved, Log.report_eq]
        | ok archived =>
          refine ⟨.ok (some archived), { s with archive := some b }, standard, rfl,
            fun _ _ records => ?_⟩
          simp [lookUp, moveTo, attached, looked, retrieved, Log.report_eq]

theorem own_archiveStub (stub : Stub) (start stop : Address) (extras : List Address) :
    Own (archiveStub stub start stop extras : Action (Session σ η) Unit) := by
  intro s standard
  cases attached : s.archive with
  | none =>
    exact ⟨.ok (), s, standard, rfl, fun _ _ records =>
      ⟨records, by simp [archiveStub, moveTo, attached]⟩⟩
  | some a =>
    cases stored : a.store stub start stop extras with
    | error fault =>
      exact ⟨.error fault, s, standard, rfl, fun _ _ records =>
        ⟨records, by simp [archiveStub, moveTo, attached, stored]⟩⟩
    | ok b =>
      refine ⟨.ok (), { s with archive := some b }, standard, rfl, fun _ _ records => ?_⟩
      simp [archiveStub, moveTo, attached, stored, Log.report_eq]

theorem own_tellAll (addresses : List Address) :
    Own (Action.modify (tellAll (addresses.map Event.address)) : Action (Session σ η) Unit) := by
  intro s standard
  refine ⟨.ok (), s.entered addresses s.log, standard, rfl, fun active registry records => ?_⟩
  have same := filter_tellAll (addresses.map Event.address) (s.moveTo active registry records)
  have told := tellAll_entered addresses (s.moveTo active registry records)
  generalize (tellAll (addresses.map Event.address) (s.moveTo active registry records)).log = log
    at same told
  obtain ⟨filter, later⟩ := log
  cases same
  exact ⟨later, congrArg (Prod.mk _) told⟩

/-! ### Sessions side by side -/

/-- A session of one party on the shared registry, and the same session on a registry of its own. -/
structure Alike (p : Place) (filter : Filter) (entries : List (Bool × Descriptor))
    (s solo : Session σ η) : Prop where
  same : s = solo.moveTo s.active (p.shared entries) s.log.records
  registry : solo.registry = p.alone entries
  active : Option.Rel (p.Names (entries.map Prod.fst)) s.active solo.active
  filter : solo.log.filter = filter
  standard : solo.hooks = .standard

/-- Both answer with related values, or both with the same fault. -/
def Matches (Q : α → β → Prop) : Except Fault α → Except Fault β → Prop
  | .ok value, .ok solo => Q value solo
  | .error fault, .error other => fault = other
  | _, _ => False

/-- Step by step the two computations keep the sessions alike, whatever the other party registers
between the steps, and their answers match. -/
def Tracks (p : Place) (filter : Filter) (Q : List Bool → α → β → Prop) :
    List Bool → Stepwise (Session σ η) α → Stepwise (Session σ η) β → Prop
  | owners, .done result, .done solo => Matches (Q owners) result solo
  | owners, .step move next, .step moveSolo nextSolo => ∀ entries s solo,
      owners <+: entries.map Prod.fst → Alike p filter entries s solo →
        ∃ later, p.Keeps entries later ∧ Alike p filter later (move s) (moveSolo solo) ∧
          Tracks p filter Q (later.map Prod.fst) (next s) (nextSolo solo)
  | _, _, _ => False

def Equal (_ : List Bool) (value solo : α) : Prop := value = solo

omit [Sink σ] in
theorem Matches.eq {owners : List Bool} {result solo : Except Fault α}
    (same : Matches (Equal owners) result solo) : result = solo := by
  cases result <;> cases solo <;> simp_all [Matches, Equal]

section

variable {γ δ : Type} {p : Place} {filter : Filter} {Q : List Bool → α → β → Prop}
  {R : List Bool → γ → δ → Prop} {owners : List Bool} {entries : List (Bool × Descriptor)}
  {s solo : Session σ η} {handle soloHandle : Handle} {mark soloMark : Mark}

theorem Alike.shared (alike : Alike p filter entries s solo) : s.registry = p.shared entries :=
  congrArg Session.registry alike.same

theorem Tracks.mono {first second : Stepwise (Session σ η) α} {more : List Bool}
    (tracks : Tracks p filter Equal owners first second) (grown : owners <+: more) :
    Tracks p filter Equal more first second := by
  cases first with
  | done result =>
    cases second with
    | done other => exact tracks
    | step => exact tracks.elim
  | step move next =>
    cases second with
    | done => exact tracks.elim
    | step => exact fun entries s solo longer => tracks entries s solo (grown.trans longer)

theorem tracks_pure {value : α} {other : β} (related : Q owners value other) :
    Tracks p filter Q owners (pure value : Stepwise (Session σ η) α) (pure other) :=
  related

theorem tracks_fail (fault : Fault) :
    Tracks p filter Q owners (.fail fault : Stepwise (Session σ η) α) (.fail fault) :=
  rfl

theorem tracks_bind {first : Stepwise (Session σ η) α} {soloFirst : Stepwise (Session σ η) β}
    {next : α → Stepwise (Session σ η) γ} {soloNext : β → Stepwise (Session σ η) δ}
    (tracks : Tracks p filter Q owners first soloFirst)
    (rest : ∀ more value other, owners <+: more → Q more value other →
      Tracks p filter R more (next value) (soloNext other)) :
    Tracks p filter R owners (first >>= next) (soloFirst >>= soloNext) := by
  -- By the time the first computation is done, either party may have registered more.
  induction first generalizing owners soloFirst with
  | done result =>
    cases soloFirst with
    | step => exact tracks.elim
    | done other =>
      cases result <;> cases other
      · exact tracks
      · exact tracks.elim
      · exact tracks.elim
      · exact rest owners _ _ (List.prefix_refl _) tracks
  | step move following ih =>
    cases soloFirst with
    | done => exact tracks.elim
    | step moveSolo soloFollowing =>
      intro entries s solo grown alike
      obtain ⟨later, keeps, remains, tracks⟩ := tracks entries s solo grown alike
      refine ⟨later, keeps, remains, ih s tracks fun more value other longer => ?_⟩
      exact rest more value other ((grown.trans keeps.owners).trans longer)

theorem tracks_atom {action : Action (Session σ η) α} {soloAction : Action (Session σ η) β}
    (answers : ∀ entries s solo, owners <+: entries.map Prod.fst →
      Alike p filter entries s solo → ∃ later, p.Keeps entries later ∧
        Alike p filter later (action s).2 (soloAction solo).2 ∧
        Matches (Q (later.map Prod.fst)) (action s).1 (soloAction solo).1) :
    Tracks p filter Q owners (atom action) (atom soloAction) :=
  answers

theorem tracks_own {action : Action (Session σ η) α} (own : Own action) :
    Tracks p filter Equal owners (atom action) (atom action) := by
  refine tracks_atom fun entries s solo _ alike => ⟨entries, .refl p entries, ?_⟩
  obtain ⟨result, changed, isStandard, same, moved⟩ := own solo alike.standard
  obtain ⟨records, ran⟩ := moved s.active (p.shared entries) s.log.records
  obtain ⟨soloRecords, ranSolo⟩ := moved solo.active solo.registry solo.log.records
  rw [← alike.same] at ran
  rw [moveTo_self] at ranSolo
  rw [ran, ranSolo]
  refine ⟨⟨rfl, alike.registry, alike.active, same.trans alike.filter, isStandard⟩, ?_⟩
  cases result <;> exact rfl

theorem tracks_bind_equal {first soloFirst : Stepwise (Session σ η) α}
    {next : α → Stepwise (Session σ η) γ} {soloNext : α → Stepwise (Session σ η) δ}
    (tracks : Tracks p filter Equal owners first soloFirst)
    (rest : ∀ more value, owners <+: more → Tracks p filter R more (next value) (soloNext value)) :
    Tracks p filter R owners (first >>= next) (soloFirst >>= soloNext) := by
  refine tracks_bind tracks ?_
  rintro more value _ grown rfl
  exact rest more value grown

theorem tracks_bind_names {first soloFirst : Stepwise (Session σ η) α}
    {next : α → Stepwise (Session σ η) γ} {soloNext : α → Stepwise (Session σ η) δ}
    (names : p.Names owners handle soloHandle)
    (tracks : Tracks p filter Equal owners first soloFirst)
    (rest : ∀ more value, p.Names more handle soloHandle →
      Tracks p filter R more (next value) (soloNext value)) :
    Tracks p filter R owners (first >>= next) (soloFirst >>= soloNext) :=
  tracks_bind_equal tracks fun more value grown => rest more value (names.mono grown)

/-! ### Steps that use the registry or the open stub -/

theorem tracks_get :
    Tracks p filter (fun owners s solo => ∃ entries, entries.map Prod.fst = owners ∧
      Alike p filter entries s solo) owners (atom (Action.get : Action (Session σ η) _))
      (atom Action.get) :=
  tracks_atom fun entries _ _ _ alike => ⟨entries, .refl p entries, alike, entries, rfl, alike⟩

theorem tracks_setActive {active soloActive : Option Handle}
    (names : Option.Rel (p.Names owners) active soloActive) :
    Tracks p filter Equal owners
      (atom (Action.modify fun s : Session σ η => { s with active := active }))
      (atom (Action.modify fun s => { s with active := soloActive })) := by
  refine tracks_atom fun entries s solo grown alike => ⟨entries, .refl p entries, ?_, rfl⟩
  refine ⟨?_, alike.registry, Place.rel_names_mono names grown, alike.filter, alike.standard⟩
  conv_lhs => rw [alike.same]
  rfl

-- The shared registry refuses a call if and only if the registry of the party alone does.
theorem tracks_onRegistry {change : Registry → Except Fault (α × Registry)}
    {soloChange : Registry → Except Fault (β × Registry)}
    (answers : ∀ entries, owners <+: entries.map Prod.fst →
      (∃ fault, change (p.shared entries) = .error fault ∧
          soloChange (p.alone entries) = .error fault) ∨
        ∃ later value other, p.Keeps entries later ∧ Q (later.map Prod.fst) value other ∧
          change (p.shared entries) = .ok (value, p.shared later) ∧
          soloChange (p.alone entries) = .ok (other, p.alone later)) :
    Tracks p filter Q owners (atom (onRegistry change : Action (Session σ η) α))
      (atom (onRegistry soloChange)) := by
  refine tracks_atom fun entries s solo grown alike => ?_
  rcases answers entries grown with
    ⟨fault, refused, refusedSolo⟩ | ⟨later, value, other, keeps, related, changed, changedSolo⟩
  · refine ⟨entries, .refl p entries, ?_⟩
    simp only [onRegistry, alike.shared, alike.registry, refused, refusedSolo]
    exact ⟨alike, rfl⟩
  · refine ⟨later, keeps, ?_⟩
    simp only [onRegistry, alike.shared, alike.registry, changed, changedSolo]
    have active := Place.rel_names_mono alike.active keeps.owners
    refine ⟨⟨?_, rfl, active, alike.filter, alike.standard⟩, related⟩
    conv_lhs => rw [alike.same]
    rfl

theorem tracks_register (group name : String) (start : Address) (stop : Option Address) :
    Tracks p filter p.Names owners
      (atom (onRegistry (Registry.register group name start stop) : Action (Session σ η) Handle))
      (atom (onRegistry (Registry.register group name start stop))) :=
  tracks_onRegistry fun entries _ => p.register_eq entries group name start stop

theorem tracks_update (names : p.Names owners handle soloHandle)
    (change : Descriptor → Except Fault Descriptor) :
    Tracks p filter Equal owners
      (atom (onRegistry (Registry.update handle change) : Action (Session σ η) Descriptor))
      (atom (onRegistry (Registry.update soloHandle change))) := by
  refine tracks_onRegistry fun entries grown => ?_
  refine (Place.update_eq (names.mono grown) change).imp_right ?_
  rintro ⟨later, d, keeps, changed, changedSolo⟩
  exact ⟨later, d, d, keeps, rfl, changed, changedSolo⟩

theorem tracks_descriptor (names : p.Names owners handle soloHandle) :
    Tracks p filter Equal owners (atom (descriptor handle : Action (Session σ η) Descriptor))
      (atom (descriptor soloHandle)) := by
  refine tracks_atom fun entries s solo grown alike => ⟨entries, .refl p entries, alike, ?_⟩
  obtain ⟨_, d, _, _, _, known, knownSolo⟩ := (names.mono grown).get?
  simp only [descriptor, Registry.descriptor, alike.shared, alike.registry, known, knownSolo]
  exact rfl

/-! ### Operations -/

def SameMark (p : Place) (owners : List Bool) (mark soloMark : Mark) : Prop :=
  p.Names owners mark.handle soloMark.handle ∧ mark.name = soloMark.name

theorem openStubSteps_tracks (group name : String) :
    Tracks p filter (SameMark p) owners (openStubSteps group name : Stepwise (Session σ η) Mark)
      (openStubSteps group name) := by
  refine tracks_bind tracks_get ?_
  rintro _ s solo - ⟨entries, rfl, alike⟩
  have active := alike.active
  rw [alike.shared, alike.registry]
  generalize s.active = isOpen, solo.active = isOpenSolo at active
  cases active with
  | some names =>
    obtain ⟨_, d, _, _, _, known, knownSolo⟩ := names.get?
    simp only [known, knownSolo]
    exact tracks_fail _
  | none =>
    refine tracks_bind_equal (tracks_own (own_onSink _)) fun _ _ _ => ?_
    refine tracks_bind_equal (tracks_own own_pc) fun _ place _ => ?_
    refine tracks_bind (tracks_register group name place none) fun _ _ _ _ names => ?_
    refine tracks_bind_names names (tracks_descriptor names) fun _ d names => ?_
    refine tracks_bind_names names (tracks_own (own_runProlog d)) fun _ _ names => ?_
    refine tracks_bind_names names (tracks_own (own_onSink _)) fun _ _ names => ?_
    refine tracks_bind_names names (tracks_own own_pc) fun _ start names => ?_
    refine tracks_bind_names names (tracks_update names _) fun _ _ names => ?_
    refine tracks_bind_names names (tracks_setActive (.some names)) fun _ _ names => ?_
    refine tracks_bind_names names (tracks_own (own_report _)) fun _ _ names => ?_
    exact tracks_pure ⟨names, rfl⟩

theorem closeStubSteps_tracks (same : SameMark p owners mark soloMark) :
    Tracks p filter Equal owners (closeStubSteps mark : Stepwise (Session σ η) Descriptor)
      (closeStubSteps soloMark) := by
  obtain ⟨names, sameName⟩ := same
  refine tracks_bind tracks_get ?_
  rintro _ s solo grown ⟨entries, rfl, alike⟩
  replace names := names.mono grown
  have isOpen : s.active ≠ some mark.handle ↔ solo.active ≠ some soloMark.handle := by
    have active := alike.active
    generalize s.active = isOpen, solo.active = isOpenSolo at active
    cases active with
    | some opened => simp [opened.iff names]
    | none => simp
  by_cases open? : solo.active = some soloMark.handle
  · rw [if_neg (by simpa [isOpen] using open?), if_neg (by simpa using open?)]
    refine tracks_bind_names names (tracks_own (own_onSink _)) fun _ _ names => ?_
    refine tracks_bind_names names (tracks_own own_pc) fun _ stop names => ?_
    refine tracks_bind_names names (tracks_descriptor names) fun _ opened names => ?_
    refine tracks_bind_names names (tracks_own (own_displacement _)) fun _ offset names => ?_
    refine tracks_bind_equal (tracks_update names _) fun _ d _ => ?_
    refine tracks_bind_equal (tracks_setActive .none) fun _ _ _ => ?_
    refine tracks_bind_equal (tracks_own (own_runEpilog d)) fun _ _ _ => ?_
    refine tracks_bind_equal (tracks_own (own_publish d)) fun _ _ _ => ?_
    exact tracks_pure rfl
  · rw [if_pos (isOpen.mpr open?), if_pos open?, sameName]
    exact tracks_fail _

theorem adoptSteps_tracks (name : String) (start stop : Address) :
    Tracks p filter Equal owners (adoptSteps name start stop : Stepwise (Session σ η) Descriptor)
      (adoptSteps name start stop) := by
  refine tracks_bind (tracks_register routinesGroup name start _) fun _ _ _ _ names => ?_
  refine tracks_bind_names names (tracks_own (own_displacement start)) fun _ offset names => ?_
  refine tracks_bind_equal (tracks_update names _) fun _ d _ => ?_
  refine tracks_bind_equal (tracks_own (own_describe d none)) fun _ _ _ => ?_
  refine tracks_bind_equal (tracks_own (own_publish d)) fun _ _ _ => ?_
  exact tracks_pure rfl

theorem hydrateSteps_tracks (stub : Stub) (extra : Nat) :
    Tracks p filter Equal owners
      (hydrateSteps stub extra : Stepwise (Session σ η) (Option StubEntries))
      (hydrateSteps stub extra) := by
  refine tracks_bind_equal (tracks_own (own_lookUp stub)) fun _ archived? _ => ?_
  cases archived? with
  | none => exact tracks_pure rfl
  | some archived =>
    dsimp only
    split
    · exact tracks_fail _
    · refine tracks_bind_equal (adoptSteps_tracks _ _ _) fun _ d _ => ?_
      refine tracks_bind_equal (tracks_own (own_report _)) fun _ _ _ => ?_
      exact tracks_pure rfl

theorem commitSteps_tracks (stub : Stub) (start stop : Address) (extras : List Address) :
    Tracks p filter Equal owners
      (commitSteps stub start stop extras : Stepwise (Session σ η) Unit)
      (commitSteps stub start stop extras) := by
  refine tracks_bind_equal (tracks_own (own_archiveStub stub start stop extras)) fun _ _ _ => ?_
  exact tracks_own (own_tellAll (start :: extras))

/-- Generating a stub comes to the same on the shared registry and on one of the party's own. -/
theorem generateSteps_tracks (stub : Stub) (extra : Nat) (emit : Action σ (List Address)) :
    Tracks p filter Equal owners
      (generateSteps stub extra emit : Stepwise (Session σ η) StubEntries)
      (generateSteps stub extra emit) := by
  refine tracks_bind_equal (hydrateSteps_tracks stub extra) fun _ hydrated? _ => ?_
  cases hydrated? with
  | some entries => exact tracks_pure rfl
  | none =>
    refine tracks_bind (openStubSteps_tracks routinesGroup stub.name) fun _ _ _ _ same => ?_
    refine tracks_bind_equal (tracks_own (own_onSink emit)) fun _ entries grown => ?_
    split
    · exact tracks_fail _
    · refine tracks_bind_equal (closeStubSteps_tracks ⟨same.1.mono grown, same.2⟩) fun _ d _ => ?_
      refine tracks_bind_equal (commitSteps_tracks _ _ _ _) fun _ _ _ => ?_
      exact tracks_pure rfl

end

end Session

end RuntimeStubs
