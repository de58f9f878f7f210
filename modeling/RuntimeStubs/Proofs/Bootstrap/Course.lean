import RuntimeStubs.Code.Buffer
import RuntimeStubs.Proofs.Bootstrap.Timeline
import RuntimeStubs.Session.Generation

/-! The calls of a bootstrap.

A course is a bootstrap with all the calls that have asked it for a phase, each with the generator
it has brought along. A call is refused at once, or its body executes, works in the session of its
generator, and ends well or badly. The steps of different calls come in any order, so that a body
may ask for further phases, its own included, and other bodies may execute meanwhile. Main
statement: `phases_governed`, which says for every course which bodies execute, when, and what their
ends mean for the phases. -/

set_option autoImplicit false

namespace RuntimeStubs

inductive Standing where
  | refused (fault : Fault)
  | executing
  | failed (fault : Fault)
  /-- The body has succeeded, and the phase was left with this result. -/
  | finished (result : Except Fault Unit)

def Standing.executed : Standing → Prop
  | refused _ => False
  | _ => True

inductive Standing.Fits : Standing → PhaseStatus → Prop
  | refused (fault : Fault) (status : PhaseStatus) : Fits (refused fault) status
  | executing : Fits executing .running
  | failed (fault : Fault) : Fits (failed fault) .running
  | finished : Fits (finished (.ok ())) .done

structure Request (ι : Type) (σ η : ι → Type) where
  kind : Phase
  i : ι
  generator : Generator (σ i) (η i)
  standing : Standing

structure Course (ι : Type) (σ η : ι → Type) where
  shared : BootstrapState
  calls : List (Request ι σ η)

namespace Course

variable {ι : Type} {σ η : ι → Type}

inductive Event (ι : Type) (σ η : ι → Type) where
  | ask (kind : Phase) (i : ι) (generator : Generator (σ i) (η i))
  | work (n : Nat) (change : (i : ι) → Session (σ i) (η i) → Session (σ i) (η i))
  | others (change : Registry × Log → Registry × Log)
  | succeed (n : Nat)
  | fail (n : Nat) (fault : Fault)

def start (delayed listing : Bool) (registry : Registry) (log : Log) : Course ι σ η :=
  ⟨⟨.create delayed listing, registry, log⟩, []⟩

def status (c : Course ι σ η) (kind : Phase) : PhaseStatus := c.shared.bootstrap.status kind

def proceed (n : Nat)
    (change : Request ι σ η → BootstrapState → Request ι σ η × BootstrapState)
    (c : Course ι σ η) : Course ι σ η :=
  match c.calls[n]? with
  | some ⟨kind, i, generator, .executing⟩ =>
    let (call, shared) := change ⟨kind, i, generator, .executing⟩ c.shared
    ⟨shared, c.calls.set n call⟩
  | _ => c

def step (c : Course ι σ η) : Event ι σ η → Course ι σ η
  | .ask kind i generator =>
    match BootstrapState.enter kind (generator.archive.map Archive.kind) c.shared with
    | (.ok _, shared) =>
      let generator := { generator with listing := shared.bootstrap.listing }
      ⟨shared, c.calls ++ [⟨kind, i, generator, .executing⟩]⟩
    | (.error fault, shared) => ⟨shared, c.calls ++ [⟨kind, i, generator, .refused fault⟩]⟩
  | .work n change =>
    c.proceed n fun call shared =>
      let session := change call.i ⟨call.generator, shared.registry, shared.log⟩
      ({ call with generator := session.toGenerator },
        { shared with registry := session.registry, log := session.log })
  | .others change =>
    let changed := change (c.shared.registry, c.shared.log)
    { c with shared.registry := changed.1, shared.log := changed.2 }
  | .succeed n =>
    c.proceed n fun call shared =>
      match BootstrapState.leave call.kind call.generator.published shared with
      | (result, shared) => ({ call with standing := .finished result }, shared)
  | .fail n fault => c.proceed n fun call shared => ({ call with standing := .failed fault }, shared)

def run (c : Course ι σ η) (events : List (Event ι σ η)) : Course ι σ η := events.foldl step c

/-! ### What a step does -/

section

variable {c : Course ι σ η} {n : Nat} {kind : Phase} {i : ι} {generator : Generator (σ i) (η i)}

theorem step_work (found : c.calls[n]? = some ⟨kind, i, generator, .executing⟩)
    (change : (i : ι) → Session (σ i) (η i) → Session (σ i) (η i)) :
    c.step (.work n change) =
      let session := change i ⟨generator, c.shared.registry, c.shared.log⟩
      ⟨{ c.shared with registry := session.registry, log := session.log },
        c.calls.set n ⟨kind, i, session.toGenerator, .executing⟩⟩ := by
  simp only [step, proceed, found]

theorem step_fail (found : c.calls[n]? = some ⟨kind, i, generator, .executing⟩) (fault : Fault) :
    c.step (.fail n fault) =
      ⟨c.shared, c.calls.set n ⟨kind, i, generator, .failed fault⟩⟩ := by
  simp only [step, proceed, found]

theorem step_succeed (found : c.calls[n]? = some ⟨kind, i, generator, .executing⟩) :
    ∃ log, c.step (.succeed n) = ⟨⟨c.shared.bootstrap.withStatus kind .done,
      { c.shared.registry with frozen := c.shared.registry.frozen ||
          BootstrapState.isOver (c.shared.bootstrap.withStatus kind .done) }, log⟩,
      c.calls.set n ⟨kind, i, generator, .finished (.ok ())⟩⟩ := by
  obtain ⟨log, left⟩ := BootstrapState.leave_eq kind generator.published c.shared
  exact ⟨log, by simp only [step, proceed, found, left]⟩

theorem calls_ask (c : Course ι σ η) (kind : Phase) (generator : Generator (σ i) (η i)) :
    ∃ listing standing, (c.step (.ask kind i generator)).calls =
      c.calls ++ [⟨kind, i, { generator with listing := listing }, standing⟩] := by
  rcases entered : BootstrapState.enter kind (generator.archive.map Archive.kind) c.shared with
    ⟨fault | _, shared⟩ <;> simp only [step, entered]
  · exact ⟨generator.listing, _, rfl⟩
  · exact ⟨_, _, rfl⟩

theorem proceed_of_idle {change : Request ι σ η → BootstrapState → Request ι σ η × BootstrapState}
    (idle : ∀ call, c.calls[n]? = some call → call.standing ≠ .executing) :
    c.proceed n change = c := by
  unfold proceed
  split
  · next found => exact absurd rfl (idle _ found)
  · rfl

theorem executing_or_idle (c : Course ι σ η) (n : Nat) :
    (∃ (kind : Phase) (i : ι) (generator : Generator (σ i) (η i)),
      c.calls[n]? = some ⟨kind, i, generator, .executing⟩) ∨
    ∀ call, c.calls[n]? = some call → call.standing ≠ .executing := by
  by_cases executing : ∃ call, c.calls[n]? = some call ∧ call.standing = .executing
  · obtain ⟨⟨kind, i, generator, _⟩, found, rfl⟩ := executing
    exact .inl ⟨kind, i, generator, found⟩
  · exact .inr fun call found isExecuting => executing ⟨call, found, isExecuting⟩

end

-- Whether a body works or fails makes no difference to the phases.
inductive Turn (c : Course ι σ η) : Course ι σ η → Prop
  | aside (shared : BootstrapState) : shared.bootstrap = c.shared.bootstrap →
    Turn c ⟨shared, c.calls⟩
  | refuse (call : Request ι σ η) (fault : Fault) : call.standing = .refused fault →
    Turn c ⟨c.shared, c.calls ++ [call]⟩
  | enter (call : Request ι σ η) (shared : BootstrapState) : call.standing = .executing →
    c.status call.kind = .pending →
    (∀ required ∈ call.kind.requires c.shared.bootstrap.delayed, c.status required = .done) →
    shared.bootstrap = c.shared.bootstrap.withStatus call.kind .running →
    Turn c ⟨shared, c.calls ++ [call]⟩
  | go (n : Nat) (call changed : Request ι σ η) (shared : BootstrapState) :
    c.calls[n]? = some call → call.standing = .executing → changed.kind = call.kind →
    (changed.standing = .executing ∨ ∃ fault, changed.standing = .failed fault) →
    shared.bootstrap = c.shared.bootstrap → Turn c ⟨shared, c.calls.set n changed⟩
  | leave (n : Nat) (call changed : Request ι σ η) (shared : BootstrapState) :
    c.calls[n]? = some call → call.standing = .executing → changed.kind = call.kind →
    changed.standing = .finished (.ok ()) →
    shared.bootstrap = c.shared.bootstrap.withStatus call.kind .done →
    Turn c ⟨shared, c.calls.set n changed⟩

theorem turn_proceed (c : Course ι σ η) (n : Nat)
    {change : Request ι σ η → BootstrapState → Request ι σ η × BootstrapState}
    (turn : ∀ call, c.calls[n]? = some call → call.standing = .executing →
      c.Turn ⟨(change call c.shared).2, c.calls.set n (change call c.shared).1⟩) :
    c.Turn (c.proceed n change) := by
  unfold proceed
  split
  · next found => exact turn _ found rfl
  · exact .aside c.shared rfl

theorem turn_step (c : Course ι σ η) (event : Event ι σ η) : c.Turn (c.step event) := by
  cases event with
  | ask kind i generator =>
    cases checked : c.shared.bootstrap.check kind (generator.archive.map Archive.kind) with
    | error fault =>
      simp only [step, BootstrapState.enter_of_check_error checked]
      exact .refuse _ fault rfl
    | ok =>
      obtain ⟨log, entered⟩ := BootstrapState.enter_of_check_ok checked
      obtain ⟨-, pending, requirements⟩ := Bootstrap.check_eq_ok_iff.mp checked
      simp only [step, entered]
      exact .enter _ _ rfl pending requirements rfl
  | work n change =>
    rw [step]
    refine c.turn_proceed n fun call found executing => ?_
    exact .go n call _ _ found executing rfl (.inl executing) rfl
  | others change => exact .aside _ rfl
  | succeed n =>
    rw [step]
    refine c.turn_proceed n fun call found executing => ?_
    obtain ⟨log, left⟩ := BootstrapState.leave_eq call.kind call.generator.published c.shared
    rw [left]
    exact .leave n call _ _ found executing rfl rfl rfl
  | fail n fault =>
    rw [step]
    refine c.turn_proceed n fun call found executing => ?_
    exact .go n call _ _ found executing rfl (.inr ⟨fault, rfl⟩) rfl

/-! ### The invariant -/

def Executes (calls : List (Request ι σ η)) (n : Nat) (kind : Phase) : Prop :=
  ∃ call, calls[n]? = some call ∧ call.standing.executed ∧ call.kind = kind

def Answers (calls : List (Request ι σ η)) (n : Nat) (kind : Phase) : Prop :=
  ∃ call, calls[n]? = some call ∧ call.standing = .finished (.ok ()) ∧ call.kind = kind

structure Governed (c : Course ι σ η) : Prop where
  single : ∀ m n kind, Executes c.calls m kind → Executes c.calls n kind → m = n
  fits : ∀ (n : Nat) (call : Request ι σ η), c.calls[n]? = some call →
    call.standing.Fits (c.status call.kind)
  answered : ∀ kind, c.status kind = .done → ∃ n, Answers c.calls n kind
  founded : c.shared.bootstrap.Founded

theorem governed_start (delayed listing : Bool) (registry : Registry) (log : Log) :
    (start delayed listing registry log : Course ι σ η).Governed where
  single _ _ _ executes := by simp [start, Executes] at executes
  fits _ _ found := by simp [start] at found
  answered _ done := by cases done
  founded _ started := absurd rfl started

variable {c d e : Course ι σ η} {calls : List (Request ι σ η)} {call changed : Request ι σ η}
  {m n : Nat} {kind : Phase}

-- A phase whose body has begun to execute has started.
theorem Governed.started (governed : c.Governed) (executes : Executes c.calls n kind) :
    c.status kind ≠ .pending := by
  obtain ⟨call, found, executed, rfl⟩ := executes
  have fits := governed.fits n call found
  generalize c.status call.kind = status at fits
  generalize call.standing = standing at fits executed
  cases fits with
  | refused => exact executed.elim
  | executing | failed | finished => simp

theorem fits_executing_iff {status : PhaseStatus} :
    Standing.executing.Fits status ↔ status = .running :=
  ⟨fun fits => by cases fits; rfl, fun running => running ▸ .executing⟩

theorem fits_failed_iff {fault : Fault} {status : PhaseStatus} :
    (Standing.failed fault).Fits status ↔ status = .running :=
  ⟨fun fits => by cases fits; rfl, fun running => running ▸ .failed fault⟩

theorem fits_finished_iff {status : PhaseStatus} :
    (Standing.finished (.ok ())).Fits status ↔ status = .done :=
  ⟨fun fits => by cases fits; rfl, fun done => done ▸ .finished⟩

theorem Governed.running (governed : c.Governed) (found : c.calls[n]? = some call)
    (executing : call.standing = .executing) : c.status call.kind = .running :=
  fits_executing_iff.mp (executing ▸ governed.fits n call found)

theorem fits_of_not_executed {standing : Standing} (idle : ¬ standing.executed)
    (status : PhaseStatus) : standing.Fits status := by
  cases standing with
  | refused fault => exact .refused fault status
  | executing | failed | finished => exact absurd trivial idle

theorem getElem?_concat_cases {α : Type} {l : List α} {x y : α}
    (found : (l ++ [x])[n]? = some y) : l[n]? = some y ∨ n = l.length ∧ y = x := by
  rcases Nat.lt_or_ge n l.length with inside | outside
  · rw [List.getElem?_append_left inside] at found
    exact .inl found
  · rw [List.getElem?_append_right outside, List.getElem?_singleton] at found
    split at found
    · cases found
      exact .inr ⟨by omega, rfl⟩
    · cases found

theorem getElem?_set_cases {α : Type} {l : List α} {x y : α}
    (found : (l.set m x)[n]? = some y) : n = m ∧ y = x ∨ n ≠ m ∧ l[n]? = some y := by
  rw [List.getElem?_set] at found
  split at found
  · next same =>
    split at found
    · cases found
      exact .inl ⟨same.symm, rfl⟩
    · cases found
  · next differ => exact .inr ⟨Ne.symm differ, found⟩

theorem executes_concat (executes : Executes (calls ++ [call]) n kind) :
    Executes calls n kind ∨ n = calls.length ∧ call.standing.executed ∧ call.kind = kind := by
  obtain ⟨found, isFound, executed, isKind⟩ := executes
  rcases getElem?_concat_cases isFound with isFound | ⟨last, rfl⟩
  · exact .inl ⟨found, isFound, executed, isKind⟩
  · exact .inr ⟨last, executed, isKind⟩

-- A call that goes on has been executing before, and so it counts already.
theorem executes_set (found : calls[m]? = some call) (executing : call.standing = .executing)
    (sameKind : changed.kind = call.kind) (executes : Executes (calls.set m changed) n kind) :
    Executes calls n kind := by
  obtain ⟨other, isFound, executed, isKind⟩ := executes
  rcases getElem?_set_cases isFound with ⟨rfl, rfl⟩ | ⟨-, isFound⟩
  · exact ⟨call, found, by rw [executing]; trivial, sameKind.symm.trans isKind⟩
  · exact ⟨other, isFound, executed, isKind⟩

-- The call that enters a phase is the first of its phase to execute, since the phase was pending.
theorem Governed.single_concat (governed : c.Governed)
    (first : call.standing.executed → c.status call.kind = .pending) :
    ∀ m n kind, Executes (c.calls ++ [call]) m kind → Executes (c.calls ++ [call]) n kind →
      m = n := by
  intro m n kind executesM executesN
  rcases executes_concat executesM with olderM | ⟨rfl, executed, rfl⟩
  · rcases executes_concat executesN with olderN | ⟨rfl, executed, rfl⟩
    · exact governed.single m n kind olderM olderN
    · exact absurd (first executed) (governed.started olderM)
  · rcases executes_concat executesN with olderN | ⟨rfl, -, -⟩
    · exact absurd (first executed) (governed.started olderN)
    · rfl

theorem Answers.concat (answers : Answers calls n kind) (last : Request ι σ η) :
    Answers (calls ++ [last]) n kind := by
  obtain ⟨call, found, answers⟩ := answers
  exact ⟨call, (List.getElem?_append_left (List.getElem?_eq_some_iff.mp found).1).trans found,
    answers⟩

-- A call that goes on is another one than those that have come to an end.
theorem settled_set {other : Request ι σ η} (found : calls[m]? = some call)
    (executing : call.standing = .executing) (isFound : calls[n]? = some other)
    (settled : other.standing ≠ .executing) : (calls.set m changed)[n]? = some other := by
  have differ : m ≠ n := by
    rintro rfl
    cases found.symm.trans isFound
    exact settled executing
  rwa [List.getElem?_set_ne differ]

theorem Answers.set (answers : Answers calls n kind) (found : calls[m]? = some call)
    (executing : call.standing = .executing) : Answers (calls.set m changed) n kind := by
  obtain ⟨other, isFound, finished, isKind⟩ := answers
  exact ⟨other, settled_set found executing isFound (by simp [finished]), finished, isKind⟩

-- Other calls of the same phase have not been executed, and those fit whatever becomes of it.
theorem Governed.fits_set (governed : c.Governed) (found : c.calls[m]? = some call)
    (executing : call.standing = .executing) (sameKind : changed.kind = call.kind)
    (status : Phase → PhaseStatus) (others : ∀ kind, kind ≠ call.kind → status kind = c.status kind)
    (fits : changed.standing.Fits (status call.kind)) (n : Nat) (other : Request ι σ η)
    (isFound : (c.calls.set m changed)[n]? = some other) :
    other.standing.Fits (status other.kind) := by
  rcases getElem?_set_cases isFound with ⟨rfl, rfl⟩ | ⟨differ, isFound⟩
  · rwa [sameKind]
  by_cases executed : other.standing.executed
  · have apart : other.kind ≠ call.kind := by
      intro same
      have executes : Executes c.calls m call.kind := ⟨call, found, by rw [executing]; trivial, rfl⟩
      exact differ (governed.single n m call.kind ⟨other, isFound, executed, same⟩ executes)
    rw [others _ apart]
    exact governed.fits n other isFound
  · exact fits_of_not_executed executed _

-- Entering and leaving a phase concern the call itself and no other: it is the only one of its
-- phase that is executed.
theorem Governed.turn (governed : c.Governed) (turn : c.Turn d) : d.Governed := by
  cases turn with
  | aside shared same =>
    have kept (kind : Phase) : status ⟨shared, c.calls⟩ kind = c.status kind := by
      rw [status, same, status]
    refine ⟨governed.single, fun n call found => ?_, fun kind done => ?_, ?_⟩
    · rw [kept]
      exact governed.fits n call found
    · exact governed.answered kind (by rwa [kept] at done)
    · rw [same]
      exact governed.founded
  | refuse call fault refused =>
    have idle : ¬ call.standing.executed := by simp [refused, Standing.executed]
    refine ⟨governed.single_concat fun executed => absurd executed idle, ?_, ?_, governed.founded⟩
    · intro n other found
      rcases getElem?_concat_cases found with found | ⟨-, rfl⟩
      · exact governed.fits n other found
      · exact fits_of_not_executed idle _
    · exact fun kind done => (governed.answered kind done).imp fun _ answers => answers.concat call
  | enter call shared executing pending requirements same =>
    have kept {kind : Phase} (differ : kind ≠ call.kind) :
        status ⟨shared, c.calls ++ [call]⟩ kind = c.status kind := by
      rw [status, same, Bootstrap.status_withStatus_ne differ, status]
    have entered : status ⟨shared, c.calls ++ [call]⟩ call.kind = .running := by
      rw [status, same, Bootstrap.status_withStatus_self]
    refine ⟨governed.single_concat fun _ => pending, ?_, ?_, ?_⟩
    · intro n other found
      rcases getElem?_concat_cases found with found | ⟨-, rfl⟩
      · by_cases executed : other.standing.executed
        · have differ : other.kind ≠ call.kind := by
            intro sameKind
            exact governed.started ⟨other, found, executed, sameKind⟩ pending
          rw [kept differ]
          exact governed.fits n other found
        · exact fits_of_not_executed executed _
      · rw [executing, entered]
        exact .executing
    · intro kind done
      have differ : kind ≠ call.kind := by
        rintro rfl
        rw [entered] at done
        cases done
      rw [kept differ] at done
      exact (governed.answered kind done).imp fun _ answers => answers.concat call
    · rw [same]
      exact governed.founded.enter pending requirements
  | go m call changed shared found executing sameKind ended same =>
    have kept (kind : Phase) : status ⟨shared, c.calls.set m changed⟩ kind = c.status kind := by
      rw [status, same, status]
    refine ⟨?_, ?_, ?_, ?_⟩
    · intro k n kind executesK executesN
      exact governed.single k n kind (executes_set found executing sameKind executesK)
        (executes_set found executing sameKind executesN)
    · refine governed.fits_set found executing sameKind _ (fun kind _ => kept kind) ?_
      rw [kept, governed.running found executing]
      rcases ended with goesOn | ⟨fault, failed⟩
      · rw [goesOn]
        exact .executing
      · rw [failed]
        exact .failed fault
    · intro kind done
      rw [kept] at done
      exact (governed.answered kind done).imp fun _ answers => answers.set found executing
    · rw [same]
      exact governed.founded
  | leave m call changed shared found executing sameKind finished same =>
    have kept {kind : Phase} (differ : kind ≠ call.kind) :
        status ⟨shared, c.calls.set m changed⟩ kind = c.status kind := by
      rw [status, same, Bootstrap.status_withStatus_ne differ, status]
    have left : status ⟨shared, c.calls.set m changed⟩ call.kind = .done := by
      rw [status, same, Bootstrap.status_withStatus_self]
    refine ⟨?_, ?_, ?_, ?_⟩
    · intro k n kind executesK executesN
      exact governed.single k n kind (executes_set found executing sameKind executesK)
        (executes_set found executing sameKind executesN)
    · refine governed.fits_set found executing sameKind _ (fun kind => kept) ?_
      rw [left, finished]
      exact .finished
    · intro kind done
      by_cases isKind : kind = call.kind
      · have inside := (List.getElem?_eq_some_iff.mp found).1
        exact ⟨m, changed, List.getElem?_set_self inside, finished, sameKind.trans isKind.symm⟩
      · rw [kept isKind] at done
        exact (governed.answered kind done).imp fun _ answers => answers.set found executing
    · rw [same]
      exact governed.founded.leave (governed.running found executing)

theorem Governed.run (governed : c.Governed) (events : List (Event ι σ η)) :
    (c.run events).Governed := by
  induction events generalizing c with
  | nil => exact governed
  | cons event rest ih => exact ih (governed.turn (c.turn_step event))

/-! ### What lasts -/

/-- What has come to an end in a course has the same end in a later one. -/
structure Precedes (c d : Course ι σ η) : Prop where
  delayed : d.shared.bootstrap.delayed = c.shared.bootstrap.delayed
  done : ∀ kind, c.status kind = .done → d.status kind = .done
  settled : ∀ (n : Nat) (call : Request ι σ η), c.calls[n]? = some call →
    call.standing ≠ .executing → d.calls[n]? = some call

theorem Precedes.trans (first : c.Precedes d) (second : d.Precedes e) : c.Precedes e where
  delayed := second.delayed.trans first.delayed
  done kind done := second.done kind (first.done kind done)
  settled n call found settled := second.settled n call (first.settled n call found settled) settled

theorem precedes_turn (turn : c.Turn d) : c.Precedes d := by
  cases turn with
  | aside shared same =>
    refine ⟨by rw [same], fun kind done => ?_, fun n call found _ => found⟩
    rwa [status, same]
  | refuse call fault refused =>
    refine ⟨rfl, fun kind done => done, fun n other found _ => ?_⟩
    exact (List.getElem?_append_left (List.getElem?_eq_some_iff.mp found).1).trans found
  | enter call shared executing pending requirements same =>
    refine ⟨by rw [same]; rfl, fun kind done => ?_, fun n other found _ => ?_⟩
    · have differ : kind ≠ call.kind := by
        rintro rfl
        rw [done] at pending
        cases pending
      rwa [status, same, Bootstrap.status_withStatus_ne differ]
    · exact (List.getElem?_append_left (List.getElem?_eq_some_iff.mp found).1).trans found
  | go m call changed shared found executing sameKind ended same =>
    refine ⟨by rw [same], fun kind done => ?_, fun n other => settled_set found executing⟩
    rwa [status, same]
  | leave m call changed shared found executing sameKind finished same =>
    refine ⟨by rw [same]; rfl, fun kind done => ?_, fun n other => settled_set found executing⟩
    by_cases isKind : kind = call.kind
    · rw [status, same, isKind, Bootstrap.status_withStatus_self]
    · rwa [status, same, Bootstrap.status_withStatus_ne isKind]

theorem precedes_run (c : Course ι σ η) (events : List (Event ι σ η)) : c.Precedes (c.run events) := by
  induction events generalizing c with
  | nil => exact ⟨rfl, fun _ done => done, fun _ _ found _ => found⟩
  | cons event rest ih => exact (precedes_turn (c.turn_step event)).trans (ih (c.step event))

/-! ### What the calls come to -/

def Refusal (kind : Phase) (fault : Fault) : Prop :=
  (∃ actual, fault = .archiveKindMismatch kind actual) ∨ fault = .phaseAlreadyGenerated kind ∨
    ∃ required, fault = .phaseOrder kind required

-- A phase that has started is refused, whatever archive comes with the call.
theorem enter_of_started {s : BootstrapState} (started : s.bootstrap.status kind ≠ .pending)
    (archive : Option Phase) :
    ∃ fault, Refusal kind fault ∧ BootstrapState.enter kind archive s = (.error fault, s) := by
  cases checked : s.bootstrap.check kind archive with
  | error fault =>
    exact ⟨fault, Bootstrap.fault_of_check checked, BootstrapState.enter_of_check_error checked⟩
  | ok => exact absurd (Bootstrap.check_eq_ok_iff.mp checked).2.1 started

/-- Each body executes once at most, on top of what its phase requires; a phase is done exactly if a
call has succeeded; a refusal changes nothing; and a body that fails ends its phase for good. -/
theorem phases_governed (delayed listing : Bool) (registry : Registry) (log : Log)
    (earlier later : List (Event ι σ η)) :
    let c := (start delayed listing registry log : Course ι σ η).run earlier
    let d := c.run later
    (∀ kind m n, Executes c.calls m kind → Executes c.calls n kind → m = n) ∧
      (∀ kind n, Executes c.calls n kind → ∀ required ∈ kind.requires delayed,
        c.status required = .done ∧ d.status required = .done) ∧
      (∀ kind, c.shared.bootstrap.isGenerated kind = true ↔ ∃ n, Answers c.calls n kind) ∧
      (∀ kind i generator fault,
        (BootstrapState.enter kind (generator.archive.map Archive.kind) c.shared).1 = .error fault →
          Refusal kind fault ∧ c.step (.ask kind i generator) =
            ⟨c.shared, c.calls ++ [⟨kind, i, generator, .refused fault⟩]⟩) ∧
      ∀ (n : Nat) (call : Request ι σ η) (fault : Fault), c.calls[n]? = some call →
        (call.standing = .refused fault → d.calls[n]? = some call) ∧
        (call.standing = .failed fault → d.status call.kind ≠ .done ∧
          (∀ archive, ∃ cause, Refusal call.kind cause ∧
            BootstrapState.enter call.kind archive d.shared = (.error cause, d.shared)) ∧
          ∀ kind m, Executes d.calls m kind → call.kind ∉ kind.requires delayed) := by
  intro c d
  have governed : c.Governed := (governed_start delayed listing registry log).run earlier
  have later : d.Governed := governed.run later
  have precedes : c.Precedes d := precedes_run c _
  have isDelayed : c.shared.bootstrap.delayed = delayed := (precedes_run (start ..) earlier).delayed
  refine ⟨fun kind m n => governed.single m n kind, ?_, ?_, ?_, ?_⟩
  · intro kind n executes required requires
    have done : c.status required = .done :=
      governed.founded kind (governed.started executes) required (isDelayed.symm ▸ requires)
    exact ⟨done, precedes.done required done⟩
  · intro kind
    rw [Bootstrap.isGenerated, beq_iff_eq]
    refine ⟨governed.answered kind, ?_⟩
    rintro ⟨n, call, found, finished, rfl⟩
    exact fits_finished_iff.mp (finished ▸ governed.fits n call found)
  · intro kind i generator fault refused
    cases checked : c.shared.bootstrap.check kind (generator.archive.map Archive.kind) with
    | error cause =>
      have entered := BootstrapState.enter_of_check_error checked
      rw [entered, Except.error.injEq] at refused
      subst refused
      exact ⟨Bootstrap.fault_of_check checked, by simp only [step, entered]⟩
    | ok =>
      obtain ⟨log, entered⟩ := BootstrapState.enter_of_check_ok checked
      rw [entered] at refused
      cases refused
  · intro n call fault found
    refine ⟨fun refused => precedes.settled n call found (by simp [refused]), fun failed => ?_⟩
    have lasts : d.calls[n]? = some call := precedes.settled n call found (by simp [failed])
    have running : d.status call.kind = .running :=
      fits_failed_iff.mp (failed ▸ later.fits n call lasts)
    refine ⟨by simp [running], enter_of_started fun pending => ?_, ?_⟩
    · rw [status, pending] at running
      cases running
    · intro kind m executes requires
      have sameDelayed := precedes.delayed.trans isDelayed
      have done := later.founded kind (later.started executes) call.kind (sameDelayed.symm ▸ requires)
      rw [status, done] at running
      cases running

/-! ### A course -/

/-- The first phase is asked for again inside its own body, and the second one fails. -/
def nested : List (Event Unit (fun _ => CodeBuffer) fun _ => Unit) :=
  let generator := Generator.create (.create ⟨0x1000⟩ 64) .standard () none .silent false
  [.ask .initial () generator, .ask .initial () generator, .succeed 0,
    .ask .continuation () generator, .fail 2 .noCurrentStub]

theorem phases_governed_nested :
    let c := (start true false .empty (.create (.upTo 0))).run nested
    (∃ n, Answers c.calls n .initial) ∧ ¬ Executes c.calls 1 .initial ∧
      ∀ later, (c.run later).status .continuation ≠ .done ∧
        ∀ n, ¬ Executes (c.run later).calls n .final := by
  intro c
  have governed := phases_governed true false .empty (.create (.upTo 0)) nested
  have executed : Executes c.calls 0 .initial := ⟨_, rfl, trivial, rfl⟩
  refine ⟨((governed []).2.2.1 .initial).mp rfl, fun executes => ?_, fun later => ?_⟩
  · exact absurd ((governed []).1 .initial 0 1 executed executes) (by decide)
  · obtain ⟨-, -, -, -, ends⟩ := governed later
    obtain ⟨unfinished, -, never⟩ := (ends 2 _ .noCurrentStub rfl).2 rfl
    exact ⟨unfinished, fun n executes => never .final n executes (by decide)⟩

end Course

end RuntimeStubs
