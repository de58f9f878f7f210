import RuntimeStubs.Proofs.Session.Coupling
import RuntimeStubs.Proofs.Session.Restoration

/-! Sessions to which an archive is attached that lacks what they are asked for.

Such a session runs in step with the same session without an archive: its look-ups miss, and what it
stores is stored into empty slots. Main statement (`attemptAll_attached`): over stubs of one phase,
none of them asked for twice, and as long as no address is null, the archive shows in no result and
in nothing that is left behind but itself and the reports about it. -/

set_option autoImplicit false

namespace RuntimeStubs

/-- The epilog of the hooks does not look at what has been reported. It may ask whether something
would be. -/
def Hooks.Heedless {σ η : Type} (hooks : Hooks σ η) : Prop :=
  ∀ sink d listing memory (log other : Log), log.filter = other.filter →
    (hooks.epilog sink d listing (memory, log)).1 =
        (hooks.epilog sink d listing (memory, other)).1 ∧
      (hooks.epilog sink d listing (memory, log)).2.1 =
        (hooks.epilog sink d listing (memory, other)).2.1 ∧
      (hooks.epilog sink d listing (memory, log)).2.2.filter =
        (hooks.epilog sink d listing (memory, other)).2.2.filter

namespace Log

-- Of the log, a description depends on nothing at all.
theorem describe_fst (d : Descriptor) (code : Option (List UInt8)) (listing : Bool)
    (log other : Log) : (describe d code listing log).1 = (describe d code listing other).1 := by
  unfold describe
  split
  · split
    · rfl
    · split <;> rfl
  · rfl

theorem filter_describe (d : Descriptor) (code : Option (List UInt8)) (listing : Bool)
    (log : Log) : (describe d code listing log).2.filter = log.filter := by
  unfold describe
  split
  · split
    · simp
    · split <;> simp
  · simp

end Log

theorem Hooks.heedless_standard {σ η : Type} [Sink σ] :
    (Hooks.standard : Hooks σ η).Heedless := by
  intro sink d listing memory log other same
  refine ⟨Log.describe_fst .., rfl, ?_⟩
  simp only [standard, Log.filter_describe, same]

def StubEntries.NotNull (e : StubEntries) : Prop :=
  e.start.isNull = false ∧ e.entries.any Address.isNull = false

instance (e : StubEntries) : Decidable e.NotNull := inferInstanceAs (Decidable (_ ∧ _))

theorem Address.not_null_of_not_lt {a b : Address} (ordered : ¬ b < a) (start : a.isNull = false) :
    b.isNull = false := by
  rw [isNull, beq_eq_false_iff_ne, ne_eq, ← UInt64.toNat_inj] at start ⊢
  rw [lt_iff] at ordered
  simp only [UInt64.toNat_zero] at start ⊢
  omega

namespace Archive

/-- An archive of a phase in which some stubs have no slot filled. -/
def Lacks (kind : Phase) (pending : List Stub) (a : Archive) : Prop :=
  a.kind = kind ∧ ∀ stub ∈ pending, stub.phase = kind ∧ a.slot? stub.localIndex = none

variable {a : Archive} {kind : Phase} {stub : Stub} {rest : List Stub}

theorem Lacks.tail (lacks : a.Lacks kind (stub :: rest)) : a.Lacks kind rest :=
  ⟨lacks.1, (List.forall_mem_cons.mp lacks.2).2⟩

theorem Lacks.find (lacks : a.Lacks kind (stub :: rest)) :
    a.find stub = .ok (false, a.rested) := by
  obtain ⟨phase, empty⟩ := lacks.2 stub List.mem_cons_self
  refine find_eq_ok_iff.mpr ⟨phase.trans lacks.1.symm, ?_, rfl⟩
  rw [empty, Option.isSome_none]

-- The slot that is filled is the one of the stub, and different stubs of a phase have different
-- slots.
theorem Lacks.store {start stop : Address} {extras : List Address}
    (lacks : a.Lacks kind (stub :: rest)) (distinct : stub ∉ rest)
    (start_ne : start.isNull = false) (stop_ne : stop.isNull = false)
    (extras_ne : extras.any Address.isNull = false) :
    a.store stub start stop extras = .ok (a.stored stub start stop extras) ∧
      (a.stored stub start stop extras).Lacks kind rest := by
  obtain ⟨phase, empty⟩ := lacks.2 stub List.mem_cons_self
  refine ⟨store_eq_ok_iff.mpr
    ⟨phase.trans lacks.1.symm, empty, start_ne, stop_ne, extras_ne, rfl⟩, lacks.1, ?_⟩
  intro other member
  obtain ⟨otherPhase, otherEmpty⟩ := lacks.tail.2 other member
  refine ⟨otherPhase, ?_⟩
  rwa [slot?_stored_ne]
  intro same
  exact distinct (Stub.localIndex_inj (phase.trans otherPhase.symm) same ▸ member)

end Archive

namespace Session

open RuntimeStubs.Action

variable {σ η : Type} {P : Archive → Prop} {s t : Session σ η}

/-- The second session is the first with an archive, which the first has none of, and with reports
of its own. -/
def Attached (P : Archive → Prop) (s t : Session σ η) : Prop :=
  s.archive = none ∧ s.hooks.Heedless ∧ ∃ a log, P a ∧ log.filter = s.log.filter ∧
    t = { s with archive := some a, log := log }

theorem Attached.mono {Q : Archive → Prop} (related : Attached P s t) (weaken : ∀ a, P a → Q a) :
    Attached Q s t := by
  obtain ⟨bare, heedless, a, log, holds, same, rfl⟩ := related
  exact ⟨bare, heedless, a, log, weaken a holds, same, rfl⟩

-- Telling the listener of something leaves the filters alike, and what the listener asks for
-- depends on the filter at most.
theorem Attached.tell (event : Event) (related : Attached P s t) :
    Attached P (s.tell event) (t.tell event) := by
  obtain ⟨bare, heedless, a, log, holds, same, rfl⟩ := related
  refine ⟨bare, heedless, a, _, holds, ?_, rfl⟩
  exact (filter_receive ..).trans (same.trans (filter_receive ..).symm)

theorem attached_publish (d : Descriptor) :
    Couples (Attached P) (publish d : Action (Session σ η) Unit) (publish d) := by
  rintro s t ⟨bare, heedless, a, log, holds, same, rfl⟩
  obtain ⟨first, firstSame, published⟩ := publish_announced d s
  obtain ⟨second, secondSame, also⟩ := publish_announced d { s with archive := some a, log := log }
  have filters : second.filter = first.filter := secondSame.trans (same.trans firstSame.symm)
  rw [published, also]
  refine ⟨rfl, bare, heedless, a, second, holds, filters, ?_⟩
  simp only [announced, ← announcement_congr filters d s]
  rfl

theorem attached_runEpilog (d : Descriptor) :
    Couples (Attached P) (runEpilog d : Action (Session σ η) Unit) (runEpilog d) := by
  rintro s t ⟨bare, heedless, a, log, holds, same, rfl⟩
  obtain ⟨result, memory, filter⟩ := heedless s.sink d s.listing s.memory log s.log same
  refine ⟨congrArg Fault.ofAborting result.symm, bare, heedless, a, _, holds, filter, ?_⟩
  simp only [runEpilog, get_bind, focus_apply, aborting_apply, memory]

theorem attached_describe (d : Descriptor) :
    Couples (Attached P) (describe d none : Action (Session σ η) Unit) (describe d none) := by
  rintro s t ⟨bare, heedless, a, log, holds, same, rfl⟩
  refine ⟨congrArg Fault.ofAborting (Log.describe_fst d none s.listing _ _), bare, heedless, a, _,
    holds, ?_, rfl⟩
  exact (Log.filter_describe d none s.listing log).trans
    (same.trans (Log.filter_describe d none s.listing s.log).symm)

section

variable [Sink σ]

theorem bridges_attached :
    Bridges (Attached P : Session σ η → Session σ η → Prop) where
  registry := by
    rintro s t ⟨-, -, a, log, -, -, rfl⟩
    rfl
  active := by
    rintro s t ⟨-, -, a, log, -, -, rfl⟩
    rfl
  pc := by
    rintro s t ⟨-, -, a, log, -, -, rfl⟩
    rfl
  base := by
    rintro s t ⟨-, -, a, log, -, -, rfl⟩
    rfl
  setRegistry := by
    rintro s t r ⟨bare, heedless, a, log, holds, same, rfl⟩
    exact ⟨bare, heedless, a, log, holds, same, rfl⟩
  setActive := by
    rintro s t active ⟨bare, heedless, a, log, holds, same, rfl⟩
    exact ⟨bare, heedless, a, log, holds, same, rfl⟩
  report := by
    rintro s t d ⟨bare, heedless, a, log, holds, same, rfl⟩
    refine ⟨bare, heedless, a, log.report d, holds, ?_, rfl⟩
    simp only [Log.filter_report, same]
  flush := by
    rintro s t ⟨bare, heedless, a, log, holds, same, rfl⟩
    exact ⟨rfl, bare, heedless, a, log, holds, same, rfl⟩
  prolog := by
    rintro d s t ⟨bare, heedless, a, log, holds, same, rfl⟩
    exact ⟨rfl, bare, heedless, a, log, holds, same, rfl⟩
  epilog := attached_runEpilog
  describe := attached_describe
  publish := attached_publish
  address a related := related.tell (.address a)

variable {kind : Phase} {stub : Stub} {rest : List Stub} {extra : Nat}
  {emit : Action σ (List Address)}

omit [Sink σ] in
theorem attached_lookUp :
    Couples (Attached (Archive.Lacks kind (stub :: rest)))
      (lookUp stub : Action (Session σ η) (Option ArchivedStub)) (lookUp stub) := by
  rintro s t ⟨bare, heedless, a, log, lacks, same, rfl⟩
  simp only [lookUp, bare, lacks.find]
  refine ⟨rfl, bare, heedless, a.rested, _, lacks, ?_, rfl⟩
  rw [Log.filter_report, same]

-- Without an archive there is nothing to refuse the addresses, and with one there is no reason to.
theorem attached_commit {start stop : Address} {extras : List Address} (distinct : stub ∉ rest)
    (start_ne : start.isNull = false) (ordered : ¬ stop < start)
    (extras_ne : extras.any Address.isNull = false)
    (related : Attached (Archive.Lacks kind (stub :: rest)) s t) :
    Coupled (Attached (Archive.Lacks kind rest)) (commit stub start stop extras s)
      (commit stub start stop extras t) := by
  apply bridges_attached.commit
  obtain ⟨bare, heedless, a, log, lacks, same, rfl⟩ := related
  obtain ⟨stored, lacksRest⟩ := lacks.store distinct start_ne
    (Address.not_null_of_not_lt ordered start_ne) extras_ne
  simp only [archiveStub, bare, stored]
  refine ⟨rfl, bare, heedless, _, _, lacksRest, ?_, rfl⟩
  rw [Log.filter_report, same]

theorem attached_generate (distinct : stub ∉ rest)
    (related : Attached (Archive.Lacks kind (stub :: rest)) s t)
    (notNull : ∀ e, (generate stub extra emit s).1 = .ok e → e.NotNull) :
    Coupled (Attached (Archive.Lacks kind rest)) (generate stub extra emit s)
      (generate stub extra emit t) := by
  let Good (outcome : Except Fault StubEntries × Session σ η) : Prop :=
    ∀ e, outcome.1 = .ok e → e.NotNull
  have weaken (fault : Fault) (s t : Session σ η) (_ : Good (.error fault, s))
      (related : Attached (Archive.Lacks kind (stub :: rest)) s t) :
      Attached (Archive.Lacks kind rest) s t := related.mono fun _ lacks => lacks.tail
  have missed : hydrate? stub extra s = (.ok none, s) := by
    simp only [hydrate?, bind_apply, lookUp, related.1, pure_apply]
  have hydrates : Coupled (Attached (Archive.Lacks kind (stub :: rest))) (hydrate? stub extra s)
      (hydrate? stub extra t) := bridges_attached.hydrate? attached_lookUp s t related
  rw [generate_eq] at notNull ⊢
  refine hydrates.bind_within (P := Good) weaken notNull ?_
  intro hydrated? u v ran related notNull
  cases missed.symm.trans ran
  refine bridges_attached.generateFresh bridges_attached (P := Good) weaken ?_ weaken ?_ related
    notNull
  · rintro s t ⟨bare, heedless, a, log, lacks, same, rfl⟩
    exact ⟨rfl, bare, heedless, a, log, lacks, same, rfl⟩
  · intro d entries s t ordered related notNull
    have committed : (commit stub d.start d.stopOrStart entries s).1 = .ok () := by
      simp only [commit, bind_apply, archiveStub, related.1, modify_apply]
    have isNotNull : StubEntries.NotNull ⟨stub, d.start, d.stopOrStart, entries, false⟩ :=
      notNull _ (by rw [bind_of_ok (Prod.ext committed rfl), pure_apply])
    exact attached_commit distinct isNotNull.1 ordered isNotNull.2 related

-- Induction on the tasks. Each of them fills its own slot at most, so that the next ones find
-- theirs as empty as it was.
theorem attemptAll_of_attached {tasks : List (Task σ)} (distinct : (tasks.map Task.stub).Nodup)
    (related : Attached (Archive.Lacks kind (tasks.map Task.stub)) s t)
    (notNull : ∀ e, .ok e ∈ (attemptAll tasks s).1 → e.NotNull) :
    (attemptAll tasks s).1 = (attemptAll tasks t).1 ∧
      Attached (Archive.Lacks kind []) (attemptAll tasks s).2 (attemptAll tasks t).2 := by
  induction tasks generalizing s t with
  | nil => exact ⟨rfl, related⟩
  | cons task rest ih =>
    obtain ⟨fresh, distinctRest⟩ := List.nodup_cons.mp distinct
    obtain ⟨same, relatedRest⟩ := attached_generate fresh related
      fun e isOk => notNull e (isOk ▸ List.mem_cons_self)
    obtain ⟨others, ending⟩ := ih distinctRest relatedRest
      fun e member => notNull e (List.mem_cons_of_mem _ member)
    exact ⟨congrArg₂ List.cons same others, ending⟩

/-- An archive that lacks all the stubs is transparent. Only stubs that the session without an
archive generates have to have addresses other than null. -/
theorem attemptAll_attached (tasks : List (Task σ)) (a : Archive) (bare : s.archive = none)
    (heedless : s.hooks.Heedless) (distinct : (tasks.map Task.stub).Nodup)
    (phases : ∀ task ∈ tasks, task.stub.phase = a.kind)
    (empty : ∀ task ∈ tasks, a.slot? task.stub.localIndex = none)
    (notNull : ∀ e, .ok e ∈ (attemptAll tasks s).1 → e.NotNull) :
    (attemptAll tasks { s with archive := some a }).1 = (attemptAll tasks s).1 ∧
      ∃ b log, b.kind = a.kind ∧ (attemptAll tasks { s with archive := some a }).2 =
        { (attemptAll tasks s).2 with archive := some b, log := log } := by
  have lacks : a.Lacks a.kind (tasks.map Task.stub) := by
    refine ⟨rfl, List.forall_mem_map.mpr ?_⟩
    exact fun task member => ⟨phases task member, empty task member⟩
  have related : Attached (Archive.Lacks a.kind (tasks.map Task.stub)) s
      { s with archive := some a } := ⟨bare, heedless, a, s.log, lacks, rfl, rfl⟩
  obtain ⟨same, -, -, b, log, holds, -, ending⟩ := attemptAll_of_attached distinct related notNull
  exact ⟨same.symm, b, log, holds.1, ending⟩

end

/-- A stub, one whose code cannot be emitted, and one that is refused because the second is still
open. -/
def attempts : List (Task CodeBuffer) :=
  [⟨.callStub, 1, Stub.callStub.emitBody⟩, ⟨.fence, 0, Action.fail .noCurrentStub⟩,
    ⟨.forwardException, 0, Stub.forwardException.emitBody⟩]

def bareSession : Session CodeBuffer Unit := { callsSession (.create .initial) with archive := none }

theorem attemptAll_attached_attempts :
    ∃ b log, attemptAll attempts (callsSession (.create .initial)) =
      ([.ok ⟨.callStub, ⟨0x1000⟩, ⟨0x1018⟩, [⟨0x100e⟩], false⟩, .error .noCurrentStub,
          .error (.nestedStub "fence" "forward_exception")],
        { (attemptAll attempts bareSession).2 with archive := some b, log := log }) := by
  have results : (attemptAll attempts bareSession).1 =
      [.ok ⟨.callStub, ⟨0x1000⟩, ⟨0x1018⟩, [⟨0x100e⟩], false⟩, .error .noCurrentStub,
        .error (.nestedStub "fence" "forward_exception")] := by rfl
  obtain ⟨same, b, log, -, ending⟩ := attemptAll_attached (s := bareSession) attempts
    (.create .initial) rfl Hooks.heedless_standard (by decide) (by decide)
    (fun task _ => Archive.slot?_create ..)
    (by
      intro e member
      simp only [results, List.mem_cons, Except.ok.injEq, reduceCtorEq, List.not_mem_nil, or_self,
        or_false] at member
      subst member
      decide)
  exact ⟨b, log, Prod.ext (same.trans results) ending⟩

end Session

end RuntimeStubs
