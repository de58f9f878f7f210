import RuntimeStubs.Code.StubBody
import RuntimeStubs.Proofs.Bootstrap.Beside

/-! The order of a delayed compiler phase and the final phase.

Once the two earlier phases are done, the compiler phase and the final phase may come one after the
other, one inside the other, or by turns. However they come to their ends, each of them has come to
what it comes to alone (`Ends.merges`), and all ends agree (`phases_orderless`). -/

set_option autoImplicit false

namespace RuntimeStubs

namespace Thread

variable {σ τ η θ : Type} [Sink σ] [Sink τ]

structure Ends (first : Worker σ η) (second : Worker τ θ) (base : BootstrapState)
    (x : (Worker σ η × Worker τ θ) × BootstrapState) : Prop where
  turns : ∃ turns, Thread.interleave turns (resting first) (resting second) base =
    ((resting x.1.1, resting x.1.2), x.2)
  settledFirst : x.1.1.Settled
  settledSecond : x.1.2.Settled

theorem interleave_not (turns : List Bool) (first : Thread σ η) (second : Thread τ θ)
    (s : BootstrapState) :
    interleave (turns.map not) second first s =
      (((interleave turns first second s).1.2, (interleave turns first second s).1.1),
        (interleave turns first second s).2) := by
  induction turns generalizing first second s with
  | nil => rfl
  | cons turn turns ih =>
    cases turn with
    | true => exact ih ..
    | false => exact ih ..

theorem Ends.symm {first : Worker σ η} {second : Worker τ θ} {base : BootstrapState}
    {x : (Worker σ η × Worker τ θ) × BootstrapState} (ends : Ends first second base x) :
    Ends second first base ((x.1.2, x.1.1), x.2) where
  turns := by
    obtain ⟨turns, ran⟩ := ends.turns
    exact ⟨turns.map not, by rw [interleave_not, ran]⟩
  settledFirst := ends.settledSecond
  settledSecond := ends.settledFirst

theorem ends_interleave (schedule : List Bool) (first : Worker σ η) (second : Worker τ θ)
    (base : BootstrapState) :
    Ends first second base (Worker.interleave schedule first second base) where
  turns := exists_interleave schedule first second base
  settledFirst := (Worker.interleave_settled schedule first second base).1
  settledSecond := (Worker.interleave_settled schedule first second base).2

end Thread

namespace Worker

variable {σ η : Type} [Sink σ]

/-- The worker is about to enter its phase. -/
structure Fresh (kind : Phase) (w : Worker σ η) : Prop where
  phase : w.kind = kind
  waiting : w.progress = .waiting
  unopened : w.generator.active = none
  standard : w.generator.hooks = .standard

-- Results, sinks, archives and events are the same. Only a stub that a failure has left open may
-- have another handle, as somebody else registers too.
def Same (w v : Worker σ η) : Prop := ∃ active, w = v.holding active

omit [Sink σ] in
theorem Same.trans_symm {u v w : Worker σ η} (first : u.Same w) (second : v.Same w) : u.Same v := by
  obtain ⟨active, rfl⟩ := first
  obtain ⟨_, rfl⟩ := second
  exact ⟨active, rfl⟩

/-- What a worker adds to the registry if nobody else is at work. -/
def added (base : BootstrapState) (w : Worker σ η) : List Descriptor :=
  (w.run base).2.registry.descriptors.drop base.registry.size

theorem kind_step (w : Worker σ η) (s : BootstrapState) : (w.step s).1.kind = w.kind := by
  unfold step
  split
  · split <;> rfl
  · split
    · rfl
    · split <;> rfl
  · rfl
  · rfl

theorem kind_run (w : Worker σ η) (s : BootstrapState) : (w.run s).1.kind = w.kind := by
  rw [run]
  generalize w.tasks.length + 2 = n
  induction n generalizing w s with
  | zero => rfl
  | succ n ih => exact (ih ..).trans (w.kind_step s)

end Worker

namespace Thread

variable {σ τ η θ : Type} [Sink σ] [Sink τ] {base : BootstrapState} {kind : Phase}
  {entries : List (Bool × Descriptor)} {s : BootstrapState}

theorem follows_start (party : Bool) {w : Worker σ η} (fresh : w.Fresh kind)
    (since : Since base [] base) :
    Follows party base [] base (resting w) (resting w, base) where
  worker := rfl
  active := by
    rw [resting, fresh.unopened]
    exact .none
  current := .none
  standard := fresh.standard
  since := since
  status := rfl
  busy busy := absurd rfl busy
  working working := by
    rw [resting, fresh.waiting] at working
    cases working

/-- Beside another one, the worker has come to what it comes to alone. -/
structure Undisturbed (party : Bool) (w : Worker σ η) (base : BootstrapState)
    (entries : List (Bool × Descriptor)) (s : BootstrapState) (v : Worker σ η) : Prop where
  same : v.Same (w.run base).1
  added : share party entries = w.added base
  status : s.bootstrap.status w.kind = (w.run base).2.bootstrap.status w.kind

theorem Follows.settled {party : Bool} {w v : Worker σ η} {n : Nat}
    (follows : Follows party base entries s (resting v) (steps n (resting w) base))
    (settled : v.Settled) : Undisturbed party w base entries s v := by
  rcases ran : steps n (resting w) base with ⟨⟨u, current⟩, t⟩
  rw [ran] at follows
  have idle := follows.current
  cases current with
  | some computation => cases idle
  | none =>
    have same : v = u.holding v.generator.active := follows.worker
    have settledAlone : u.Settled := by rwa [same] at settled
    have alone := eq_run ran settledAlone
    have sameKind : u.kind = w.kind := by rw [← w.kind_run base, alone]
    refine ⟨⟨v.generator.active, alone ▸ same⟩, ?_, ?_⟩
    · rw [Worker.added, alone, follows.since.registry]
      exact List.drop_left.symm
    · rw [alone, ← sameKind]
      exact follows.status.symm

variable {first : Worker σ η} {second : Worker τ θ}
  {x y : (Worker σ η × Worker τ θ) × BootstrapState}

structure Merges (first : Worker σ η) (second : Worker τ θ) (base : BootstrapState)
    (entries : List (Bool × Descriptor)) (x : (Worker σ η × Worker τ θ) × BootstrapState) :
    Prop where
  since : Since base (entries.map Prod.snd) x.2
  first : Undisturbed true first base entries x.2 x.1.1
  second : Undisturbed false second base entries x.2 x.1.2

theorem Ends.merges (ends : Ends first second base x) (since : Since base [] base)
    (compiler : first.Fresh .compiler) (final : second.Fresh .final) :
    ∃ entries, Merges first second base entries x := by
  obtain ⟨turns, ran⟩ := ends.turns
  have start : Beside base [] ((resting first, resting second), base) (resting first, base)
      (resting second, base) := by
    refine ⟨since, follows_start true compiler since, follows_start false final since, ?_⟩
    rw [resting, resting, compiler.phase, final.phase]
    decide
  obtain ⟨entries, m, n, beside⟩ := start.interleave turns
  rw [ran] at beside
  exact ⟨entries, beside.since, beside.one.settled ends.settledFirst,
    beside.other.settled ends.settledSecond⟩

/-- Nothing that can be observed of two endings is different. -/
structure Agree (x y : (Worker σ η × Worker τ θ) × BootstrapState) : Prop where
  first : x.1.1.Same y.1.1
  second : x.1.2.Same y.1.2
  bootstrap : x.2.bootstrap = y.2.bootstrap
  frozen : x.2.registry.frozen = y.2.registry.frozen
  descriptors : x.2.registry.descriptors.Perm y.2.registry.descriptors

def Apart (first : Worker σ η) (second : Worker τ θ) (base : BootstrapState) : Prop :=
  ∀ d ∈ first.added base, ∀ e ∈ second.added base, ∀ pc,
    d.contains pc = true → e.contains pc = false

theorem Merges.perm (merges : Merges first second base entries x) :
    x.2.registry.descriptors.Perm
      (base.registry.descriptors ++ (first.added base ++ second.added base)) := by
  rw [merges.since.registry, ← merges.first.added, ← merges.second.added]
  exact (perm_shares entries).symm.append_left _

-- An address lies in descriptors of one worker at most, and those have the same order in all runs.
theorem Merges.find?_eq {others : List (Bool × Descriptor)}
    (merges : Merges first second base entries x) (mergesToo : Merges first second base others y)
    (apart : Apart first second base) (pc : Address) :
    x.2.registry.find? pc = y.2.registry.find? pc := by
  have sameFirst : share true entries = share true others :=
    merges.first.added.trans mergesToo.first.added.symm
  have sameSecond : share false entries = share false others :=
    merges.second.added.trans mergesToo.second.added.symm
  have recent : (entries.map Prod.snd).reverse.find? (·.contains pc) =
      (others.map Prod.snd).reverse.find? (·.contains pc) := by
    by_cases hit : ∃ d ∈ share true others, d.contains pc = true
    · obtain ⟨d, member, contains⟩ := hit
      have misses : ∀ e ∈ share false others, e.contains pc = false := fun e memberToo =>
        apart d (mergesToo.first.added ▸ member) e (mergesToo.second.added ▸ memberToo) pc contains
      rw [find?_share true (sameSecond ▸ misses), find?_share true misses, sameFirst]
    · have misses : ∀ d ∈ share true others, d.contains pc = false := by simpa using hit
      rw [find?_share false (sameFirst ▸ misses), find?_share false misses, sameSecond]
  simp only [Registry.find?, Registry.newestFirst, merges.since.registry, mergesToo.since.registry,
    List.reverse_append, List.find?_append, recent]

theorem Merges.agree {others : List (Bool × Descriptor)}
    (merges : Merges first second base entries x) (mergesToo : Merges first second base others y)
    (compiler : first.kind = .compiler) (final : second.kind = .final) : Agree x y := by
  have statusFirst := merges.first.status.trans mergesToo.first.status.symm
  have statusSecond := merges.second.status.trans mergesToo.second.status.symm
  rw [compiler] at statusFirst
  rw [final] at statusSecond
  have bootstrap := merges.since.bootstrap_eq mergesToo.since statusFirst statusSecond
  refine ⟨merges.first.same.trans_symm mergesToo.first.same,
    merges.second.same.trans_symm mergesToo.second.same, bootstrap, ?_,
    merges.perm.trans mergesToo.perm.symm⟩
  rw [merges.since.registry, mergesToo.since.registry, bootstrap]

-- The freeze of the registry is as the phases before have left it.
theorem since_run (listing : Bool) (log : Log) (events : List Timeline.Event) :
    let base := ((Timeline.start true listing log).run events).shared
    base.bootstrap.status .initial = .done → base.bootstrap.status .continuation = .done →
      Since base [] base := by
  intro base initial continuation
  have sequenced := (Timeline.sequenced_start true listing log).run events
  have frozen : base.registry.frozen = BootstrapState.isOver base.bootstrap := by
    rw [Bool.eq_iff_iff, BootstrapState.isOver, Bool.and_eq_true, beq_iff_eq, bne_iff_ne]
    exact sequenced.frozen
  refine ⟨?_, rfl, Timeline.delayed_run _ events, rfl, initial, continuation⟩
  rw [List.append_nil, ← frozen]

/-- The compiler phase and the final phase may come in any order, and one may interrupt the other at
any step: both come to the same, and so does all that they leave behind. -/
theorem phases_orderless (listing : Bool) (log : Log) (events : List Timeline.Event)
    (compiler : first.Fresh .compiler) (final : second.Fresh .final) :
    let base := ((Timeline.start true listing log).run events).shared
    base.bootstrap.status .initial = .done → base.bootstrap.status .continuation = .done →
      (∀ schedule, Ends first second base (Worker.interleave schedule first second base)) ∧
        ∀ x, Ends first second base x →
          x.2.registry.descriptors.Perm
              (base.registry.descriptors ++ (first.added base ++ second.added base)) ∧
            ∀ y, Ends first second base y → Agree x y ∧
              (Apart first second base → ∀ pc, x.2.registry.find? pc = y.2.registry.find? pc) := by
  intro base initial continuation
  have since : Since base [] base := since_run listing log events initial continuation
  refine ⟨fun schedule => ends_interleave schedule first second base, fun x ends => ?_⟩
  obtain ⟨entries, merges⟩ := ends.merges since compiler final
  refine ⟨merges.perm, fun y endsToo => ?_⟩
  obtain ⟨others, mergesToo⟩ := endsToo.merges since compiler final
  exact ⟨merges.agree mergesToo compiler.phase final.phase, merges.find?_eq mergesToo⟩

/-! ### The compiler phase inside the final phase -/

def assembler (kind : Phase) (base : UInt64) (tasks : List (Task CodeBuffer)) :
    Worker CodeBuffer Unit :=
  .create kind (.create (.create ⟨base⟩ 64) .standard () none .silent false) tasks

def compilerWorker : Worker CodeBuffer Unit :=
  assembler .compiler 0x1000 [⟨.sha256ImplCompress, 0, Stub.sha256ImplCompress.emitBody⟩,
    ⟨.md5ImplCompress, 1, Stub.md5ImplCompress.emitBody⟩]

def finalWorker : Worker CodeBuffer Unit :=
  assembler .final 0x2000 [⟨.verifyOop, 0, Stub.verifyOop.emitBody⟩,
    ⟨.jbyteArraycopy, 1, Stub.jbyteArraycopy.emitBody⟩]

def earlierPhases : List Timeline.Event :=
  [.ask .initial none, .succeed .initial 0, .ask .continuation none, .succeed .continuation 0]

-- The compiler phase fails in the middle of the final phase.
theorem phases_orderless_nested :
    let base := ((Timeline.start true false (.create (.upTo 0))).run earlierPhases).shared
    let apart := Worker.interleave [] compilerWorker finalWorker base
    let nested := Worker.interleave [false, false, true, true, true] compilerWorker finalWorker base
    nested.1.1.progress = .failed (.entryCountMismatch .md5ImplCompress 1 0) ∧
      Agree apart nested ∧ (∀ pc, apart.2.registry.find? pc = nested.2.registry.find? pc) ∧
      apart.2.registry.descriptors ≠ nested.2.registry.descriptors := by
  intro base apart nested
  have compiler : compilerWorker.Fresh .compiler := ⟨rfl, rfl, rfl, rfl⟩
  have final : finalWorker.Fresh .final := ⟨rfl, rfl, rfl, rfl⟩
  obtain ⟨ends, orderless⟩ :=
    phases_orderless false (.create (.upTo 0)) earlierPhases compiler final rfl rfl
  obtain ⟨agree, same⟩ := (orderless apart (ends [])).2 nested (ends _)
  have low : ∀ d ∈ compilerWorker.added base, d.stopOrStart ≤ ⟨0x2000⟩ := by decide +kernel
  have high : ∀ d ∈ finalWorker.added base, ⟨0x2000⟩ ≤ d.start := by decide +kernel
  refine ⟨by decide +kernel, agree, same ?_, by decide +kernel⟩
  intro d memberD e memberE pc contains
  obtain ⟨stop, ends, -, before⟩ := Descriptor.contains_iff.mp contains
  have bound := low d memberD
  rw [Descriptor.stopOrStart, ends] at bound
  refine Bool.eq_false_iff.mpr fun containsToo => ?_
  obtain ⟨_, -, after, -⟩ := Descriptor.contains_iff.mp containsToo
  have below : pc.raw < (0x2000 : UInt64) := UInt64.lt_of_lt_of_le before bound
  exact UInt64.lt_irrefl _ (UInt64.lt_of_lt_of_le below (UInt64.le_trans (high e memberE) after))

end Thread

end RuntimeStubs
