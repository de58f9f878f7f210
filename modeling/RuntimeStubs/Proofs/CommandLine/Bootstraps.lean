import RuntimeStubs.Proofs.CommandLine.Phases
import RuntimeStubs.Proofs.CommandLine.Routines

/-! The bootstraps of the program.

However it produces the stubs, one after the other or with delayed compiler stubs, generated or
restored from archives, listed or not, a bootstrap ends with the same routines in its registry
(`bootstrap_eq`). The archives that the first bootstrap fills do not depend on the options either,
and they can be read back (`restore_filled`). -/

set_option autoImplicit false

namespace RuntimeStubs.CommandLine

open RuntimeStubs.Action

/-! ### Bootstraps -/

def quietSite (delayed : Bool) (archives : Archives) : Site :=
  ⟨⟨Bootstrap.create delayed false, .empty, .create (.upTo 0)⟩, archives⟩

/-- What its phases come to if the final phase comes before a delayed compiler phase. -/
def settled (delayed : Bool) (archives : Archives) : Except Fault Unit × Site :=
  runPhases delayed (Worker.interleave []) (quietSite delayed archives)

/-- Whether delayed or not, the bootstrap registers all routines, generated or hydrated. -/
structure Yields (archives : Archives) (hydrated : Bool) : Prop where
  settles : ∀ delayed, (settled delayed archives).1 = .ok () ∧
    (settled delayed archives).2.shared.registry.descriptors.Perm (registered hydrated)
  earlier : let shared := (runEarlier (quietSite true archives)).2.shared
    shared.registry.frozen = BootstrapState.isOver shared.bootstrap ∧
      shared.bootstrap.delayed = true ∧ shared.bootstrap.status .initial = .done ∧
      shared.bootstrap.status .continuation = .done

theorem Yields.since {archives : Archives} {hydrated : Bool} (yields : Yields archives hydrated) :
    let shared := (runEarlier (quietSite true archives)).2.shared
    Since shared [] shared := by
  intro shared
  obtain ⟨frozen, delayed, initial, continuation⟩ := yields.earlier
  refine ⟨?_, rfl, delayed, rfl, initial, continuation⟩
  rw [List.append_nil, ← frozen]

theorem bootstrap_eq {archives : Archives} {hydrated : Bool} (yields : Yields archives hydrated)
    (options : Options) {alongside : Alongside} (complete : alongside.Complete) (c : Console) :
    ∃ registry log, bootstrap options alongside archives c =
        (.ok (registry, (settled options.delayCompilerStubs archives).2.archives),
          { c with log := log }) ∧
      registry.descriptors.Perm (registered hydrated) := by
  let loud : Site :=
    ⟨⟨Bootstrap.create options.delayCompilerStubs options.printStubCode, .empty, c.log⟩, archives⟩
  have sites : (quietSite options.delayCompilerStubs archives).Discreet loud :=
    ⟨⟨_, _, switched_off _, rfl, rfl⟩, rfl⟩
  obtain ⟨succeeds, registers⟩ := yields.settles options.delayCompilerStubs
  have since (delayed : options.delayCompilerStubs = true) :
      let shared := (runEarlier (quietSite options.delayCompilerStubs archives)).2.shared
      Since shared [] shared := by
    rw [delayed]
    exact yields.since
  obtain ⟨ok, sameArchives, perm⟩ := runPhases_alongside complete sites since succeeds
  rcases ran : runPhases options.delayCompilerStubs alongside loud with ⟨result, site⟩
  rw [ran] at ok sameArchives perm
  obtain rfl : result = .ok () := ok.trans succeeds
  refine ⟨site.shared.registry, site.shared.log, ?_, perm.trans registers⟩
  rw [settled, ← sameArchives, bootstrap, ran]

/-! ### Archives -/

def unarchived : Archives := fun _ => none

def unfilled : Archives := fun kind => some (.create kind)

def filled : Archives := (settled false unfilled).2.archives

def Archives.reread (archives : Archives) : Archives := fun kind =>
  (archives kind).bind fun a => (Archive.ofSnapshot a.snapshot).toOption

-- A phase whose archive cannot be read back, or is read back as one of another phase, would make a
-- difference.
theorem restore_eq {archives : Archives}
    (sound : ∀ kind, ∃ a b, archives kind = some a ∧ Archive.ofSnapshot a.snapshot = .ok b ∧
      b.kind = kind) (kinds : List Phase) (c : Console) :
    ∃ log, restore archives kinds c =
      (.ok fun kind => if kind ∈ kinds then archives.reread kind else none,
        { c with log := log }) := by
  induction kinds generalizing c with
  | nil => exact ⟨c.log, rfl⟩
  | cons kind rest ih =>
    obtain ⟨a, b, attached, read, sameKind⟩ := sound kind
    obtain ⟨log, restored⟩ := ih
      { c with log := c.log.report (.archiveRestored a.kind a.storedCount a.addresses.length) }
    refine ⟨log, ?_⟩
    have here : archives.reread kind = some b := by
      simp only [Archives.reread, attached, Option.bind_some, read, Except.toOption]
    have added : Archives.put b.kind (some b)
          (fun other => if other ∈ rest then archives.reread other else none) =
        fun other => if other ∈ kind :: rest then archives.reread other else none := by
      funext other
      by_cases same : other = kind
      · simp only [Archives.put, sameKind, same, here, if_true, List.mem_cons_self]
      · simp only [Archives.put, sameKind, same, if_false, List.mem_cons, false_or]
    simp only [restore, attached, Console.report, modify_bind]
    rw [bind_of_ok (by rw [ofExcept_apply, read]), bind_of_ok restored, pure_apply, added]

theorem restore_filled (c : Console) :
    ∃ log, restore filled Phase.all c = (.ok filled.reread, { c with log := log }) := by
  have readable : ∀ kind ∈ Phase.all, (filled.reread kind).map Archive.kind = some kind := by
    decide +kernel
  have sound (kind : Phase) : ∃ a b, filled kind = some a ∧
      Archive.ofSnapshot a.snapshot = .ok b ∧ b.kind = kind := by
    obtain ⟨b, reread, sameKind⟩ := Option.map_eq_some_iff.mp (readable kind kind.mem_all)
    obtain ⟨a, attached, found⟩ := Option.bind_eq_some_iff.mp reread
    cases read : Archive.ofSnapshot a.snapshot with
    | error fault =>
      rw [read] at found
      cases found
    | ok other =>
      rw [read] at found
      cases found
      exact ⟨a, b, attached, read, sameKind⟩
  obtain ⟨log, restored⟩ := restore_eq sound Phase.all c
  simp only [Phase.mem_all, if_true] at restored
  exact ⟨log, restored⟩

/-! ### Runs on archives -/

theorem yields_unarchived : Yields unarchived false :=
  ⟨by decide +kernel, by decide +kernel⟩

theorem yields_unfilled : Yields unfilled false :=
  ⟨by decide +kernel, by decide +kernel⟩

theorem yields_reread : Yields filled.reread true :=
  ⟨by decide +kernel, by decide +kernel⟩

-- The archive of a phase does not depend on when the phase comes.
theorem archives_unfilled (delayed : Bool) : (settled delayed unfilled).2.archives = filled := by
  have same : ∀ delayed, ∀ kind ∈ Phase.all,
      (settled delayed unfilled).2.archives kind = filled kind := by decide +kernel
  exact funext fun kind => same delayed kind kind.mem_all

end RuntimeStubs.CommandLine
