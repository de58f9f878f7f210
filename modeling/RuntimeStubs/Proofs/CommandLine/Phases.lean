import RuntimeStubs.Proofs.Bootstrap.Discretion
import RuntimeStubs.Proofs.Bootstrap.Orderless
import RuntimeStubs.CommandLine.Program

/-! The phases of the program.

What the phases leave behind depends neither on the log and the listing of code
(`discreet_runPhases`) nor on the turns that the final phase and a delayed compiler phase take
(`runDelayed_alongside`). One quiet run therefore stands for all of them, up to the order in which
routines are registered (`runPhases_alongside`). -/

set_option autoImplicit false

namespace RuntimeStubs.CommandLine

open RuntimeStubs.Action

/-- Both workers come to their ends, whatever turns they take. -/
def Alongside.Complete (alongside : Alongside) : Prop :=
  ∀ final compiler base, Thread.Ends final compiler base (alongside final compiler base)

theorem complete_interleave (schedule : List Bool) :
    Alongside.Complete (Worker.interleave schedule) := Thread.ends_interleave schedule

/-! ### Quiet runs -/

def Site.Discreet (a b : Site) : Prop :=
  a.shared.Discreet True Hushed b.shared ∧ b.archives = a.archives

def Discreet (w v : Worker CodeBuffer Unit) : Prop := w.Discreet True Hushed Eq .logging v

theorem discreet_worker (kind : Phase) (archives : Archives) :
    Discreet (worker kind archives) (worker kind archives) :=
  ⟨_, Generator.discreet_create (Hooks.discreet_standard louder_hushed) rfl (.inl rfl) _ _, rfl⟩

theorem Discreet.same {w v : Worker CodeBuffer Unit} (workers : Discreet w v) :
    outcome v = outcome w ∧ v.generator.archive = w.generator.archive := by
  obtain ⟨generator, generators, rfl⟩ := workers
  have hushed : Hushed (.create (.upTo 0)) (.create (.upTo 0)) := rfl
  exact ⟨rfl, (generators .empty _ _ hushed).same.2.1⟩

theorem discreet_runPhase (kind : Phase) :
    Couples Site.Discreet (runPhase kind) (runPhase kind) := by
  rintro ⟨s, _⟩ ⟨t, archives⟩ ⟨states, rfl⟩
  obtain ⟨workers, states⟩ :=
    Worker.discreet_run louder_hushed (discreet_worker kind archives) states
  obtain ⟨same, archive⟩ := Discreet.same workers
  exact ⟨same.symm, states, congrArg (Archives.put kind · archives) archive⟩

theorem discreet_runDelayed (schedule : List Bool) :
    Couples Site.Discreet (runDelayed (Worker.interleave schedule))
      (runDelayed (Worker.interleave schedule)) := by
  rintro ⟨s, _⟩ ⟨t, archives⟩ ⟨states, rfl⟩
  obtain ⟨finals, compilers, states⟩ := Worker.discreet_interleave louder_hushed schedule
    (discreet_worker .final archives) (discreet_worker .compiler archives) states
  obtain ⟨sameFinal, archiveFinal⟩ := Discreet.same finals
  obtain ⟨sameCompiler, archiveCompiler⟩ := Discreet.same compilers
  refine ⟨?_, states, ?_⟩
  · simp only [runDelayed, sameFinal, sameCompiler]
  · simp only [runDelayed, archiveFinal, archiveCompiler]

def runEarlier : Action Site Unit := do
  runPhase .initial
  runPhase .continuation

theorem discreet_runEarlier : Couples Site.Discreet runEarlier runEarlier :=
  (discreet_runPhase .initial).bind fun _ => discreet_runPhase .continuation

def runLater (delayed : Bool) (alongside : Alongside) : Action Site Unit :=
  if delayed then runDelayed alongside
  else do
    runPhase .compiler
    runPhase .final

theorem runPhases_eq (delayed : Bool) (alongside : Alongside) :
    runPhases delayed alongside = runEarlier >>= fun _ => runLater delayed alongside := by
  funext site
  simp only [runPhases, runEarlier, bind_apply]
  rcases runPhase .initial site with ⟨_ | _, _⟩ <;> rfl

theorem discreet_runLater (delayed : Bool) (schedule : List Bool) :
    Couples Site.Discreet (runLater delayed (Worker.interleave schedule))
      (runLater delayed (Worker.interleave schedule)) := by
  cases delayed with
  | true => exact discreet_runDelayed schedule
  | false => exact (discreet_runPhase .compiler).bind fun _ => discreet_runPhase .final

/-! ### Turns -/

/-- The same archives, and the same descriptors in some order. -/
def Site.Reordered (a b : Site) : Prop :=
  a.archives = b.archives ∧ a.shared.registry.descriptors.Perm b.shared.registry.descriptors

theorem fresh_worker (kind : Phase) (archives : Archives) : (worker kind archives).Fresh kind :=
  ⟨rfl, rfl, rfl, rfl⟩

theorem outcome_of_same {w v : Worker CodeBuffer Unit} (same : w.Same v) :
    outcome w = outcome v ∧ w.generator.archive = v.generator.archive := by
  obtain ⟨_, rfl⟩ := same
  exact ⟨rfl, rfl⟩

theorem runDelayed_alongside {first second : Alongside} (complete : first.Complete)
    (completeToo : second.Complete) {site : Site} (since : Since site.shared [] site.shared) :
    Coupled Site.Reordered (runDelayed first site) (runDelayed second site) := by
  have ends := complete (worker .final site.archives) (worker .compiler site.archives) site.shared
  have endsToo :=
    completeToo (worker .final site.archives) (worker .compiler site.archives) site.shared
  simp only [runDelayed]
  generalize first _ _ _ = x at ends ⊢
  generalize second _ _ _ = y at endsToo ⊢
  have compiler := fresh_worker .compiler site.archives
  have final := fresh_worker .final site.archives
  obtain ⟨entries, merges⟩ := ends.symm.merges since compiler final
  obtain ⟨others, mergesToo⟩ := endsToo.symm.merges since compiler final
  have agree := merges.agree mergesToo rfl rfl
  obtain ⟨sameCompiler, archiveCompiler⟩ := outcome_of_same agree.first
  obtain ⟨sameFinal, archiveFinal⟩ := outcome_of_same agree.second
  dsimp only at sameCompiler archiveCompiler sameFinal archiveFinal
  refine ⟨?_, ?_, agree.descriptors⟩
  · simp only [sameFinal, sameCompiler]
  · simp only [archiveFinal, archiveCompiler]

theorem Site.Reordered.discreet {a b c : Site} (reordered : a.Reordered b) (sites : c.Discreet b) :
    a.Reordered c := by
  obtain ⟨⟨listing, log, -, -, same⟩, archives⟩ := sites
  rw [Site.Reordered, same, archives] at reordered
  exact reordered

theorem since_of_discreet {s t : BootstrapState} (since : Since s [] s)
    (states : s.Discreet True Hushed t) : Since t [] t := by
  obtain ⟨listing, log, -, -, rfl⟩ := states
  exact ⟨since.registry, rfl, since.delayed, rfl, since.initial, since.continuation⟩

/-- If a quiet run of all phases succeeds, then so does every other one, and it leaves the same
archives and, in some order, the same descriptors. -/
theorem runPhases_alongside {delayed : Bool} {alongside : Alongside} (complete : alongside.Complete)
    {quiet loud : Site} (sites : quiet.Discreet loud)
    (since : delayed = true → Since (runEarlier quiet).2.shared [] (runEarlier quiet).2.shared)
    (succeeds : (runPhases delayed (Worker.interleave []) quiet).1 = .ok ()) :
    Coupled Site.Reordered (runPhases delayed alongside loud)
      (runPhases delayed (Worker.interleave []) quiet) := by
  have earlier := discreet_runEarlier quiet loud sites
  rw [runPhases_eq] at succeeds ⊢
  rw [runPhases_eq]
  rcases ran : runEarlier quiet with ⟨_ | _, quiet'⟩
  · rw [bind_of_error ran] at succeeds
    cases succeeds
  · rcases ranToo : runEarlier loud with ⟨result, loud'⟩
    rw [ran, ranToo] at earlier
    obtain ⟨rfl, sites⟩ := earlier
    rw [bind_of_ok ran, bind_of_ok ranToo]
    have turns : Coupled Site.Reordered (runLater delayed alongside loud')
        (runLater delayed (Worker.interleave []) loud') := by
      cases delayed with
      | false => exact ⟨rfl, rfl, .refl _⟩
      | true =>
        rw [ran] at since
        exact runDelayed_alongside complete (complete_interleave [])
          (since_of_discreet (since rfl) sites.1)
    obtain ⟨same, later⟩ := discreet_runLater delayed [] quiet' loud' sites
    exact ⟨turns.1.trans same.symm, turns.2.discreet later⟩

end RuntimeStubs.CommandLine
