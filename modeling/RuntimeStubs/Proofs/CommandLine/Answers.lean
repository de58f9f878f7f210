import RuntimeStubs.Proofs.CommandLine.Asking
import RuntimeStubs.Proofs.CommandLine.Bootstraps

/-! What the program answers.

Main statement (`runAlongside_answers`): every run succeeds, reports statistics of all routines, a
second time if it archives them, and tells for each look-up which routine the address lies in. How
the stubs were produced makes no difference to the look-ups. -/

set_option autoImplicit false

namespace RuntimeStubs.CommandLine

open RuntimeStubs.Action

def reports (archived : Bool) : String :=
  (tally 0).toText ++ "\n" ++
    if archived then "After hydration:\n" ++ (tally Stub.all.length).toText ++ "\n" else ""

def answers (lookups : List Address) : String :=
  String.join (lookups.map fun pc => lookupLine ⟨routines, true⟩ pc ++ "\n")

-- The registry of all routines has statistics.
theorem collecting_eq {r : Registry} {hydrated : Bool}
    (perm : r.descriptors.Perm (registered hydrated)) (c : Console) :
    (ofExcept (Fault.ofAborting (Statistics.collect r)) : Action Console Statistics) c =
      (.ok (tally (if hydrated then Stub.all.length else 0)), c) := by
  rw [ofExcept_apply, collect_eq perm]
  rfl

theorem rehydrate_eq (options : Options) {alongside : Alongside} (complete : alongside.Complete)
    (c : Console) :
    ∃ registry log, rehydrate options alongside filled c = (.ok registry,
        ⟨c.out ++ ("After hydration:\n" ++ (tally Stub.all.length).toText ++ "\n"), log⟩) ∧
      registry.descriptors.Perm (registered true) := by
  obtain ⟨read, restored⟩ := restore_filled c
  obtain ⟨registry, log, booted, perm⟩ :=
    bootstrap_eq yields_reread options complete { c with log := read }
  refine ⟨registry, log, ?_, perm⟩
  rw [rehydrate, bind_of_ok restored, bind_of_ok booted]
  dsimp only
  rw [bind_of_ok (collecting_eq perm _)]
  rfl

theorem answers_of_perm {r : Registry} {hydrated : Bool}
    (perm : r.descriptors.Perm (registered hydrated)) (lookups : List Address) :
    String.join (lookups.map fun pc => lookupLine r pc ++ "\n") = answers lookups := by
  simp only [answers, lookupLine_eq perm]

theorem execute_eq (options : Options) {first second : Alongside} (complete : first.Complete)
    (completeToo : second.Complete) (lookups : List Address) (c : Console) :
    ∃ log, execute options first second lookups c =
      (.ok (), ⟨c.out ++ reports options.archiveStubs ++ answers lookups, log⟩) := by
  obtain ⟨told, same, report⟩ : ∃ told : Console, told.out = c.out ∧
      Console.report (.optionsChosen options) c = (.ok (), told) :=
    ⟨{ c with log := c.log.report (.optionsChosen options) }, rfl, rfl⟩
  rw [← same, execute, bind_of_ok report]
  cases archived : options.archiveStubs with
  | false =>
    obtain ⟨registry, log, booted, perm⟩ := bootstrap_eq yields_unarchived options complete told
    unfold unarchived at booted
    refine ⟨log, ?_⟩
    simp only [Bool.false_eq_true, if_false]
    rw [bind_of_ok booted]
    dsimp only
    rw [bind_of_ok (collecting_eq perm _)]
    simp only [Console.print, modify_bind, bind_of_ok (pure_apply registry _), modify_apply,
      answers_of_perm perm, reports, Bool.false_eq_true, if_false, String.append_empty]
  | true =>
    obtain ⟨registry, log, booted, perm⟩ := bootstrap_eq yields_unfilled options complete told
    rw [archives_unfilled] at booted
    unfold unfilled at booted
    obtain ⟨loaded, later, rehydrated, permLoaded⟩ := rehydrate_eq options completeToo
      ⟨told.out ++ ((tally 0).toText ++ "\n"), log⟩
    refine ⟨later, ?_⟩
    simp only [if_true]
    rw [bind_of_ok booted]
    dsimp only
    rw [bind_of_ok (collecting_eq perm _)]
    simp only [Bool.false_eq_true, if_false, Console.print, modify_bind]
    rw [bind_of_ok rehydrated]
    simp only [modify_apply, answers_of_perm permLoaded, reports, if_true, String.append_assoc]

theorem runAlongside_eq {arguments : List String} {invocation : Invocation}
    (parsed : Arguments.parse arguments = .ok invocation) (lookup : String → Option String)
    {first second : Alongside} (complete : first.Complete) (completeToo : second.Complete) :
    (runAlongside first second arguments lookup).exit = 0 ∧
      (runAlongside first second arguments lookup).out =
        reports ((Options.ofEnvironment lookup).union invocation.options).archiveStubs ++
          answers invocation.lookups := by
  obtain ⟨log, executed⟩ := execute_eq ((Options.ofEnvironment lookup).union invocation.options)
    complete completeToo invocation.lookups
    ⟨"", Log.create (chosenFilter invocation.verbosity lookup).1⟩
  simp only [runAlongside, parsed, executed, String.empty_append, and_self]

/-- The line of a look-up gives group, name and bounds of the one routine whose code the address
lies in, or says that there is none. -/
inductive Located (pc : Address) : String → Prop where
  | inside (d : Descriptor) (stop : Address) : d ∈ routines → d.stop = some stop →
    d.contains pc = true → (∀ e ∈ routines, e.contains pc = true → e = d) →
    Located pc
      s!"{pc.toText}: {d.group}::{d.name} [{d.start.toText}, {stop.toText}] ({d.size} bytes)"
  | outside : (∀ d ∈ routines, d.contains pc = false) →
    Located pc s!"{pc.toText}: not in any stub"

theorem located_lookupLine (pc : Address) : Located pc (lookupLine ⟨routines, true⟩ pc) := by
  by_cases inside : ∃ d ∈ routines, d.contains pc = true
  · obtain ⟨d, member, inside⟩ := inside
    obtain ⟨stop, complete, -⟩ := Descriptor.contains_iff.mp inside
    have only : ∀ e ∈ routines, e.contains pc = true → e = d := fun e memberToo insideToo =>
      eq_of_contains memberToo member insideToo inside
    have located := Located.inside d stop member complete inside only
    rw [lookupLine_of_contains perm_registered member inside, Descriptor.toText_of_stop complete]
    simpa [ToString.toString, String.append_assoc] using located
  · have outside : ∀ d ∈ routines, d.contains pc = false := by simpa using inside
    rw [lookupLine_of_not_contains perm_registered outside]
    exact .outside outside

/-- Two statistics of all routines, of which the second have all been hydrated. -/
structure Rehydrated (first second : Statistics) : Prop where
  emitted : second.emitted = Stub.all.length
  hydrated : second.hydrated = Stub.all.length
  generated : second.generated = 0
  totalSize : second.totalSize = first.totalSize
  largestSize : second.largestSize = first.largestSize
  largestName : second.largestName = first.largestName

theorem rehydrated_tally : Rehydrated (tally 0) (tally Stub.all.length) :=
  ⟨rfl, rfl, Nat.sub_self _, rfl, rfl, rfl⟩

/-- Whatever the options, the environment and the turns of the workers, the program succeeds. It
ends with one line for each look-up, in order, which are those of a run without options. With
archives it reports statistics a second time, after it has hydrated all stubs. -/
theorem runAlongside_answers {arguments : List String} {invocation : Invocation}
    (parsed : Arguments.parse arguments = .ok invocation) (lookup : String → Option String)
    {first second : Alongside} (complete : first.Complete) (completeToo : second.Complete) :
    (runAlongside first second arguments lookup).exit = 0 ∧
      (∃ lines : List String, List.Forall₂ Located invocation.lookups lines ∧
        (runAlongside first second arguments lookup).out =
          reports ((Options.ofEnvironment lookup).union invocation.options).archiveStubs ++
            String.join (lines.map (· ++ "\n")) ∧
        (run [] (asking ⟨false, false, false⟩ invocation.lookups) fun _ => none).out =
          reports false ++ String.join (lines.map (· ++ "\n"))) ∧
      Rehydrated (tally 0) (tally Stub.all.length) := by
  let lines := invocation.lookups.map (lookupLine ⟨routines, true⟩)
  have joined : String.join (lines.map (· ++ "\n")) = answers invocation.lookups := by
    simp only [lines, answers, List.map_map, Function.comp_def]
  have located : List.Forall₂ Located invocation.lookups lines :=
    List.forall₂_map_right_iff.mpr (List.forall₂_same.mpr fun pc _ => located_lookupLine pc)
  obtain ⟨exit, out⟩ := runAlongside_eq parsed lookup complete completeToo
  have plain := (runAlongside_eq (parse_asking ⟨false, false, false⟩ invocation.lookups)
    (fun _ => none) (complete_interleave []) (complete_interleave [])).2
  exact ⟨exit, ⟨lines, located, by rw [joined, out], by rw [joined]; exact plain⟩,
    rehydrated_tally⟩

-- The address is the last one of the call stub.
theorem runAlongside_answers_callStub :
    let line := "0x00007f1000000017: " ++ (callStubOf false).toText ++ "\n"
    let output := runAlongside (Worker.interleave [true, false, true]) (Worker.interleave [])
      ["--archive", "--delay-compiler-stubs", "--lookup", "7f1000000017"] fun _ => none
    output.exit = 0 ∧ output.out = reports true ++ line ∧
      (run [] ["--lookup=0x00007f1000000017"] fun _ => none).out = reports false ++ line := by
  have parsed : Arguments.parse
      ["--archive", "--delay-compiler-stubs", "--lookup", "7f1000000017"] =
        .ok ⟨⟨false, true, true⟩, [⟨0x7f1000000017⟩], 0⟩ := by decide +kernel
  obtain ⟨exit, ⟨lines, located, out, plain⟩, -⟩ := runAlongside_answers parsed (fun _ => none)
    (complete_interleave [true, false, true]) (complete_interleave [])
  have listed : callStubOf false ∈ routines ∧
      (callStubOf false).contains ⟨0x7f1000000017⟩ = true := by decide +kernel
  cases located with
  | cons first rest =>
    cases rest
    cases first with
    | inside d stop member complete inside only =>
      obtain rfl := only _ listed.1 listed.2
      cases complete
      exact ⟨exit, out.trans rfl, plain.trans rfl⟩
    | outside outside =>
      rw [outside _ listed.1] at listed
      cases listed.2

end RuntimeStubs.CommandLine
