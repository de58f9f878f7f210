import RuntimeStubs.CommandLine.Program
import RuntimeStubs.Proofs.Statistics.Sums

/-! The routines of the program and where their code lies.

Every phase has a buffer of its own, into which the code of its stubs is emitted one after the other
(`routines`). No two of the ranges share an address (`eq_of_contains`). A registry of these routines
therefore answers every look-up in the same way (`lookupLine_eq`) and has the same statistics
(`collect_eq`), whatever the order in which they were registered and whether or not they come from
an archive. -/

set_option autoImplicit false

namespace RuntimeStubs.CommandLine

/-- Emits the code of a stub and answers with a descriptor of the bytes that it takes up. -/
def occupy (stub : Stub) : Action CodeBuffer Descriptor := do
  CodeBuffer.flush
  let before ← Action.get
  let _ ← stub.emitBody
  CodeBuffer.flush
  let after ← Action.get
  return ⟨Session.routinesGroup, stub.name, before.pc, some after.pc, before.size, false⟩

def occupyAll : List Stub → Action CodeBuffer (List Descriptor)
  | [] => return []
  | stub :: rest => do
    let d ← occupy stub
    let others ← occupyAll rest
    return d :: others

def routinesOf (kind : Phase) : List Descriptor :=
  match occupyAll kind.stubs (CodeBuffer.forPhase kind (phaseBase kind)) with
  | (.ok routines, _) => routines
  | (.error _, _) => []

def routines : List Descriptor := Phase.all.flatMap routinesOf

def registered (hydrated : Bool) : List Descriptor :=
  routines.map fun d => { d with hydrated := hydrated }

theorem laid_routines : routines.Pairwise fun d e => d.stopOrStart ≤ e.start := by decide +kernel

theorem registered_false : registered false = routines := by decide +kernel

theorem perm_registered : (⟨routines, true⟩ : Registry).descriptors.Perm (registered false) := by
  rw [registered_false]

/-! ### Look-ups -/

theorem eq_of_laid {ds : List Descriptor} (laid : ds.Pairwise fun d e => d.stopOrStart ≤ e.start)
    {d e : Descriptor} (first : d ∈ ds) (second : e ∈ ds) {pc : Address}
    (inside : d.contains pc = true) (insideToo : e.contains pc = true) : d = e := by
  have ahead {d e : Descriptor} (before : d.stopOrStart ≤ e.start) (inside : d.contains pc = true)
      (insideToo : e.contains pc = true) : False := by
    obtain ⟨stop, ends, -, below⟩ := Descriptor.contains_iff.mp inside
    obtain ⟨-, -, above, -⟩ := Descriptor.contains_iff.mp insideToo
    rw [Descriptor.stopOrStart, ends] at before
    exact UInt64.lt_irrefl _ (UInt64.lt_of_lt_of_le below (UInt64.le_trans before above))
  induction laid with
  | nil => cases first
  | cons bound _ ih =>
    rcases List.mem_cons.mp first with rfl | later
    · rcases List.mem_cons.mp second with rfl | laterToo
      · rfl
      · exact (ahead (bound e laterToo) inside insideToo).elim
    · rcases List.mem_cons.mp second with rfl | laterToo
      · exact (ahead (bound d later) insideToo inside).elim
      · exact ih later laterToo

/-- The routine that an address lies in is the only one. -/
theorem eq_of_contains {d e : Descriptor} (first : d ∈ routines) (second : e ∈ routines)
    {pc : Address} (inside : d.contains pc = true) (insideToo : e.contains pc = true) : d = e :=
  eq_of_laid laid_routines first second inside insideToo

section

variable {r : Registry} {hydrated : Bool} {pc : Address} {d : Descriptor}

theorem lookupLine_of_contains (perm : r.descriptors.Perm (registered hydrated))
    (member : d ∈ routines) (inside : d.contains pc = true) :
    lookupLine r pc = pc.toText ++ ": " ++ d.toText := by
  let loaded : Descriptor := { d with hydrated := hydrated }
  have listed : loaded ∈ r.newestFirst := by
    rw [Registry.newestFirst, List.mem_reverse, perm.mem_iff]
    exact List.mem_map_of_mem member
  have found : r.find? pc = some loaded := by
    cases search : r.find? pc with
    | none => exact absurd inside (List.find?_eq_none.mp search loaded listed)
    | some e =>
      have listedToo := List.mem_of_find?_eq_some search
      rw [Registry.newestFirst, List.mem_reverse, perm.mem_iff] at listedToo
      obtain ⟨e, memberToo, rfl⟩ := List.mem_map.mp listedToo
      obtain ⟨_, _, -, insideToo, -⟩ := Registry.find?_eq_some_iff.mp search
      rw [eq_of_contains memberToo member insideToo inside]
  rw [lookupLine, found]
  rfl

theorem lookupLine_of_not_contains (perm : r.descriptors.Perm (registered hydrated))
    (outside : ∀ d ∈ routines, d.contains pc = false) :
    lookupLine r pc = pc.toText ++ ": not in any stub" := by
  have missed : r.find? pc = none := by
    rw [Registry.find?, List.find?_eq_none]
    intro e listed
    rw [Registry.newestFirst, List.mem_reverse, perm.mem_iff] at listed
    obtain ⟨d, member, rfl⟩ := List.mem_map.mp listed
    exact Bool.eq_false_iff.mp (outside d member)
  rw [lookupLine, missed]

theorem lookupLine_eq (perm : r.descriptors.Perm (registered hydrated)) (pc : Address) :
    lookupLine r pc = lookupLine ⟨routines, true⟩ pc := by
  by_cases inside : ∃ d ∈ routines, d.contains pc = true
  · obtain ⟨d, member, inside⟩ := inside
    rw [lookupLine_of_contains perm member inside,
      lookupLine_of_contains perm_registered member inside]
  · have outside : ∀ d ∈ routines, d.contains pc = false := by simpa using inside
    rw [lookupLine_of_not_contains perm outside, lookupLine_of_not_contains perm_registered outside]

end

/-! ### Statistics -/

def tally (hydrated : Nat) : Statistics where
  emitted := Stub.all.length
  hydrated := hydrated
  totalSize := (routines.map Descriptor.size).sum
  largestSize := (routines.map Descriptor.size).max?.getD 0
  largestName := Stub.callStub.name
  groups := [(Session.routinesGroup, Stub.all.length)]

def callStubOf (hydrated : Bool) : Descriptor :=
  ⟨Session.routinesGroup, Stub.callStub.name, phaseBase .initial, some ((phaseBase .initial).add 24),
    0, hydrated⟩

theorem size_lt_callStub (hydrated : Bool) :
    callStubOf hydrated ∈ registered hydrated ∧
      ∀ d ∈ registered hydrated, d.size < (callStubOf hydrated).size ∨ d = callStubOf hydrated := by
  cases hydrated <;> decide +kernel

/-- Neither the order of registration nor the origin of the routines changes their number, their
size or which of them is the largest. -/
theorem collect_eq {r : Registry} {hydrated : Bool}
    (perm : r.descriptors.Perm (registered hydrated)) :
    Statistics.collect r = .ok (tally (if hydrated then Stub.all.length else 0)) := by
  obtain ⟨member, largest⟩ := size_lt_callStub hydrated
  have routines : ∀ d ∈ registered hydrated, Statistics.isRoutine d = true := by
    cases hydrated <;> decide +kernel
  have fits : ((registered hydrated).map Descriptor.size).sum < UInt64.size := by
    cases hydrated <;> decide +kernel
  have positive : 0 < (callStubOf hydrated).size := by cases hydrated <;> decide +kernel
  rw [Statistics.collect_eq_of_perm perm routines fits member positive largest]
  cases hydrated <;> exact congrArg Except.ok (by decide +kernel)

end RuntimeStubs.CommandLine
