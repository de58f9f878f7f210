import RuntimeStubs.Proofs.Session.Provenance
import RuntimeStubs.Proofs.Statistics.Sums

/-! The statistics of a workshop.

In a workshop every hydrated descriptor is counted, since only routines are hydrated, and the name
on record is empty exactly if all descriptors are, since none goes without a name. Main statement
(`collect_run`): whatever has been done, statistics are collected unless the total is no 64-bit
number, and each number is what it is called. -/

set_option autoImplicit false

namespace RuntimeStubs.Statistics

namespace Describes

variable {s : Statistics} {r : Registry} {ds : List Descriptor}

theorem largestSize (describes : s.Describes ds) :
    s.largestSize = (ds.map Descriptor.size).max?.getD 0 := by
  rcases describes.newest with ⟨zero, -⟩ | ⟨older, d, newer, split, -, size, -, -⟩
  · cases greatest : (ds.map Descriptor.size).max? with
    | none => exact zero
    | some size =>
      obtain ⟨d, listed, rfl⟩ := List.mem_map.mp (List.max?_mem greatest)
      have below := describes.bound d listed
      rw [Option.getD_some]
      omega
  · have greatest : (ds.map Descriptor.size).max? = some s.largestSize := by
      refine List.max?_eq_some_iff.mpr ⟨?_, ?_⟩
      · exact List.mem_map.mpr ⟨d, by simp [split], size⟩
      · rintro _ listed
        obtain ⟨e, isListed, rfl⟩ := List.mem_map.mp listed
        exact describes.bound e isListed
    rw [greatest, Option.getD_some]

theorem hydrated_le (describes : s.Describes ds) : s.hydrated ≤ s.emitted := by
  rw [describes.emitted, describes.hydrated]
  refine List.countP_mono_left fun d _ both => ?_
  exact (Bool.and_eq_true_iff.mp both).1

theorem generated (describes : s.Describes ds) :
    s.generated = ds.countP fun d => isRoutine d && !d.hydrated := by
  have split := List.countP_eq_countP_filter_add ds isRoutine Descriptor.hydrated
  rw [List.countP_filter, List.countP_filter] at split
  rw [Statistics.generated, describes.emitted, describes.hydrated, split]
  exact Nat.add_sub_cancel_left ..

theorem hydrated_of_credited (describes : s.Describes r.descriptors) (credited : r.Credited) :
    s.hydrated = r.descriptors.countP Descriptor.hydrated := by
  rw [describes.hydrated]
  refine List.countP_congr fun d listed => ?_
  rw [Bool.and_eq_true_iff, isRoutine, decide_eq_true_iff]
  exact and_iff_right_of_imp (credited d listed)

theorem largestName_eq_empty_iff (describes : s.Describes r.descriptors) (named : r.Named) :
    s.largestName = "" ↔ ∀ d ∈ r.descriptors, d.size = 0 := by
  rcases describes.newest with ⟨zero, isEmpty⟩ | ⟨older, d, newer, split, positive, size, name, -⟩
  · refine iff_of_true isEmpty fun d listed => ?_
    exact Nat.le_zero.mp (zero ▸ describes.bound d listed)
  · have listed : d ∈ r.descriptors := by simp [split]
    refine iff_of_false (name ▸ named d listed) fun zero => ?_
    exact absurd (zero d listed) (Nat.ne_of_gt positive)

end Describes

/-- Every number is what it is called. -/
structure Accurate (s : Statistics) (r : Registry) : Prop where
  totalSize : s.totalSize = (r.descriptors.map Descriptor.size).sum
  largestSize : s.largestSize = (r.descriptors.map Descriptor.size).max?.getD 0
  unnamed : s.largestName = "" ↔ ∀ d ∈ r.descriptors, d.size = 0
  newest : (∃ d ∈ r.descriptors, d.size ≠ 0) → ∃ older d newer, r.descriptors = older ++ d :: newer ∧
    d.size = s.largestSize ∧ d.name = s.largestName ∧ ∀ e ∈ newer, e.size < s.largestSize
  nodup : (s.groups.map Prod.fst).Nodup
  groups : ∀ group count, (group, count) ∈ s.groups ↔
    0 < count ∧ r.descriptors.countP (fun d => d.group = group) = count
  sum : (s.groups.map Prod.snd).sum = r.size
  emitted : s.emitted = r.descriptors.countP (fun d => d.group = Session.routinesGroup)
  hydrated : s.hydrated = r.descriptors.countP Descriptor.hydrated
  hydrated_le : s.hydrated ≤ s.emitted
  generated : s.generated =
    r.descriptors.countP fun d => d.group = Session.routinesGroup && !d.hydrated

theorem Describes.accurate {s : Statistics} {r : Registry} (describes : s.Describes r.descriptors)
    (attested : r.Attested) : s.Accurate r where
  totalSize := describes.total
  largestSize := describes.largestSize
  unnamed := describes.largestName_eq_empty_iff attested.named
  newest := by
    rintro ⟨e, listed, nonzero⟩
    rcases describes.newest with ⟨zero, -⟩ | ⟨older, d, newer, split, -, size, name, smaller⟩
    · exact absurd (Nat.le_zero.mp (zero ▸ describes.bound e listed)) nonzero
    · exact ⟨older, d, newer, split, size, name, smaller⟩
  nodup := describes.tally.nodup
  groups := describes.tally.mem_iff
  sum := describes.tally.sum
  emitted := describes.emitted
  hydrated := describes.hydrated_of_credited attested.credited
  hydrated_le := describes.hydrated_le
  generated := describes.generated

theorem collect_run {ι κ : Type} {σ η : ι → Type} [DecidableEq ι] [DecidableEq κ]
    [∀ i, Sink (σ i)] (log : Log) (operations : List (Workshop.Operation ι κ σ η)) :
    let r := ((Workshop.start log).run operations).registry
    let total := (r.descriptors.map Descriptor.size).sum
    ((∃ cause, collect r = .error cause) ↔ UInt64.size ≤ total) ∧
      (total < UInt64.size → ∃ s, collect r = .ok s ∧ s.Accurate r) := by
  intro r total
  constructor
  · rw [← Nat.not_lt, ← collect_isOk_iff]
    cases collect r <;> simp
  · intro fits
    obtain ⟨s, collected⟩ := collect_isOk_iff.mpr fits
    have attested : r.Attested := Workshop.attested_run log operations
    exact ⟨s, collected, (collect_describes collected).accurate attested⟩

/-- One stub comes from an archive and another one stays open. A region as large as the first stub
is registered directly. -/
def mixed : List (Workshop.Operation Unit Unit (fun _ => CodeBuffer) fun _ => Unit) :=
  let archive := ((Archive.create .initial).serve (.store .fence ⟨0x1000⟩ ⟨0x1010⟩ [])).2
  [.create () (.create ⟨0x1000⟩ 64) .standard () (some archive) .silent false,
    .hydrate () .fence 0,
    .register "Interpreter" "slow" ⟨0x2000⟩ (some ⟨0x2010⟩),
    .register Session.routinesGroup "direct" ⟨0x3000⟩ (some ⟨0x3004⟩),
    .openStub () "Boot" "unfinished"]

def halves : List (Workshop.Operation Unit Unit (fun _ => CodeBuffer) fun _ => Unit) :=
  [.register "Boot" "lower" ⟨0⟩ (some ⟨0x8000000000000000⟩),
    .register "Boot" "again" ⟨0x1000⟩ (some ⟨0x8000000000001000⟩)]

theorem collect_run_mixed :
    (∃ s, collect ((Workshop.start (.create (.upTo 0))).run mixed).registry = .ok s ∧
      s.totalSize = 36 ∧ s.largestSize = 16 ∧ s.largestName ≠ "" ∧
      (Session.routinesGroup, 2) ∈ s.groups ∧ s.hydrated = 1 ∧ s.generated = 1) ∧
    ∃ cause, collect ((Workshop.start (.create (.upTo 0))).run halves).registry = .error cause := by
  constructor
  · obtain ⟨-, counted⟩ := collect_run (.create (.upTo 0)) mixed
    obtain ⟨s, collected, accurate⟩ := counted (by decide +kernel)
    refine ⟨s, collected, accurate.totalSize.trans (by decide +kernel),
      accurate.largestSize.trans (by decide +kernel), ?_,
      (accurate.groups _ 2).mpr (by decide +kernel), accurate.hydrated.trans (by decide +kernel),
      accurate.generated.trans (by decide +kernel)⟩
    rw [ne_eq, accurate.unnamed]
    decide +kernel
  · obtain ⟨overflows, -⟩ := collect_run (.create (.upTo 0)) halves
    exact overflows.mpr (by decide +kernel)

end RuntimeStubs.Statistics
