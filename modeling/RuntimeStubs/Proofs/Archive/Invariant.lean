import RuntimeStubs.Archive

/-! The invariant of archives.

In a sound archive every run lies inside the address array and has room for its two bounds, runs of
different slots are apart, no address is null, and the current stub has a filled slot of the right
phase. A new archive is sound, and looking up and storing keep it so. -/

set_option autoImplicit false

namespace RuntimeStubs

namespace Run

def Fits (total : Nat) (run : Run) : Prop := 2 ≤ run.count ∧ run.bound ≤ total

/-- Runs that share no address. -/
def Apart (first second : Run) : Prop :=
  first.bound ≤ second.first ∨ second.bound ≤ first.first

theorem Apart.symm {first second : Run} (apart : first.Apart second) : second.Apart first :=
  Or.symm apart

theorem Fits.mono {total more : Nat} {run : Run} (fits : run.Fits total) (le : total ≤ more) :
    run.Fits more := ⟨fits.1, Nat.le_trans fits.2 le⟩

theorem extraCount_of_fits {total : Nat} {run : Run} (fits : run.Fits total) :
    run.extraCount = .ok (run.count - 2) := by
  rw [extraCount, if_neg (Nat.not_lt.mpr fits.1)]

end Run

namespace Archive

structure Sound (a : Archive) : Prop where
  length_slots : a.slots.length = a.kind.stubCount
  fits : ∀ {index : Nat} {slot : Slot}, a.slot? index = some slot →
    slot.run.Fits a.addresses.length
  apart : ∀ {i j : Nat} {s t : Slot}, i ≠ j → a.slot? i = some s → a.slot? j = some t →
    s.run.Apart t.run
  not_null : ∀ address ∈ a.addresses, address.isNull = false
  current : ∀ {stub : Stub}, a.current = some stub →
    stub.phase = a.kind ∧ (a.slot? stub.localIndex).isSome = true

section

variable {a b : Archive} {stub : Stub} {start stop : Address} {extras : List Address}

theorem slotIndex_of_phase (phase : stub.phase = a.kind) :
    a.slotIndex stub = .ok stub.localIndex := if_pos phase

theorem slotIndex_of_other_phase (phase : stub.phase ≠ a.kind) :
    a.slotIndex stub = .error (.wrongPhase stub a.kind stub.phase) := if_neg phase

theorem find_of_phase (phase : stub.phase = a.kind) :
    a.find stub = .ok ((a.slot? stub.localIndex).isSome,
      { a with current := if (a.slot? stub.localIndex).isSome then some stub else none }) := by
  simp only [find, slotIndex_of_phase phase]

theorem find_of_other_phase (phase : stub.phase ≠ a.kind) :
    a.find stub = .error (.wrongPhase stub a.kind stub.phase) := by
  simp only [find, slotIndex_of_other_phase phase]

theorem find_eq_ok_iff {hit : Bool} :
    a.find stub = .ok (hit, b) ↔ stub.phase = a.kind ∧
      hit = (a.slot? stub.localIndex).isSome ∧
      b = { a with current := if hit then some stub else none } := by
  by_cases phase : stub.phase = a.kind
  · rw [find_of_phase phase, Except.ok.injEq, Prod.mk.injEq]
    constructor
    · rintro ⟨rfl, rfl⟩
      exact ⟨phase, rfl, rfl⟩
    · rintro ⟨-, rfl, rfl⟩
      exact ⟨rfl, rfl⟩
  · rw [find_of_other_phase phase]
    constructor
    · intro impossible
      cases impossible
    · intro found
      exact absurd found.1 phase

def stored (stub : Stub) (start stop : Address) (extras : List Address) (a : Archive) : Archive :=
  { a with
    addresses := a.addresses ++ start :: extras ++ [stop]
    slots := a.slots.set stub.localIndex (some ⟨a.nextRun extras, stub.name⟩) }

theorem store_eq_ok_iff :
    a.store stub start stop extras = .ok b ↔ stub.phase = a.kind ∧
      a.slot? stub.localIndex = none ∧ start.isNull = false ∧ stop.isNull = false ∧
      extras.any Address.isNull = false ∧ b = a.stored stub start stop extras := by
  by_cases phase : stub.phase = a.kind
  · simp only [store, slotIndex_of_phase phase, phase, true_and]
    cases a.slot? stub.localIndex with
    | some slot => simp
    | none =>
      cases start.isNull <;> cases stop.isNull <;> cases extras.any Address.isNull <;>
        simp [stored, eq_comm]
  · simp [store, slotIndex_of_other_phase phase, phase]

/-! ### The slots after storing -/

theorem length_slots_stored : (a.stored stub start stop extras).slots.length = a.slots.length :=
  List.length_set

theorem length_addresses_stored :
    (a.stored stub start stop extras).addresses.length =
      a.addresses.length + (extras.length + 2) := by
  simp only [stored, List.length_append, List.length_cons, List.length_nil]
  omega

theorem slot?_stored_self (sound : a.Sound) (phase : stub.phase = a.kind) :
    (a.stored stub start stop extras).slot? stub.localIndex =
      some ⟨a.nextRun extras, stub.name⟩ := by
  have inside : stub.localIndex < a.slots.length := by
    rw [sound.length_slots, ← phase]
    exact stub.localIndex_lt
  simp only [slot?, stored, List.getElem?_set_self inside, Option.join_some]

theorem slot?_stored_ne {index : Nat} (other : stub.localIndex ≠ index) :
    (a.stored stub start stop extras).slot? index = a.slot? index := by
  simp only [slot?, stored, List.getElem?_set_ne other]

theorem addresses_prefix_stored : a.addresses <+: (a.stored stub start stop extras).addresses := by
  rw [stored, List.append_assoc]
  exact List.prefix_append ..

-- The bounds of a new run are appended with it, so that it is the last one and ends where the
-- addresses end.
theorem nextRun_fits :
    (a.nextRun extras).Fits (a.stored stub start stop extras).addresses.length := by
  rw [length_addresses_stored]
  exact ⟨Nat.le_add_left .., Nat.le_refl _⟩

end

/-! ### Sound archives -/

theorem sound_create (kind : Phase) : (create kind).Sound where
  length_slots := length_slots_create kind
  fits filled := by simp [slot?_create] at filled
  apart _ filled := by simp [slot?_create] at filled
  not_null := by simp [create]
  current selected := by simp [create] at selected

-- A look-up changes the current stub only.
theorem Sound.select {a : Archive} (sound : a.Sound) (current : Option Stub)
    (filled : ∀ stub, current = some stub →
      stub.phase = a.kind ∧ (a.slot? stub.localIndex).isSome = true) :
    Sound { a with current := current } where
  length_slots := sound.length_slots
  fits := sound.fits
  apart := sound.apart
  not_null := sound.not_null
  current := filled _

theorem Sound.find {a b : Archive} {stub : Stub} {hit : Bool} (sound : a.Sound)
    (found : a.find stub = .ok (hit, b)) : b.Sound := by
  obtain ⟨phase, hits, rfl⟩ := find_eq_ok_iff.mp found
  refine sound.select _ ?_
  intro current selected
  cases hit with
  | false => simp at selected
  | true =>
    cases selected
    exact ⟨phase, hits.symm⟩

theorem Sound.stored {a : Archive} {stub : Stub} {start stop : Address} {extras : List Address}
    (sound : a.Sound) (phase : stub.phase = a.kind) (empty : a.slot? stub.localIndex = none)
    (start_ne : start.isNull = false) (stop_ne : stop.isNull = false)
    (extras_ne : extras.any Address.isNull = false) :
    (a.stored stub start stop extras).Sound where
  length_slots := length_slots_stored.trans sound.length_slots
  fits {index slot} filled := by
    by_cases same : stub.localIndex = index
    · subst same
      rw [slot?_stored_self sound phase, Option.some.injEq] at filled
      exact filled ▸ nextRun_fits
    · rw [slot?_stored_ne same] at filled
      exact (sound.fits filled).mono addresses_prefix_stored.length_le
  apart {i j s t} differ first second := by
    -- The new run begins where the old addresses end, behind every other run.
    have behind {index : Nat} {slot : Slot} (filled : a.slot? index = some slot) :
        slot.run.Apart (a.nextRun extras) := Or.inl (sound.fits filled).2
    by_cases isFirst : stub.localIndex = i
    · subst isFirst
      rw [slot?_stored_self sound phase, Option.some.injEq] at first
      rw [slot?_stored_ne differ] at second
      exact first ▸ (behind second).symm
    · rw [slot?_stored_ne isFirst] at first
      by_cases isSecond : stub.localIndex = j
      · subst isSecond
        rw [slot?_stored_self sound phase, Option.some.injEq] at second
        exact second ▸ behind first
      · rw [slot?_stored_ne isSecond] at second
        exact sound.apart differ first second
  not_null address member := by
    simp only [Archive.stored, List.mem_append, List.mem_cons, List.not_mem_nil, or_false] at member
    rcases member with (member | rfl | member) | rfl
    · exact sound.not_null address member
    · exact start_ne
    · exact Bool.eq_false_iff.mpr (List.any_eq_false.mp extras_ne address member)
    · exact stop_ne
  current {selected} isCurrent := by
    obtain ⟨selectedPhase, filled⟩ := sound.current isCurrent
    refine ⟨selectedPhase, ?_⟩
    by_cases same : stub.localIndex = selected.localIndex
    -- The slot of the current stub is filled already, and only an empty one is stored into.
    · rw [← same, empty] at filled
      cases filled
    · rwa [slot?_stored_ne same]

theorem Sound.store {a b : Archive} {stub : Stub} {start stop : Address} {extras : List Address}
    (sound : a.Sound) (accepted : a.store stub start stop extras = .ok b) : b.Sound := by
  obtain ⟨phase, empty, start_ne, stop_ne, extras_ne, rfl⟩ := store_eq_ok_iff.mp accepted
  exact sound.stored phase empty start_ne stop_ne extras_ne

end Archive

end RuntimeStubs
