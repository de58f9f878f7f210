import RuntimeStubs.Proofs.Archive.Deposits

/-! What deposits add to an archive.

Deposits that an archive has accepted one after the other lie behind the addresses it had before, in
their order, and leave every other slot alone. -/

set_option autoImplicit false

namespace RuntimeStubs.Archive

/-- The second archive is the first with more deposits, all of them into slots that were empty. -/
structure Extends (deposits : List Deposit) (a b : Archive) : Prop where
  kind : b.kind = a.kind
  addresses : b.addresses = a.addresses ++ deposits.flatMap Deposit.addresses
  laid : ∀ {older newer : List Deposit} {d : Deposit}, deposits = older ++ d :: newer →
    a.slot? d.stub.localIndex = none ∧ b.slot? d.stub.localIndex =
      some ⟨⟨a.addresses.length + (older.map Deposit.count).sum, d.count⟩, d.stub.name⟩
  kept : ∀ {index : Nat}, (∀ d ∈ deposits, d.stub.localIndex ≠ index) →
    b.slot? index = a.slot? index

variable {deposits : List Deposit} {a b c : Archive}

theorem Extends.refl (a : Archive) : Extends [] a a where
  kind := rfl
  addresses := (List.append_nil _).symm
  laid split := by simp at split
  kept _ := rfl

-- The current stub has no part in it.
theorem Extends.select {current : Option Stub}
    (later : Extends deposits { a with current := current } b) : Extends deposits a b :=
  ⟨later.kind, later.addresses, later.laid, later.kept⟩

theorem Extends.empty (later : Extends deposits a b) {d : Deposit} (member : d ∈ deposits) :
    a.slot? d.stub.localIndex = none := by
  obtain ⟨older, newer, split⟩ := List.append_of_mem member
  exact (later.laid split).1

theorem Extends.filled (later : Extends deposits a b) {index : Nat} {slot : Slot}
    (filled : a.slot? index = some slot) : b.slot? index = some slot := by
  rw [later.kept, filled]
  rintro d member rfl
  rw [later.empty member] at filled
  cases filled

theorem Extends.store (later : Extends deposits b c) (sound : a.Sound) {d : Deposit}
    (accepted : a.store d.stub d.start d.stop d.extras = .ok b) :
    Extends (d :: deposits) a c := by
  obtain ⟨phase, empty, -, -, -, rfl⟩ := store_eq_ok_iff.mp accepted
  have atNew : (a.stored d.stub d.start d.stop d.extras).slot? d.stub.localIndex =
      some ⟨⟨a.addresses.length, d.count⟩, d.stub.name⟩ := by
    simpa [nextRun, Deposit.count, Deposit.addresses] using slot?_stored_self sound phase
  -- The slot just filled is none of those that are filled later.
  have differ {e : Deposit} (member : e ∈ deposits) : e.stub.localIndex ≠ d.stub.localIndex := by
    intro same
    have none := later.empty member
    rw [same, atNew] at none
    cases none
  refine ⟨later.kind, ?_, ?_, ?_⟩
  · rw [later.addresses, List.flatMap_cons, ← List.append_assoc]
    simp [stored, Deposit.addresses]
  · intro older newer e split
    rcases List.cons_eq_append_iff.mp split with ⟨rfl, same⟩ | ⟨others, rfl, inside⟩
    · cases same
      exact ⟨empty, (later.kept fun e member => differ member).trans atNew⟩
    · have member : e ∈ deposits := inside ▸ List.mem_append_right _ List.mem_cons_self
      obtain ⟨isEmpty, laid⟩ := later.laid inside
      rw [slot?_stored_ne (differ member).symm] at isEmpty
      refine ⟨isEmpty, laid.trans ?_⟩
      rw [length_addresses_stored, List.map_cons, List.sum_cons]
      simp [Deposit.count, Deposit.addresses, Nat.add_assoc]
  · intro index untouched
    obtain ⟨first, others⟩ := List.forall_mem_cons.mp untouched
    rw [later.kept others, slot?_stored_ne first]

end RuntimeStubs.Archive
