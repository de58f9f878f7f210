import RuntimeStubs.Proofs.Archive.Catalogue

/-! Single entry points.

All entry points of the current stub are the part of its run between the two bounds, and one of them
is found by its position in the run, which is the successor of its index. Main statement
(`entry_agrees`): both ways agree at every index that has a successor, and whatever is answered lies
strictly between the bounds. The largest number of 64 bits has none; there the look-up aborts where
it ought to refuse the index (`entry_largest`). -/

set_option autoImplicit false

namespace RuntimeStubs.Archive

variable {a : Archive} {stub : Stub} {slot : Slot}

-- An entry point has the same place among the addresses as in the part of the run that is cut out
-- of them.
theorem getElem?_extras (addresses : List Address) (slot : Slot) (index : Nat) :
    (slot.binding addresses).extras[index]? =
      if index < slot.run.count - 2 then addresses[slot.run.first + (index + 1)]? else none := by
  rw [Slot.binding, List.getElem?_take, List.getElem?_drop, Nat.add_right_comm, Nat.add_assoc]

theorem entry_of_currentRun (isCurrent : a.currentRun = .ok (stub, slot.run))
    (fits : slot.run.Fits a.addresses.length) (index : UInt64) :
    a.entry index =
      if index.toNat + 1 = UInt64.size then .error (.abort .addition)
      else if index.toNat < slot.run.count - 2 then
        .ok (a.addresses.getD (slot.run.first + (index.toNat + 1)) .null)
      else .error (.entryOutOfRange stub index.toNat slot.run.count) := by
  have count : 2 ≤ slot.run.count := fits.1
  have bound : slot.run.first + slot.run.count ≤ a.addresses.length := fits.2
  rw [entry, isCurrent]
  simp only [bind, Except.bind, Run.extraCount_of_fits fits]
  split
  · rfl
  · by_cases inside : index.toNat < slot.run.count - 2
    · rw [if_neg (by omega), if_pos inside, addressAt_of_lt (by omega)]
    · rw [if_pos (by omega), if_neg inside]

theorem entry_eq_ok_iff (isCurrent : a.currentRun = .ok (stub, slot.run))
    (fits : slot.run.Fits a.addresses.length) {index : UInt64} {address : Address} :
    a.entry index = .ok address ↔ index.toNat + 1 ≠ UInt64.size ∧
      index.toNat < slot.run.count - 2 ∧
      a.addresses[slot.run.first + (index.toNat + 1)]? = some address := by
  have bound : slot.run.first + slot.run.count ≤ a.addresses.length := fits.2
  rw [entry_of_currentRun isCurrent fits]
  by_cases largest : index.toNat + 1 = UInt64.size
  · simp [largest]
  · by_cases inside : index.toNat < slot.run.count - 2
    · have here : slot.run.first + (index.toNat + 1) < a.addresses.length := by omega
      simp [largest, inside, here]
    · simp [largest, inside]

theorem retrieveAll_of_current (sound : a.Sound) (selected : a.current = some stub)
    (filled : a.slot? stub.localIndex = some slot) (named : slot.name = stub.name) :
    a.retrieveAll = .ok ⟨stub, (slot.binding a.addresses).start, (slot.binding a.addresses).stop,
      (slot.binding a.addresses).extras⟩ := by
  rw [retrieveAll_catalogue sound, Catalogue.retrieveAll, selected_of_current selected filled,
    if_pos named]

/-- The look-up of a single entry point answers what the retrieval of all of them has at the index,
and it never reads a bound of the run. The largest index has no successor. -/
theorem entry_agrees (reachable : a.Reachable) (selected : a.current = some stub)
    (filled : a.slot? stub.localIndex = some slot) (named : slot.name = stub.name) :
    ∃ archived, a.retrieveAll = .ok archived ∧ archived.stub = stub ∧ ∀ index : UInt64,
      (index.toNat + 1 < UInt64.size → a.entry index =
        match archived.entries[index.toNat]? with
        | some address => .ok address
        | none => .error (.entryOutOfRange stub index.toNat (archived.entries.length + 2))) ∧
      (index.toNat + 1 = UInt64.size → a.entry index = .error (.abort .addition)) ∧
      ∀ address, a.entry index = .ok address →
        ∃ position, position = slot.run.first + (index.toNat + 1) ∧ slot.run.first < position ∧
          position < slot.run.last ∧ a.addresses[position]? = some address := by
  have sound := reachable.sound
  have phase := (sound.current selected).1
  have fits := sound.fits filled
  have count : 2 ≤ slot.run.count := fits.1
  have bound : slot.run.first + slot.run.count ≤ a.addresses.length := fits.2
  have isCurrent := currentRun_of_current selected phase filled
  rw [if_pos named] at isCurrent
  refine ⟨_, retrieveAll_of_current sound selected filled named, rfl, fun index => ?_⟩
  refine ⟨fun successor => ?_, fun largest => ?_, fun address answered => ?_⟩
  · rw [entry_of_currentRun isCurrent fits, if_neg (Nat.ne_of_lt successor), getElem?_extras,
      Slot.length_extras_binding fits, Nat.sub_add_cancel count]
    by_cases inside : index.toNat < slot.run.count - 2
    · have here : slot.run.first + (index.toNat + 1) < a.addresses.length := by omega
      rw [if_pos inside, if_pos inside, List.getElem?_eq_getElem here,
        List.getD_eq_getElem _ _ here]
    · rw [if_neg inside, if_neg inside]
  · rw [entry_of_currentRun isCurrent fits, if_pos largest]
  · obtain ⟨-, inside, here⟩ := (entry_eq_ok_iff isCurrent fits).mp answered
    have before : slot.run.first + (index.toNat + 1) < slot.run.last := by
      rw [Run.last]
      omega
    exact ⟨_, rfl, by omega, before, here⟩

def answering : Archive :=
  (Request.serveAll serve [.storeWithEntry .callStub ⟨16⟩ ⟨20⟩ ⟨32⟩, .find .callStub]
    (create .initial)).2

theorem reachable_answering : answering.Reachable :=
  .served (.find .callStub) (.served (.storeWithEntry .callStub ⟨16⟩ ⟨20⟩ ⟨32⟩) (.created .initial))

theorem entry_agrees_answering :
    (answering.current = some .callStub ∧
      answering.slot? Stub.callStub.localIndex = some ⟨⟨0, 3⟩, Stub.callStub.name⟩) ∧
    answering.entry 0 = .ok ⟨20⟩ ∧
    answering.entry 1 = .error (.entryOutOfRange .callStub 1 3) := by
  have filled : answering.slot? Stub.callStub.localIndex = some ⟨⟨0, 3⟩, Stub.callStub.name⟩ := rfl
  obtain ⟨archived, all, -, agree⟩ := entry_agrees reachable_answering rfl filled rfl
  obtain rfl : (⟨.callStub, ⟨16⟩, ⟨32⟩, [⟨20⟩]⟩ : ArchivedStub) = archived := Except.ok.inj all
  exact ⟨⟨rfl, filled⟩, (agree 0).1 (by decide), (agree 1).1 (by decide)⟩

-- No run has so many entry points, and yet the index is not refused.
theorem entry_largest :
    answering.Reachable ∧ answering.retrieveAll = .ok ⟨.callStub, ⟨16⟩, ⟨32⟩, [⟨20⟩]⟩ ∧
      answering.entry 0xffffffffffffffff = .error (.abort .addition) :=
  ⟨reachable_answering, rfl, rfl⟩

end RuntimeStubs.Archive
