import RuntimeStubs.Proofs.Archive.Catalogue

/-! What an archive holds for a stub.

`Archive.Holds` says that the slot of a stub carries the name of the stub and the given addresses.
Retrieval after a hit answers exactly what is held, and storing adds to it without taking anything
away. The current stub has no part in it. -/

set_option autoImplicit false

namespace RuntimeStubs

theorem Catalogue.retrieveAll_eq_ok_iff {c : Catalogue} {stub : Stub} {archived : ArchivedStub}
    (cursor : c.cursor = some stub) :
    c.retrieveAll = .ok archived ↔ archived.stub = stub ∧
      c.bindings stub.localIndex =
        some ⟨stub.name, archived.start, archived.entries, archived.stop⟩ := by
  obtain ⟨other, start, stop, entries⟩ := archived
  simp only [retrieveAll, selected, cursor]
  cases c.bindings stub.localIndex with
  | none => simp
  | some binding =>
    obtain ⟨name, _, _, _⟩ := binding
    by_cases same : name = stub.name
    · simp [same, eq_comm, and_comm, and_left_comm]
    · simp [same]

namespace Archive

def Holds (a : Archive) (archived : ArchivedStub) : Prop :=
  archived.stub.phase = a.kind ∧
    a.catalogue.bindings archived.stub.localIndex =
      some ⟨archived.stub.name, archived.start, archived.entries, archived.stop⟩

variable {a b : Archive} {archived : ArchivedStub} {stub : Stub}

theorem holds_select {current : Option Stub} :
    Holds { a with current := current } archived ↔ a.Holds archived := Iff.rfl

theorem Holds.filled (holds : a.Holds archived) :
    (a.slot? archived.stub.localIndex).isSome = true := by
  have bound := holds.2
  rw [bindings_catalogue, Option.map_eq_some_iff] at bound
  obtain ⟨slot, filled, -⟩ := bound
  rw [filled, Option.isSome_some]

theorem Holds.find (holds : a.Holds archived) :
    a.find archived.stub = .ok (true, { a with current := some archived.stub }) := by
  rw [find_of_phase holds.1, holds.filled, if_pos rfl]

-- After a hit, what is retrieved is what is held. A slot under another name is found but not
-- retrieved.
theorem retrieveAll_eq_ok_iff (sound : a.Sound) (found : a.find stub = .ok (true, b)) :
    b.retrieveAll = .ok archived ↔ archived.stub = stub ∧ a.Holds archived := by
  rw [retrieveAll_catalogue (sound.find found)]
  obtain ⟨phase, -, rfl⟩ := find_eq_ok_iff.mp found
  have selects : Catalogue.cursor { a with current := some stub }.catalogue = some stub := rfl
  rw [if_pos rfl, Catalogue.retrieveAll_eq_ok_iff selects]
  constructor
  · rintro ⟨rfl, bound⟩
    exact ⟨rfl, phase, bound⟩
  · rintro ⟨rfl, -, bound⟩
    exact ⟨rfl, bound⟩

theorem Holds.retrieveAll (holds : a.Holds archived) (sound : a.Sound) :
    Archive.retrieveAll { a with current := some archived.stub } = .ok archived :=
  (retrieveAll_eq_ok_iff sound holds.find).mpr ⟨rfl, holds⟩

section

variable {start stop : Address} {extras : List Address}

theorem holds_store (sound : a.Sound) (accepted : a.store stub start stop extras = .ok b) :
    b.Holds ⟨stub, start, stop, extras⟩ := by
  obtain ⟨phase, -, -, -, -, rfl⟩ := store_eq_ok_iff.mp accepted
  refine ⟨phase, ?_⟩
  rw [catalogue_stored sound phase, Catalogue.bind]
  exact Function.update_self ..

-- A slot is written once, so a stub that is held has another slot than one that can be stored.
theorem Holds.store (holds : a.Holds archived) (sound : a.Sound)
    (accepted : a.store stub start stop extras = .ok b) : b.Holds archived := by
  obtain ⟨phase, empty, -, -, -, rfl⟩ := store_eq_ok_iff.mp accepted
  have differ : archived.stub.localIndex ≠ stub.localIndex := by
    intro same
    have filled := holds.filled
    rw [same, empty] at filled
    cases filled
  refine ⟨holds.1, ?_⟩
  rw [catalogue_stored sound phase, Catalogue.bind]
  exact (Function.update_of_ne differ ..).trans holds.2

end

end Archive

end RuntimeStubs
