import Mathlib.Data.List.GetD
import Mathlib.Logic.Function.Basic
import RuntimeStubs.Proofs.Archive.Requests

/-! Archives as partial maps with a cursor.

A `Catalogue` knows nothing of arrays and runs: it maps a slot to the name and the addresses stored
for it, and its cursor is the stub found last. `Archive.catalogue` reads an archive as one. Main
statement: over any sequence of requests, an archive that is new or has been restored answers as its
catalogue does and stays in step with it (`serveAll_catalogue`). A store appends to the shared array
only, so the addresses of the other slots stay where they are. -/

set_option autoImplicit false

namespace RuntimeStubs

/-- What a catalogue holds for a slot. -/
structure Binding where
  name : String
  start : Address
  extras : List Address
  stop : Address
  deriving DecidableEq, Repr

structure Catalogue where
  kind : Phase
  bindings : Nat → Option Binding
  cursor : Option Stub

namespace Catalogue

open Archive (Request Answer)

def empty (kind : Phase) : Catalogue := ⟨kind, fun _ => none, none⟩

def find (stub : Stub) (c : Catalogue) : Except Fault Answer × Catalogue :=
  if stub.phase ≠ c.kind then (.error (.wrongPhase stub c.kind stub.phase), c)
  else
    match c.bindings stub.localIndex with
    | some _ => (.ok (.hit true), { c with cursor := some stub })
    | none => (.ok (.hit false), { c with cursor := none })

def bind (stub : Stub) (binding : Binding) (c : Catalogue) : Catalogue :=
  { c with bindings := Function.update c.bindings stub.localIndex (some binding) }

def store (stub : Stub) (start stop : Address) (extras : List Address) (c : Catalogue) :
    Except Fault Answer × Catalogue :=
  if stub.phase ≠ c.kind then (.error (.wrongPhase stub c.kind stub.phase), c)
  else if (c.bindings stub.localIndex).isSome then (.error (.slotAlreadySet stub), c)
  else if start = .null then (.error (.nullAddress stub .start), c)
  else if stop = .null then (.error (.nullAddress stub .stop), c)
  else if .null ∈ extras then (.error (.nullAddress stub .entry), c)
  else (.ok .stored, c.bind stub ⟨stub.name, start, extras, stop⟩)

/-- The stub at the cursor and its binding, provided that it is bound under its own name. -/
def selected (c : Catalogue) : Except Fault (Stub × Binding) :=
  match c.cursor with
  | none => .error .noCurrentStub
  | some stub =>
    match c.bindings stub.localIndex with
    | none => .error .noCurrentStub
    | some binding =>
      if binding.name ≠ stub.name then .error (.stubNameMismatch stub.name binding.name)
      else .ok (stub, binding)

def retrieve (extra : Nat) (c : Catalogue) : Except Fault ArchivedStub :=
  match c.selected with
  | .error fault => .error fault
  | .ok (stub, binding) =>
    if binding.extras.length < extra then
      .error (.entryOutOfRange stub extra (binding.extras.length + 2))
    else .ok ⟨stub, binding.start, binding.stop, binding.extras.take extra⟩

def retrieveAll (c : Catalogue) : Except Fault ArchivedStub :=
  match c.selected with
  | .error fault => .error fault
  | .ok (stub, binding) => .ok ⟨stub, binding.start, binding.stop, binding.extras⟩

def serve : Request → Catalogue → Except Fault Answer × Catalogue
  | .find stub, c => c.find stub
  | .store stub start stop extras, c => c.store stub start stop extras
  | .storeWithEntry stub start entry stop, c => c.store stub start stop [entry]
  | .storeWithTwoEntries stub start first second stop, c => c.store stub start stop [first, second]
  | .retrieve extra, c => ((c.retrieve extra).map .addresses, c)
  | .retrieveAll, c => (c.retrieveAll.map .addresses, c)

end Catalogue

/-! ### Reading archives and snapshots -/

def Slot.binding (addresses : List Address) (slot : Slot) : Binding :=
  ⟨slot.name, addresses.getD slot.run.first .null,
    (addresses.drop (slot.run.first + 1)).take (slot.run.count - 2),
    addresses.getD slot.run.last .null⟩

def Archive.catalogue (a : Archive) : Catalogue :=
  ⟨a.kind, fun index => (a.slot? index).map (Slot.binding a.addresses), a.current⟩

def Snapshot.slotAt (s : Snapshot) (index : Nat) : Option Slot :=
  match s.indexTable[index]?, s.names[index]? with
  | some entry, some (some name) => if entry = unset then none else some ⟨runOf entry, name⟩
  | _, _ => none

def Snapshot.catalogue (s : Snapshot) : Catalogue :=
  ⟨s.kind, fun index => (s.slotAt index).map (Slot.binding (s.addresses.map Address.mk)), none⟩

/-- The archives that sequences of requests start with, and the catalogues they stand for. -/
inductive Archive.Founded : Archive → Catalogue → Prop where
  | created (kind : Phase) : Founded (create kind) (.empty kind)
  | restored {s : Snapshot} {a : Archive} : ofSnapshot s = .ok a → Founded a s.catalogue

/-! ### Bindings in an array that grows -/

-- What a slot stands for depends on its own run only, which a longer array contains unchanged.
theorem Slot.binding_append {addresses : List Address} {slot : Slot}
    (fits : slot.run.Fits addresses.length) (more : List Address) :
    slot.binding (addresses ++ more) = slot.binding addresses := by
  obtain ⟨count, bound⟩ := fits
  have inside : slot.run.first + slot.run.count ≤ addresses.length := bound
  have last : slot.run.last < addresses.length := by rw [Run.last]; omega
  rw [binding, binding, List.getD_append _ _ _ _ (by omega), List.getD_append _ _ _ _ last,
    List.drop_append_of_le_length (by omega),
    List.take_append_of_le_length (by rw [List.length_drop]; omega)]

theorem Slot.binding_nextRun (a : Archive) (name : String) (start stop : Address)
    (extras : List Address) :
    Slot.binding (a.addresses ++ start :: extras ++ [stop]) ⟨a.nextRun extras, name⟩ =
      ⟨name, start, extras, stop⟩ := by
  simp [binding, Archive.nextRun, Run.last]

-- The run of a slot has two positions more than there are further entry points.
theorem Slot.length_extras_binding {addresses : List Address} {slot : Slot}
    (fits : slot.run.Fits addresses.length) :
    (slot.binding addresses).extras.length = slot.run.count - 2 := by
  obtain ⟨count, bound⟩ := fits
  have inside : slot.run.first + slot.run.count ≤ addresses.length := bound
  rw [binding, List.length_take, List.length_drop]
  omega

/-! ### Requests to an archive and to its catalogue -/

namespace Archive

theorem bindings_catalogue (a : Archive) (index : Nat) :
    a.catalogue.bindings index = (a.slot? index).map (Slot.binding a.addresses) := rfl

theorem find_catalogue (stub : Stub) (a : Archive) :
    (a.serve (.find stub)).1 = (a.catalogue.find stub).1 ∧
      (a.serve (.find stub)).2.catalogue = (a.catalogue.find stub).2 := by
  by_cases phase : stub.phase = a.kind
  · have samePhase : ¬ stub.phase ≠ a.catalogue.kind := not_not.mpr phase
    rw [serve, find_of_phase phase, Catalogue.find, if_neg samePhase, bindings_catalogue]
    cases a.slot? stub.localIndex with
    | none => exact ⟨rfl, rfl⟩
    | some slot => exact ⟨rfl, rfl⟩
  · have otherPhase : stub.phase ≠ a.catalogue.kind := phase
    rw [serve, find_of_other_phase phase, Catalogue.find, if_pos otherPhase]
    exact ⟨rfl, rfl⟩

theorem catalogue_stored {a : Archive} (sound : a.Sound) {stub : Stub}
    (phase : stub.phase = a.kind) (start stop : Address) (extras : List Address) :
    (a.stored stub start stop extras).catalogue =
      a.catalogue.bind stub ⟨stub.name, start, extras, stop⟩ := by
  have bindings : (a.stored stub start stop extras).catalogue.bindings =
      Function.update a.catalogue.bindings stub.localIndex
        (some ⟨stub.name, start, extras, stop⟩) := by
    funext index
    by_cases same : stub.localIndex = index
    · subst same
      rw [Function.update_self, bindings_catalogue, slot?_stored_self sound phase, Option.map_some]
      exact congrArg some (Slot.binding_nextRun a stub.name start stop extras)
    · rw [Function.update_of_ne (Ne.symm same), bindings_catalogue, bindings_catalogue,
        slot?_stored_ne same]
      cases filled : a.slot? index with
      | none => rfl
      | some slot =>
        rw [Option.map_some, Option.map_some, stored, List.append_assoc,
          Slot.binding_append (sound.fits filled)]
  rw [Catalogue.bind, ← bindings]
  rfl

theorem isNull_iff {address : Address} : address.isNull = true ↔ address = .null := by
  cases address
  simp [Address.isNull, Address.null]

theorem any_isNull_iff {addresses : List Address} :
    addresses.any Address.isNull = true ↔ .null ∈ addresses := by
  simp [List.any_eq_true, isNull_iff]

theorem store_catalogue {a : Archive} (sound : a.Sound) (stub : Stub) (start stop : Address)
    (extras : List Address) :
    (a.settle (a.store stub start stop extras)).1 = (a.catalogue.store stub start stop extras).1 ∧
      (a.settle (a.store stub start stop extras)).2.catalogue =
        (a.catalogue.store stub start stop extras).2 := by
  by_cases phase : stub.phase = a.kind
  · have samePhase : ¬ stub.phase ≠ a.catalogue.kind := not_not.mpr phase
    rw [store, slotIndex_of_phase phase, Catalogue.store, if_neg samePhase, bindings_catalogue,
      Option.isSome_map]
    dsimp only
    simp only [isNull_iff, any_isNull_iff]
    -- Both sides make the same tests in the same order.
    split
    · exact ⟨rfl, rfl⟩
    · split
      · exact ⟨rfl, rfl⟩
      · split
        · exact ⟨rfl, rfl⟩
        · split
          · exact ⟨rfl, rfl⟩
          · exact ⟨rfl, catalogue_stored sound phase start stop extras⟩
  · have otherPhase : stub.phase ≠ a.catalogue.kind := phase
    rw [store, slotIndex_of_other_phase phase, Catalogue.store, if_pos otherPhase]
    exact ⟨rfl, rfl⟩

section

variable {a : Archive} {stub : Stub} {slot : Slot}

theorem currentRun_of_current (current : a.current = some stub) (phase : stub.phase = a.kind)
    (filled : a.slot? stub.localIndex = some slot) :
    a.currentRun = if slot.name = stub.name then .ok (stub, slot.run)
      else .error (.stubNameMismatch stub.name slot.name) := by
  simp only [currentRun, current, slotIndex_of_phase phase, filled]

theorem selected_of_current (current : a.current = some stub)
    (filled : a.slot? stub.localIndex = some slot) :
    a.catalogue.selected = if slot.name = stub.name then .ok (stub, slot.binding a.addresses)
      else .error (.stubNameMismatch stub.name slot.name) := by
  have cursor : a.catalogue.cursor = some stub := current
  simp only [Catalogue.selected, cursor, bindings_catalogue, filled, Option.map_some, ite_not]
  rfl

theorem addressAt_of_lt {position : Nat} (inside : position < a.addresses.length) :
    a.addressAt position = .ok (a.addresses.getD position .null) := by
  rw [addressAt, List.getElem?_eq_getElem inside, List.getD_eq_getElem _ _ inside]

-- Inside the array no access can miss, and the bounds of the run are where the binding has them.
theorem retrieve_of_currentRun (isCurrent : a.currentRun = .ok (stub, slot.run))
    (fits : slot.run.Fits a.addresses.length) (extra : Nat) :
    a.retrieve extra =
      if slot.run.count - 2 < extra then .error (.entryOutOfRange stub extra slot.run.count)
      else .ok ⟨stub, (slot.binding a.addresses).start, (slot.binding a.addresses).stop,
        (slot.binding a.addresses).extras.take extra⟩ := by
  have count : 2 ≤ slot.run.count := fits.1
  have bound : slot.run.first + slot.run.count ≤ a.addresses.length := fits.2
  rw [retrieve, isCurrent]
  simp only [bind, Except.bind, Run.extraCount_of_fits fits]
  split
  · rfl
  · next inside =>
    have insideStart : slot.run.first < a.addresses.length := by omega
    have insideStop : slot.run.last < a.addresses.length := by
      rw [Run.last]
      omega
    have areEntries : a.addressesIn (slot.run.first + 1) (slot.run.first + 1 + extra) =
        .ok ((slot.binding a.addresses).extras.take extra) := by
      rw [addressesIn, if_pos (by omega), Slot.binding, List.take_take,
        Nat.add_sub_cancel_left, Nat.min_eq_left (by omega)]
    rw [addressAt_of_lt insideStart, addressAt_of_lt insideStop, areEntries]
    rfl

end

theorem Sound.current_cases {a : Archive} (sound : a.Sound) :
    a.current = none ∨ ∃ stub slot, a.current = some stub ∧ stub.phase = a.kind ∧
      a.slot? stub.localIndex = some slot := by
  cases current : a.current with
  | none => exact Or.inl rfl
  | some stub =>
    obtain ⟨phase, filled⟩ := sound.current current
    obtain ⟨slot, filled⟩ := Option.isSome_iff_exists.mp filled
    exact Or.inr ⟨stub, slot, rfl, phase, filled⟩

-- A current stub that cannot be read is the same fault on both sides. There are two ways: no stub
-- is current, or its slot carries another name, as an archive of another stub table would have it.
theorem Sound.currentRun_cases {a : Archive} (sound : a.Sound) :
    (∃ fault, a.currentRun = .error fault ∧ a.catalogue.selected = .error fault) ∨
      ∃ (stub : Stub) (slot : Slot), a.currentRun = .ok (stub, slot.run) ∧
        slot.run.Fits a.addresses.length ∧
        a.catalogue.selected = .ok (stub, slot.binding a.addresses) := by
  rcases sound.current_cases with none | ⟨stub, slot, current, phase, filled⟩
  · have cursor : a.catalogue.cursor = Option.none := none
    exact Or.inl ⟨.noCurrentStub, by rw [currentRun, none], by rw [Catalogue.selected, cursor]⟩
  · have isRun := currentRun_of_current current phase filled
    have isSelected := selected_of_current current filled
    by_cases name : slot.name = stub.name
    · rw [if_pos name] at isRun isSelected
      exact Or.inr ⟨stub, slot, isRun, sound.fits filled, isSelected⟩
    · rw [if_neg name] at isRun isSelected
      exact Or.inl ⟨_, isRun, isSelected⟩

theorem retrieve_catalogue {a : Archive} (sound : a.Sound) (extra : Nat) :
    a.retrieve extra = a.catalogue.retrieve extra := by
  rcases sound.currentRun_cases with
    ⟨fault, isRun, isSelected⟩ | ⟨stub, slot, isRun, fits, isSelected⟩
  · rw [retrieve, isRun, Catalogue.retrieve, isSelected]
    rfl
  · have count : slot.run.count = (slot.binding a.addresses).extras.length + 2 := by
      rw [Slot.length_extras_binding fits]
      exact (Nat.sub_add_cancel fits.1).symm
    rw [retrieve_of_currentRun isRun fits, Catalogue.retrieve, isSelected, count,
      Nat.add_sub_cancel]

theorem retrieveAll_catalogue {a : Archive} (sound : a.Sound) :
    a.retrieveAll = a.catalogue.retrieveAll := by
  rcases sound.currentRun_cases with
    ⟨fault, isRun, isSelected⟩ | ⟨stub, slot, isRun, fits, isSelected⟩
  · rw [retrieveAll, isRun, Catalogue.retrieveAll, isSelected]
    rfl
  · have all : slot.run.count - 2 = (slot.binding a.addresses).extras.length :=
      (Slot.length_extras_binding fits).symm
    rw [retrieveAll, isRun, Catalogue.retrieveAll, isSelected]
    simp only [bind, Except.bind, Run.extraCount_of_fits fits]
    rw [retrieve_of_currentRun isRun fits, if_neg (Nat.lt_irrefl _), all, List.take_length]

theorem serve_catalogue {a : Archive} (sound : a.Sound) (request : Request) :
    (a.serve request).1 = (a.catalogue.serve request).1 ∧
      (a.serve request).2.catalogue = (a.catalogue.serve request).2 := by
  cases request with
  | find stub => exact find_catalogue stub a
  | store | storeWithEntry | storeWithTwoEntries => exact store_catalogue sound ..
  | retrieve extra =>
    exact ⟨congrArg (Except.map Answer.addresses) (retrieve_catalogue sound extra), rfl⟩
  | retrieveAll => exact ⟨congrArg (Except.map Answer.addresses) (retrieveAll_catalogue sound), rfl⟩

/-! ### Whole runs -/

theorem catalogue_create (kind : Phase) : (create kind).catalogue = .empty kind := by
  have bindings : (create kind).catalogue.bindings = fun _ => none := by
    funext index
    rw [bindings_catalogue, slot?_create, Option.map_none]
  rw [Catalogue.empty, ← bindings]
  rfl

-- The check reads both tables from front to back; here one index is read on its own.
theorem slotAt_eq_slot? {s : Snapshot} {slots : List (Option Slot)} (valid : s.Describes slots)
    (index : Nat) : s.slotAt index = (slots[index]?).join := by
  cases here : slots[index]? with
  | none =>
    have outside := List.getElem?_eq_none_iff.mp here
    rw [valid.length_slots, ← valid.length_indexTable] at outside
    rw [Snapshot.slotAt, List.getElem?_eq_none_iff.mpr outside]
    rfl
  | some slot =>
    obtain ⟨entry, name, atEntry, atName, reads⟩ := valid.reads_at here
    rw [Snapshot.slotAt, atEntry, atName]
    cases reads with
    | unset => rfl
    | filled start _ => exact if_neg (Snapshot.ne_unset start)

theorem catalogue_ofSnapshot {s : Snapshot} {a : Archive} (restored : ofSnapshot s = .ok a) :
    a.catalogue = s.catalogue := by
  obtain ⟨slots, valid, rfl⟩ := ofSnapshot_eq_ok_iff.mp restored
  have bindings : (fun index => (s.slotAt index).map (Slot.binding (s.addresses.map Address.mk))) =
      fun index => ((slots[index]?).join).map (Slot.binding (s.addresses.map Address.mk)) := by
    funext index
    rw [slotAt_eq_slot? valid]
  rw [Snapshot.catalogue, bindings]
  rfl

theorem Founded.reachable {a : Archive} {c : Catalogue} (founded : Founded a c) :
    a.Reachable ∧ a.catalogue = c := by
  cases founded with
  | created kind => exact ⟨.created kind, catalogue_create kind⟩
  | restored accepted => exact ⟨.restored accepted, catalogue_ofSnapshot accepted⟩

def Represents (a : Archive) (c : Catalogue) : Prop := a.Sound ∧ a.catalogue = c

theorem serve_represents (request : Request) (a : Archive) (c : Catalogue)
    (represents : a.Represents c) :
    (a.serve request).1 = (c.serve request).1 ∧
      (a.serve request).2.Represents (c.serve request).2 := by
  obtain ⟨sound, rfl⟩ := represents
  obtain ⟨answer, next⟩ := serve_catalogue sound request
  exact ⟨answer, sound.serve request, next⟩

/-- Archives answer as partial maps with a cursor do, whatever they are asked and in whatever order,
and a request that fails changes nothing. -/
theorem serveAll_catalogue {a : Archive} {c : Catalogue} (founded : Founded a c)
    (requests : List Request) :
    (Request.serveAll serve requests a).1 = (Request.serveAll Catalogue.serve requests c).1 ∧
      (Request.serveAll serve requests a).2.catalogue =
        (Request.serveAll Catalogue.serve requests c).2 ∧
      ∀ (request : Request) (fault : Fault),
        ((Request.serveAll serve requests a).2.serve request).1 = .error fault →
          ((Request.serveAll serve requests a).2.serve request).2 =
            (Request.serveAll serve requests a).2 := by
  obtain ⟨reachable, rfl⟩ := founded.reachable
  obtain ⟨answers, last⟩ := Request.serveAll_simulation serve_represents requests
    ⟨reachable.sound, rfl⟩
  exact ⟨answers, last.2, fun _ _ => serve_error⟩

/-- Two of the four addresses around the only run belong to it. -/
def sparse : Snapshot :=
  ⟨.continuation, [(1, 2), (-1, 0), (-1, 0)], [9, 16, 32, 48], [some "Thaw", none, none]⟩

def sparseArchive : Archive :=
  ⟨.continuation, [some ⟨⟨1, 2⟩, "Thaw"⟩, none, none], [⟨9⟩, ⟨16⟩, ⟨32⟩, ⟨48⟩], none⟩

theorem serveAll_sparse :
    ofSnapshot sparse = .ok sparseArchive ∧
      (Request.serveAll serve
        [.retrieveAll, .find .contThaw, .storeWithEntry .contReturnBarrier ⟨64⟩ ⟨72⟩ ⟨80⟩,
          .find .callStub, .retrieve 1, .retrieveAll, .find .contReturnBarrier, .retrieve 1]
        sparseArchive).1 =
        [.error .noCurrentStub, .ok (.hit true), .ok .stored,
          .error (.wrongPhase .callStub .continuation .initial),
          .error (.entryOutOfRange .contThaw 1 2),
          .ok (.addresses ⟨.contThaw, ⟨16⟩, ⟨32⟩, []⟩), .ok (.hit true),
          .ok (.addresses ⟨.contReturnBarrier, ⟨64⟩, ⟨80⟩, [⟨72⟩]⟩)] := by
  have accepted : ofSnapshot sparse = .ok sparseArchive := by rfl
  refine ⟨accepted, ?_⟩
  rw [(serveAll_catalogue (.restored accepted) _).1]
  rfl

end Archive

end RuntimeStubs
