import Mathlib.Algebra.GroupWithZero.Nat
import RuntimeStubs.Proofs.Archive.Catalogue

/-! The tables of an archive and how its runs came to lie where they are.

The runs and the names of an archive stand in two tables with one entry for each stub of the phase.
A store that succeeds is a `Deposit`; `Request.deposits` lists those of a sequence of requests. Main
statement (`representation_safe`): the tables of an archive that clients can come by agree with each
other and with the addresses, so that no access misses; and in an archive that began empty the runs
tile the addresses in the order of the deposits. -/

set_option autoImplicit false

namespace RuntimeStubs

structure Deposit where
  stub : Stub
  start : Address
  extras : List Address
  stop : Address
  deriving DecidableEq, Repr

namespace Deposit

def addresses (d : Deposit) : List Address := d.start :: d.extras ++ [d.stop]

def count (d : Deposit) : Nat := d.addresses.length

def runAfter (older : List Deposit) (d : Deposit) : Run := ⟨(older.map count).sum, d.count⟩

theorem length_flatMap_addresses (deposits : List Deposit) :
    (deposits.flatMap addresses).length = (deposits.map count).sum := List.length_flatMap

end Deposit

theorem Run.last_add_one {total : Nat} {run : Run} (fits : run.Fits total) :
    run.last + 1 = run.bound :=
  Nat.sub_add_cancel (Nat.le_trans (Nat.le_of_lt fits.1) (Nat.le_add_left ..))

namespace Archive

def runTable (a : Archive) : List (Option Run) := a.slots.map (Option.map Slot.run)

def nameTable (a : Archive) : List (Option String) := a.slots.map (Option.map Slot.name)

def Request.deposit? : Request → Option Deposit
  | .store stub start stop extras => some ⟨stub, start, extras, stop⟩
  | .storeWithEntry stub start entry stop => some ⟨stub, start, [entry], stop⟩
  | .storeWithTwoEntries stub start first second stop => some ⟨stub, start, [first, second], stop⟩
  | .find _ | .retrieve _ | .retrieveAll => none

def Request.accepted? (request : Request) : Except Fault Answer → Option Deposit
  | .ok .stored => request.deposit?
  | _ => none

/-- The deposits that a sequence of requests with these answers has made, in order. -/
def Request.deposits (requests : List Request) (answers : List (Except Fault Answer)) :
    List Deposit :=
  (requests.zip answers).filterMap fun (request, answer) => request.accepted? answer

/-! ### The two tables -/

section

variable {a : Archive} {index : Nat}

theorem runTable_eq_some_iff {run : Run} :
    a.runTable[index]? = some (some run) ↔ ∃ slot, a.slot? index = some slot ∧ slot.run = run := by
  simp [runTable, slot?, Option.map_eq_some_iff, Option.join_eq_some_iff]

theorem nameTable_eq_some_iff {name : String} :
    a.nameTable[index]? = some (some name) ↔
      ∃ slot, a.slot? index = some slot ∧ slot.name = name := by
  simp [nameTable, slot?, Option.map_eq_some_iff, Option.join_eq_some_iff]

theorem mem_runTable_iff {run : Run} :
    some run ∈ a.runTable ↔ ∃ index slot, a.slot? index = some slot ∧ slot.run = run := by
  simp only [List.mem_iff_getElem?, runTable_eq_some_iff]

theorem isSome_tables : (a.runTable[index]?).join.isSome = (a.nameTable[index]?).join.isSome := by
  rw [runTable, nameTable, List.getElem?_map, List.getElem?_map]
  rcases a.slots[index]? with - | - | slot <;> rfl

end

-- A snapshot that is accepted has its two tables filled at the same slots.
theorem unset_iff_of_ofSnapshot {s : Snapshot} {a : Archive} (restored : ofSnapshot s = .ok a)
    (index : Nat) : s.indexTable[index]? = some Snapshot.unset ↔ s.names[index]? = some none := by
  obtain ⟨slots, valid, -⟩ := ofSnapshot_eq_ok_iff.mp restored
  cases here : slots[index]? with
  | none =>
    have outside := List.getElem?_eq_none_iff.mp here
    rw [valid.length_slots] at outside
    have noEntry : s.indexTable[index]? = none :=
      List.getElem?_eq_none_iff.mpr (valid.length_indexTable ▸ outside)
    have noName : s.names[index]? = none :=
      List.getElem?_eq_none_iff.mpr (valid.length_names ▸ outside)
    simp [noEntry, noName]
  | some slot =>
    obtain ⟨entry, name, atEntry, atName, reads⟩ := valid.reads_at here
    rw [atEntry, atName]
    cases reads with
    | unset => simp
    | filled start _ => simp [Snapshot.ne_unset start]

/-! ### Requests that deposit -/

-- A request either leaves both tables and the addresses alone, or it is a store that succeeded.
theorem serve_cases (request : Request) (a : Archive) :
    (request.accepted? (a.serve request).1 = none ∧ (a.serve request).2.kind = a.kind ∧
      (a.serve request).2.slots = a.slots ∧ (a.serve request).2.addresses = a.addresses) ∨
    ∃ d, request.accepted? (a.serve request).1 = some d ∧
      a.store d.stub d.start d.stop d.extras = .ok (a.serve request).2 := by
  have deposits {d : Deposit} (deposit : request.deposit? = some d)
      (served : a.serve request = a.settle (a.store d.stub d.start d.stop d.extras)) :
      (request.accepted? (a.serve request).1 = none ∧ (a.serve request).2.kind = a.kind ∧
        (a.serve request).2.slots = a.slots ∧ (a.serve request).2.addresses = a.addresses) ∨
      ∃ d, request.accepted? (a.serve request).1 = some d ∧
        a.store d.stub d.start d.stop d.extras = .ok (a.serve request).2 := by
    rw [served]
    cases accepted : a.store d.stub d.start d.stop d.extras with
    | error fault => exact Or.inl ⟨rfl, rfl, rfl, rfl⟩
    | ok b => exact Or.inr ⟨d, deposit, accepted⟩
  cases request with
  | find stub =>
    left
    simp only [serve]
    split
    · next found =>
      obtain ⟨-, -, rfl⟩ := find_eq_ok_iff.mp found
      exact ⟨rfl, rfl, rfl, rfl⟩
    · exact ⟨rfl, rfl, rfl, rfl⟩
  | store | storeWithEntry | storeWithTwoEntries => exact deposits rfl rfl
  | retrieve extra =>
    left
    cases answer : a.retrieve extra <;> simp [serve, answer, Except.map, Request.accepted?]
  | retrieveAll =>
    left
    cases answer : a.retrieveAll <;> simp [serve, answer, Except.map, Request.accepted?]

theorem addresses_prefix_serve (request : Request) (a : Archive) :
    a.addresses <+: (a.serve request).2.addresses := by
  rcases serve_cases request a with ⟨-, -, -, same⟩ | ⟨d, -, accepted⟩
  · exact same ▸ List.prefix_rfl
  · obtain ⟨-, -, -, -, -, stored⟩ := store_eq_ok_iff.mp accepted
    rw [stored]
    exact addresses_prefix_stored

theorem addresses_prefix_serveAll (requests : List Request) (a : Archive) :
    a.addresses <+: (Request.serveAll serve requests a).2.addresses := by
  induction requests generalizing a with
  | nil => exact List.prefix_rfl
  | cons request rest ih => exact (addresses_prefix_serve request a).trans (ih _)

/-- The runs of an archive are those of the deposits, laid end to end. -/
structure Tiled (deposits : List Deposit) (a : Archive) : Prop where
  addresses : a.addresses = deposits.flatMap Deposit.addresses
  laid : ∀ {older newer : List Deposit} {d : Deposit}, deposits = older ++ d :: newer →
    d.stub.phase = a.kind ∧ a.slot? d.stub.localIndex = some ⟨d.runAfter older, d.stub.name⟩
  filled : ∀ {index : Nat} {slot : Slot}, a.slot? index = some slot →
    ∃ d ∈ deposits, d.stub.localIndex = index

theorem tiled_create (kind : Phase) : Tiled [] (create kind) where
  addresses := rfl
  laid split := by simp at split
  filled slot := by simp [slot?_create] at slot

theorem kind_serve (request : Request) (a : Archive) : (a.serve request).2.kind = a.kind := by
  rcases serve_cases request a with ⟨-, same, -⟩ | ⟨d, -, accepted⟩
  · exact same
  · obtain ⟨-, -, -, -, -, stored⟩ := store_eq_ok_iff.mp accepted
    rw [stored]
    rfl

theorem kind_serveAll (requests : List Request) (a : Archive) :
    (Request.serveAll serve requests a).2.kind = a.kind := by
  induction requests generalizing a with
  | nil => rfl
  | cons request rest ih => exact (ih _).trans (kind_serve request a)

section

variable {deposits : List Deposit} {a b : Archive}

-- The new run begins where the deposits made so far end.
theorem Tiled.runAfter (tiled : Tiled deposits a) (d : Deposit) :
    a.nextRun d.extras = d.runAfter deposits := by
  rw [nextRun, Deposit.runAfter, tiled.addresses, Deposit.length_flatMap_addresses]
  simp [Deposit.count, Deposit.addresses]

theorem Tiled.store (tiled : Tiled deposits a) (sound : a.Sound) {d : Deposit}
    (accepted : a.store d.stub d.start d.stop d.extras = .ok b) : Tiled (deposits ++ [d]) b := by
  obtain ⟨phase, empty, -, -, -, rfl⟩ := store_eq_ok_iff.mp accepted
  have atNew : (a.stored d.stub d.start d.stop d.extras).slot? d.stub.localIndex =
      some ⟨a.nextRun d.extras, d.stub.name⟩ := slot?_stored_self sound phase
  rw [tiled.runAfter] at atNew
  refine ⟨?_, ?_, ?_⟩
  · rw [List.flatMap_append, ← tiled.addresses, List.flatMap_singleton, stored, List.append_assoc]
    rfl
  · intro older newer e split
    rcases List.eq_nil_or_concat newer with rfl | ⟨newer, last, rfl⟩
    · obtain ⟨rfl, same⟩ := List.append_inj' split rfl
      cases same
      exact ⟨phase, atNew⟩
    · have split : deposits ++ [d] = (older ++ e :: newer) ++ [last] := by simpa using split
      obtain ⟨ofOld, -⟩ := List.append_inj' split rfl
      obtain ⟨samePhase, laid⟩ := tiled.laid ofOld
      refine ⟨samePhase, ?_⟩
      -- The slot that was empty is not one that an earlier deposit has filled.
      have differ : d.stub.localIndex ≠ e.stub.localIndex := by
        intro same
        rw [← same, empty] at laid
        cases laid
      rwa [slot?_stored_ne differ]
  · intro index slot filled
    by_cases same : d.stub.localIndex = index
    · exact ⟨d, by simp, same⟩
    · rw [slot?_stored_ne same] at filled
      obtain ⟨e, member, index⟩ := tiled.filled filled
      exact ⟨e, List.mem_append_left _ member, index⟩

theorem Tiled.serve (tiled : Tiled deposits a) (sound : a.Sound) (request : Request) :
    Tiled (deposits ++ (request.accepted? (a.serve request).1).toList) (a.serve request).2 := by
  rcases serve_cases request a with ⟨none, kind, slots, addresses⟩ | ⟨d, some, accepted⟩
  · rw [none, Option.toList_none, List.append_nil]
    have slot? (index : Nat) : (a.serve request).2.slot? index = a.slot? index := by
      rw [Archive.slot?, slots, Archive.slot?]
    refine ⟨addresses.trans tiled.addresses, ?_, ?_⟩
    · intro older newer d split
      rw [kind, slot?]
      exact tiled.laid split
    · intro index slot filled
      exact tiled.filled ((slot? index).symm.trans filled)
  · rw [some, Option.toList_some]
    exact tiled.store sound accepted

theorem Tiled.serveAll (tiled : Tiled deposits a) (sound : a.Sound) (requests : List Request) :
    Tiled (deposits ++ Request.deposits requests (Request.serveAll Archive.serve requests a).1)
      (Request.serveAll Archive.serve requests a).2 := by
  induction requests generalizing deposits a with
  | nil => simpa [Request.deposits, Request.serveAll] using tiled
  | cons request rest ih =>
    have next := ih (tiled.serve sound request) (sound.serve request)
    have split : Request.deposits (request :: rest)
        (Request.serveAll Archive.serve (request :: rest) a).1 =
        (request.accepted? (a.serve request).1).toList ++ Request.deposits rest
          (Request.serveAll Archive.serve rest (a.serve request).2).1 := by
      simp only [Request.deposits, Request.serveAll, List.zip_cons_cons, List.filterMap_cons]
      cases request.accepted? (a.serve request).1 <;> rfl
    rw [split, ← List.append_assoc]
    exact next

theorem Tiled.name (tiled : Tiled deposits a) {index : Nat} {slot : Slot}
    (filled : a.slot? index = some slot) :
    ∃ stub, a.kind.stubAt? index = some stub ∧ slot.name = stub.name := by
  obtain ⟨d, member, rfl⟩ := tiled.filled filled
  obtain ⟨older, newer, split⟩ := List.append_of_mem member
  obtain ⟨phase, laid⟩ := tiled.laid split
  refine ⟨d.stub, phase ▸ d.stub.stubAt?_localIndex, ?_⟩
  rw [filled, Option.some.injEq] at laid
  rw [laid]

end

/-! ### Accesses that stay inside -/

-- Catalogues do no arithmetic and no indexing, so none of their faults is an abort.
theorem selected_ne_abort (c : Catalogue) (site : Abort) : c.selected ≠ .error (.abort site) := by
  rw [Catalogue.selected]
  split
  · simp
  · split
    · simp
    · split <;> simp

theorem serve_ne_abort {a : Archive} (sound : a.Sound) (request : Request) (site : Abort) :
    (a.serve request).1 ≠ .error (.abort site) := by
  rw [(serve_catalogue sound request).1]
  generalize a.catalogue = c
  have store (stub : Stub) (start stop : Address) (extras : List Address) :
      (c.store stub start stop extras).1 ≠ .error (.abort site) := by
    rw [Catalogue.store]
    repeat' split
    all_goals simp
  cases request with
  | find stub =>
    rw [Catalogue.serve, Catalogue.find]
    repeat' split
    all_goals simp
  | store | storeWithEntry | storeWithTwoEntries => exact store _ _ _ _
  | retrieve extra =>
    rw [Catalogue.serve, Catalogue.retrieve]
    split
    · next fault failed =>
      simp only [Except.map, ne_eq, Except.error.injEq]
      rintro rfl
      exact selected_ne_abort c site failed
    · split <;> simp [Except.map]
  | retrieveAll =>
    rw [Catalogue.serve, Catalogue.retrieveAll]
    split
    · next fault failed =>
      simp only [Except.map, ne_eq, Except.error.injEq]
      rintro rfl
      exact selected_ne_abort c site failed
    · simp [Except.map]

-- The successor of a position is the only thing in a look-up that can be missing.
theorem entry_eq_abort {a : Archive} (sound : a.Sound) {index : UInt64} {site : Abort}
    (aborted : a.entry index = .error (.abort site)) : index.toNat + 1 = UInt64.size := by
  rcases sound.currentRun_cases with ⟨fault, isRun, isSelected⟩ | ⟨stub, slot, isRun, fits, -⟩
  · rw [entry, isRun] at aborted
    cases aborted
    exact absurd isSelected (selected_ne_abort _ _)
  · have count : 2 ≤ slot.run.count := fits.1
    have bound : slot.run.first + slot.run.count ≤ a.addresses.length := fits.2
    rw [entry, isRun] at aborted
    simp only [bind, Except.bind, Run.extraCount_of_fits fits] at aborted
    split at aborted
    · assumption
    · split at aborted
      · cases aborted
      · rw [addressAt_of_lt (by omega)] at aborted
        cases aborted

/-- The two tables of an archive agree with each other and with the addresses, and no request
misses. -/
structure Consistent (a : Archive) : Prop where
  length_runTable : a.runTable.length = a.kind.stubCount
  length_nameTable : a.nameTable.length = a.kind.stubCount
  filled : ∀ index : Nat, (a.runTable[index]?).join.isSome = (a.nameTable[index]?).join.isSome
  localIndex_lt : ∀ stub : Stub, stub.phase = a.kind → stub.localIndex < a.kind.stubCount
  fits : ∀ run, some run ∈ a.runTable → 2 ≤ run.count ∧ run.bound ≤ a.addresses.length
  counts : ∀ run, some run ∈ a.runTable →
    run.last + 1 = run.bound ∧ run.extraCount = .ok (run.count - 2)
  apart : ∀ (i j : Nat) (first second : Run), i ≠ j → a.runTable[i]? = some (some first) →
    a.runTable[j]? = some (some second) → first.Apart second
  not_null : .null ∉ a.addresses
  keeps : ∀ requests, a.addresses <+: (Request.serveAll serve requests a).2.addresses
  current : ∀ stub, a.current = some stub → stub.phase = a.kind ∧
    ∃ run, a.runTable[stub.localIndex]? = some (some run)
  serves : ∀ request site, (a.serve request).1 ≠ .error (.abort site)
  looks : ∀ index site, a.entry index = .error (.abort site) → index.toNat + 1 = UInt64.size

theorem Sound.consistent {a : Archive} (sound : a.Sound) : a.Consistent where
  length_runTable := by rw [runTable, List.length_map, sound.length_slots]
  length_nameTable := by rw [nameTable, List.length_map, sound.length_slots]
  filled _ := isSome_tables
  localIndex_lt stub phase := phase ▸ stub.localIndex_lt
  fits run member := by
    obtain ⟨index, slot, filled, rfl⟩ := mem_runTable_iff.mp member
    exact sound.fits filled
  counts run member := by
    obtain ⟨index, slot, filled, rfl⟩ := mem_runTable_iff.mp member
    have fits := sound.fits filled
    exact ⟨Run.last_add_one fits, Run.extraCount_of_fits fits⟩
  apart i j first second differ atFirst atSecond := by
    obtain ⟨_, first, rfl⟩ := runTable_eq_some_iff.mp atFirst
    obtain ⟨_, second, rfl⟩ := runTable_eq_some_iff.mp atSecond
    exact sound.apart differ first second
  not_null member := absurd (sound.not_null _ member) (by decide)
  keeps requests := addresses_prefix_serveAll requests a
  current stub selected := by
    obtain ⟨phase, filled⟩ := sound.current selected
    obtain ⟨slot, filled⟩ := Option.isSome_iff_exists.mp filled
    exact ⟨phase, slot.run, runTable_eq_some_iff.mpr ⟨slot, filled, rfl⟩⟩
  serves request site := serve_ne_abort sound request site
  looks _ _ := entry_eq_abort sound

/-- The tables of an archive list the deposits, whose runs are laid end to end. -/
structure Lists (deposits : List Deposit) (a : Archive) : Prop where
  addresses : a.addresses = deposits.flatMap Deposit.addresses
  laid : ∀ older newer d, deposits = older ++ d :: newer → d.stub.phase = a.kind ∧
    a.runTable[d.stub.localIndex]? = some (some ⟨(older.map Deposit.count).sum, d.count⟩)
  runs : ∀ (index : Nat) (run : Run), a.runTable[index]? = some (some run) →
    ∃ d ∈ deposits, d.stub.localIndex = index
  names : ∀ (index : Nat) (name : String), a.nameTable[index]? = some (some name) →
    ∃ stub, a.kind.stubAt? index = some stub ∧ name = stub.name

theorem Tiled.lists {deposits : List Deposit} {a : Archive} (tiled : Tiled deposits a) :
    Lists deposits a where
  addresses := tiled.addresses
  laid older newer d split := by
    obtain ⟨phase, laid⟩ := tiled.laid split
    exact ⟨phase, runTable_eq_some_iff.mpr ⟨_, laid, rfl⟩⟩
  runs index run atRun := by
    obtain ⟨slot, filled, -⟩ := runTable_eq_some_iff.mp atRun
    exact tiled.filled filled
  names index name atName := by
    obtain ⟨slot, filled, rfl⟩ := nameTable_eq_some_iff.mp atName
    exact tiled.name filled

/-- The tables of an archive describe disjoint runs inside its addresses, whatever it has been
asked, and the runs of an archive that began empty tile them. -/
theorem representation_safe :
    (∀ a : Archive, a.Reachable → a.Consistent) ∧
    (∀ (s : Snapshot) (a : Archive), ofSnapshot s = .ok a → ∀ index : Nat,
      s.indexTable[index]? = some Snapshot.unset ↔ s.names[index]? = some none) ∧
    ∀ (kind : Phase) (requests : List Request) (answers : List (Except Fault Answer)) (a : Archive),
      Request.serveAll serve requests (create kind) = (answers, a) →
        a.kind = kind ∧ Lists (Request.deposits requests answers) a := by
  refine ⟨fun a reachable => reachable.sound.consistent,
    fun s a restored index => unset_iff_of_ofSnapshot restored index, ?_⟩
  intro kind requests answers a served
  have tiled := (tiled_create kind).serveAll (sound_create kind) requests
  have isKind : (Request.serveAll serve requests (create kind)).2.kind = kind :=
    kind_serveAll requests _
  rw [served] at tiled isKind
  exact ⟨isKind, tiled.lists⟩

/-- The store in the middle is refused, so that the last one follows the first one directly. -/
def twoDeposits : List Request :=
  [.storeWithEntry .contReturnBarrier ⟨64⟩ ⟨72⟩ ⟨80⟩, .store .contThaw ⟨16⟩ ⟨0⟩ [],
    .store .contThaw ⟨16⟩ ⟨32⟩ []]

theorem representation_safe_sparse :
    (∀ run, some run ∈ sparseArchive.runTable →
      run.last + 1 = run.bound ∧ run.extraCount = .ok (run.count - 2)) ∧
    sparse.names[1]? = some none ∧
    ∃ a, Request.serveAll serve twoDeposits (create .continuation) =
        ([.ok .stored, .error (.nullAddress .contThaw .stop), .ok .stored], a) ∧
      a.runTable = [some ⟨3, 2⟩, some ⟨0, 3⟩, none] ∧
      a.addresses = [⟨64⟩, ⟨72⟩, ⟨80⟩, ⟨16⟩, ⟨32⟩] ∧
      ∃ stub, Phase.stubAt? .continuation 0 = some stub ∧ "Thaw" = stub.name := by
  obtain ⟨restored, snapshots, created⟩ := representation_safe
  have accepted : ofSnapshot sparse = .ok sparseArchive := by rfl
  have consistent := restored sparseArchive (.restored accepted)
  refine ⟨consistent.counts, (snapshots sparse _ accepted 1).mp rfl, _, rfl, rfl, rfl, ?_⟩
  obtain ⟨-, lists⟩ := created .continuation twoDeposits _ _ rfl
  exact lists.names 0 "Thaw" rfl

end Archive

end RuntimeStubs
