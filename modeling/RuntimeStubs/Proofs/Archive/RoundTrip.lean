import RuntimeStubs.Proofs.Archive.Requests

/-! Writing archives down and reading them back.

Main statement (`snapshot_roundTrip`): a reachable archive whose addresses can be counted by the
index table comes back from its snapshot as it was, but for the current stub, and a snapshot that is
accepted is the one that the archive read back writes. The table has 32 bits for a start and for a
length. A start that fits has no sign bit, so that only an empty slot is written as `(-1, 0)`. -/

set_option autoImplicit false

namespace RuntimeStubs

namespace Snapshot

/-- The 31st power of two: with no more addresses than this, every run has an entry in the index
table. -/
def addressLimit : Nat := 0x80000000

-- The first position becomes a signed number of 32 bits and the length an unsigned one. Below the
-- limit neither loses a bit.
theorem runOf_ofSlot {total : Nat} {slot : Slot} (fits : slot.run.Fits total)
    (limit : total ≤ addressLimit) :
    0 ≤ (ofSlot (some slot)).1 ∧ runOf (ofSlot (some slot)) = slot.run := by
  obtain ⟨count, bound⟩ := fits
  have inside : slot.run.first + slot.run.count ≤ 0x80000000 := Nat.le_trans bound limit
  have first : (Int32.ofNat slot.run.first).toInt = slot.run.first :=
    Int32.toInt_ofNat_of_lt (by omega)
  have length : (UInt32.ofNat slot.run.count).toNat = slot.run.count :=
    UInt32.toNat_ofNat_of_lt' (by rw [UInt32.size]; omega)
  refine ⟨?_, ?_⟩
  · rw [Int32.le_iff_toInt_le, ofSlot, first]
    exact Int.natCast_nonneg _
  · rw [runOf, ofSlot, first, length, Int.toNat_natCast]

theorem reads_ofSlot {total : Nat} (limit : total ≤ addressLimit) {slot : Option Slot}
    (fits : ∀ filled, slot = some filled → filled.run.Fits total) :
    Reads total (ofSlot slot, slot.map Slot.name) slot := by
  cases slot with
  | none => exact .unset
  | some slot =>
    have fits := fits slot rfl
    obtain ⟨start, run⟩ := runOf_ofSlot fits limit
    have reads : Reads total (ofSlot (some slot), some slot.name)
        (some ⟨runOf (ofSlot (some slot)), slot.name⟩) := .filled start (run ▸ fits)
    rwa [run] at reads

-- No entry but `(-1, 0)` is read as an empty slot, and a filled slot remembers its entry exactly.
theorem ofSlot_of_reads {total : Nat} {pair : (Int32 × UInt32) × Option String}
    {slot : Option Slot} (reads : Reads total pair slot) :
    ofSlot slot = pair.1 ∧ slot.map Slot.name = pair.2 := by
  cases reads with
  | unset => exact ⟨rfl, rfl⟩
  | filled start _ =>
    exact ⟨Prod.ext (Int32.ofNat_toNatClampNeg _ start) UInt32.ofNat_toNat, rfl⟩

theorem tables_of_reads {total : Nat} {pairs : List ((Int32 × UInt32) × Option String)}
    {slots : List (Option Slot)} (reads : List.Forall₂ (Reads total) pairs slots) :
    slots.map ofSlot = pairs.map Prod.fst ∧
      slots.map (fun slot => slot.map Slot.name) = pairs.map Prod.snd := by
  induction reads with
  | nil => exact ⟨rfl, rfl⟩
  | cons first _ ih =>
    obtain ⟨entry, name⟩ := ofSlot_of_reads first
    exact ⟨congrArg₂ List.cons entry ih.1, congrArg₂ List.cons name ih.2⟩

end Snapshot

namespace Archive

open Snapshot (addressLimit)

theorem describes_snapshot {a : Archive} (sound : a.Sound)
    (limit : a.addresses.length ≤ addressLimit) : a.snapshot.Describes a.slots where
  length_indexTable := by rw [snapshot, List.length_map, sound.length_slots]
  length_names := by rw [snapshot, List.length_map, sound.length_slots]
  not_null raw member := by
    obtain ⟨address, inside, rfl⟩ := List.mem_map.mp member
    exact ne_of_beq_false (sound.not_null address inside)
  reads := by
    simp only [snapshot, List.zip_map', List.length_map, List.forall₂_map_left_iff,
      List.forall₂_same]
    intro slot member
    apply Snapshot.reads_ofSlot limit
    rintro filled rfl
    obtain ⟨index, here⟩ := List.mem_iff_getElem?.mp member
    exact sound.fits (slot?_eq_some_iff.mpr here)
  apart differ first second :=
    sound.apart differ (slot?_eq_some_iff.mpr first) (slot?_eq_some_iff.mpr second)

theorem ofSnapshot_snapshot {a : Archive} (sound : a.Sound)
    (limit : a.addresses.length ≤ addressLimit) :
    ofSnapshot a.snapshot = .ok { a with current := none } := by
  refine ofSnapshot_eq_ok_iff.mpr ⟨a.slots, describes_snapshot sound limit, ?_⟩
  have addresses : (a.addresses.map Address.raw).map Address.mk = a.addresses := by
    rw [List.map_map]
    exact List.map_id _
  rw [snapshot, addresses]

theorem snapshot_ofSnapshot {s : Snapshot} {a : Archive} (accepted : ofSnapshot s = .ok a) :
    a.snapshot = s := by
  obtain ⟨slots, valid, rfl⟩ := ofSnapshot_eq_ok_iff.mp accepted
  obtain ⟨entries, names⟩ := Snapshot.tables_of_reads valid.reads
  have length : s.indexTable.length = s.names.length :=
    valid.length_indexTable.trans valid.length_names.symm
  have addresses : (s.addresses.map Address.mk).map Address.raw = s.addresses := by
    rw [List.map_map]
    exact List.map_id _
  rw [snapshot, entries, names, addresses, List.map_fst_zip (Nat.le_of_eq length),
    List.map_snd_zip (Nat.le_of_eq length.symm)]

/-- Archives and the snapshots that are accepted determine each other. -/
theorem snapshot_roundTrip :
    (∀ a : Archive, a.Reachable → a.addresses.length ≤ addressLimit →
      ofSnapshot a.snapshot = .ok { a with current := none }) ∧
    (∀ (s : Snapshot) (a : Archive), ofSnapshot s = .ok a → a.snapshot = s) ∧
    ∀ (s t : Snapshot) (a b : Archive), ofSnapshot s = .ok a → ofSnapshot t = .ok b → s ≠ t →
      a ≠ b := by
  refine ⟨?_, ?_, ?_⟩
  · intro a reachable limit
    exact ofSnapshot_snapshot reachable.sound limit
  · intro s a accepted
    exact snapshot_ofSnapshot accepted
  · intro s t a b first second differ same
    subst same
    exact differ ((snapshot_ofSnapshot first).symm.trans (snapshot_ofSnapshot second))

def thawed : Archive :=
  ((create .continuation).serve (.storeWithEntry .contThaw ⟨16⟩ ⟨20⟩ ⟨32⟩)).2

theorem snapshot_roundTrip_thawed :
    ofSnapshot thawed.snapshot = .ok thawed ∧
      thawed.snapshot ≠ (create .continuation).snapshot ∧ thawed ≠ create .continuation := by
  have restored : ofSnapshot thawed.snapshot = .ok thawed :=
    snapshot_roundTrip.1 thawed (.served _ (.created _)) (by decide)
  have restoredEmpty : ofSnapshot (create .continuation).snapshot = .ok (create .continuation) :=
    snapshot_roundTrip.1 _ (.created _) (by decide)
  have differ : thawed.snapshot ≠ (create .continuation).snapshot := by decide
  exact ⟨restored, differ, snapshot_roundTrip.2.2 _ _ _ _ restored restoredEmpty differ⟩

end Archive

end RuntimeStubs
