import RuntimeStubs.Archive
import RuntimeStubs.Sorting

/-! The form in which an archive is kept between two runs of a program.

`Archive.snapshot` writes an archive down and `Archive.ofSnapshot` reads it back after checking it:
both tables fit the phase, no address is null, every filled slot has a name and a run inside the
address array, and no two runs share an address. The first violation, in that order, is reported. -/

set_option autoImplicit false

namespace RuntimeStubs

/-- The index table holds the first position and the length of every run, or `(-1, 0)` for a slot
that is not filled. -/
structure Snapshot where
  kind : Phase
  indexTable : List (Int32 × UInt32)
  addresses : List UInt64
  names : List (Option String)
  deriving DecidableEq, Repr

namespace Snapshot

def unset : Int32 × UInt32 := (-1, 0)

def ofSlot : Option Slot → Int32 × UInt32
  | some slot => (Int32.ofNat slot.run.first, UInt32.ofNat slot.run.count)
  | none => unset

def slot (total index : Nat) (run : Int32 × UInt32) (name : Option String) :
    Except Corruption (Option Slot) :=
  if run = unset then
    if name.isSome then .error (.namedUnsetSlot index) else .ok none
  else
    match name with
    | none => .error (.unnamedSlot index)
    | some name =>
      if run.1 < 0 ∨ run.2 < 2 then .error (.invalidRun index run.1 run.2)
      else if total < run.1.toInt.toNat + run.2.toNat then .error (.runPastEnd index)
      else .ok (some ⟨⟨run.1.toInt.toNat, run.2.toNat⟩, name⟩)

def slots (total : Nat) : Nat → List ((Int32 × UInt32) × Option String) →
    Except Corruption (List (Option Slot))
  | _, [] => .ok []
  | index, (run, name) :: rest =>
    match slot total index run name with
    | .error reason => .error reason
    | .ok first =>
      match slots total (index + 1) rest with
      | .error reason => .error reason
      | .ok rest => .ok (first :: rest)

def runsInOrder (slots : List (Option Slot)) : List (Run × Nat) :=
  Sorting.sort (fun a b => a.1.first ≤ b.1.first)
    (slots.zipIdx.filterMap fun (slot, index) => slot.map fun slot => (slot.run, index))

/-- The first slot whose run begins before the run in front of it has ended. -/
def overlap? : List (Run × Nat) → Option Nat
  | previous :: next :: rest =>
    if next.1.first ≤ previous.1.last then some next.2 else overlap? (next :: rest)
  | _ => none

def check (s : Snapshot) : Except Corruption (List (Option Slot)) :=
  if s.indexTable.length ≠ s.kind.stubCount then
    .error (.indexTableSize s.indexTable.length s.kind.stubCount)
  else if s.names.length ≠ s.kind.stubCount then
    .error (.nameTableSize s.names.length s.kind.stubCount)
  else
    match s.addresses.findIdx? (· == 0) with
    | some index => .error (.nullAddress index)
    | none =>
      match slots s.addresses.length 0 (s.indexTable.zip s.names) with
      | .error reason => .error reason
      | .ok slots =>
        match overlap? (runsInOrder slots) with
        | some index => .error (.overlappingRun index)
        | none => .ok slots

end Snapshot

namespace Archive

def snapshot (a : Archive) : Snapshot where
  kind := a.kind
  indexTable := a.slots.map Snapshot.ofSlot
  addresses := a.addresses.map Address.raw
  names := a.slots.map fun slot => slot.map Slot.name

/-- An archive read back has no current stub. -/
def ofSnapshot (s : Snapshot) : Except Fault Archive :=
  match s.check with
  | .error reason => .error (.corruptArchive s.kind reason)
  | .ok slots => .ok ⟨s.kind, slots, s.addresses.map Address.mk, none⟩

end Archive

end RuntimeStubs
