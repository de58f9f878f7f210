import RuntimeStubs.Registry
import RuntimeStubs.Session.Basic
import RuntimeStubs.Sorting

/-! Statistics over the descriptors of a registry, and their report. -/

set_option autoImplicit false

namespace RuntimeStubs

structure Statistics where
  /-- Descriptors of stubs that belong to a phase. -/
  emitted : Nat
  hydrated : Nat
  totalSize : Nat
  largestSize : Nat
  largestName : String
  groups : List (String × Nat)
  deriving DecidableEq, Repr

namespace Statistics

def empty : Statistics := ⟨0, 0, 0, 0, "", []⟩

def phaseCounts : List (Phase × Nat) := Phase.all.map fun kind => (kind, kind.stubCount)

def countGroup (group : String) : List (String × Nat) → List (String × Nat)
  | [] => [(group, 1)]
  | (name, count) :: rest =>
    if name = group then (name, count + 1) :: rest else (name, count) :: countGroup group rest

/-- Takes one more descriptor into account. The total size is a 64-bit number. -/
def add (s : Statistics) (d : Descriptor) : Except Abort Statistics :=
  let belongs := d.group = Session.routinesGroup
  if UInt64.size ≤ s.totalSize + d.size then .error .addition
  else .ok {
    emitted := if belongs then s.emitted + 1 else s.emitted
    hydrated := if belongs ∧ d.hydrated then s.hydrated + 1 else s.hydrated
    totalSize := s.totalSize + d.size
    largestSize := if s.largestSize < d.size then d.size else s.largestSize
    largestName := if s.largestSize < d.size then d.name else s.largestName
    groups := countGroup d.group s.groups }

def addAll (s : Statistics) : List Descriptor → Except Abort Statistics
  | [] => .ok s
  | d :: rest =>
    match s.add d with
    | .ok s => addAll s rest
    | .error cause => .error cause

/-- Of several descriptors of the largest size the one registered last is named. -/
def collect (r : Registry) : Except Abort Statistics := addAll empty r.newestFirst

def generated (s : Statistics) : Nat := s.emitted - s.hydrated

/-- Larger groups first, and groups of one size by name. -/
def groupOrder (a b : String × Nat) : Bool :=
  b.2 < a.2 || (a.2 == b.2 && decide (a.1 ≤ b.1))

def phaseLine (kind : Phase) (count : Nat) : String :=
  "  " ++ Text.padRight 22 (kind.name ++ " stubs:") ++ " " ++ toString count

def lines (s : Statistics) : List String :=
  ["StubRoutines Stubs:"] ++
  phaseCounts.map (fun (kind, count) => phaseLine kind count) ++
  [s!"Total stubroutines stubs emitted: {s.emitted} (generated={s.generated}, " ++
      s!"loaded from cache={s.hydrated})",
    s!"Total code size: {s.totalSize} bytes"] ++
  (if s.largestName = "" then []
    else [s!"Largest stub: {s.largestName} ({s.largestSize} bytes)"]) ++
  (if s.groups.length ≤ 1 then []
    else "Descriptors by group:" ::
      (Sorting.sort groupOrder s.groups).map fun (group, count) => s!"  {group}: {count}")

def toText (s : Statistics) : String := String.join (s.lines.map (· ++ "\n"))

end Statistics

end RuntimeStubs
