import RuntimeStubs.Address
import RuntimeStubs.Stub

/-! Every way in which an operation on runtime stubs can fail, as a cause with the data that
identifies the offender, and the wording of each cause in `Fault.message`.

An archive miss is not among them: it is an ordinary answer. Steps of machine arithmetic that have
no result are kept apart as `Abort`. -/

set_option autoImplicit false

namespace RuntimeStubs

/-- The place of a descriptor in the order of registration. It names no registry, so on another
registry it finds whatever has that place there. -/
structure Handle where
  index : Nat
  deriving DecidableEq, Repr, Inhabited

instance : ToString Handle := ⟨fun handle => s!"DescId({handle.index})"⟩

inductive AddressRole where
  | start
  | stop
  | entry
  deriving DecidableEq, Repr

def AddressRole.name : AddressRole → String
  | start => "start"
  | stop => "end"
  | entry => "entry"

inductive Corruption where
  | indexTableSize (found expected : Nat)
  | nameTableSize (found expected : Nat)
  | nullAddress (index : Nat)
  | namedUnsetSlot (slot : Nat)
  | unnamedSlot (slot : Nat)
  | invalidRun (slot : Nat) (first : Int32) (count : UInt32)
  | runPastEnd (slot : Nat)
  | overlappingRun (slot : Nat)
  deriving DecidableEq, Repr

def Corruption.message : Corruption → String
  | indexTableSize found expected => s!"index table has {found} slots, phase has {expected} stubs"
  | nameTableSize found expected => s!"name table has {found} slots, phase has {expected} stubs"
  | nullAddress index => s!"null address at index {index}"
  | namedUnsetSlot slot => s!"unset slot {slot} carries a name"
  | unnamedSlot slot => s!"slot {slot} has no name"
  | invalidRun slot first count =>
    "slot " ++ toString slot ++ " has invalid run (" ++ toString first.toInt ++ ", " ++
      toString count.toNat ++ ")"
  | runPastEnd slot => s!"slot {slot} runs past the address array"
  | overlappingRun slot => s!"slot {slot} overlaps an earlier run"

/-- A step of machine arithmetic, indexing or allocation without a result. -/
inductive Abort where
  | addition
  | subtraction
  | outOfBounds
  | allocation
  deriving DecidableEq, Repr

def Abort.message : Abort → String
  | addition => "attempt to add with overflow"
  | subtraction => "attempt to subtract with overflow"
  | outOfBounds => "index out of bounds"
  | allocation => "capacity overflow"

inductive Fault where
  | registryFrozen (group name : String)
  | emptyStubName (group : String)
  | repeatedFreeze
  | repeatedUnfreeze
  | beginDecreased (name : String) (old new : Address)
  | unorderedBounds (name : String) (start stop : Address)
  | unknownDescriptor (handle : Handle)
  | wrongPhase (stub : Stub) (expected actual : Phase)
  | unknownStub (number : Nat)
  | slotAlreadySet (stub : Stub)
  | nullAddress (stub : Stub) (role : AddressRole)
  | entryOutOfRange (stub : Stub) (index count : Nat)
  | noCurrentStub
  | stubNameMismatch (expected found : String)
  | corruptArchive (kind : Phase) (reason : Corruption)
  | phaseOrder (kind requires : Phase)
  | archiveKindMismatch (expected actual : Phase)
  | phaseAlreadyGenerated (kind : Phase)
  | nestedStub (active name : String)
  | markMismatch (name : String)
  | entryCountMismatch (stub : Stub) (expected found : Nat)
  | bufferOverflow (required capacity : Nat)
  | codeGeneration (reason : String)
  | abort (cause : Abort)
  deriving DecidableEq, Repr

namespace Fault

def message : Fault → String
  | registryFrozen group name =>
    s!"no modifications allowed: registry is frozen (registering {group}::{name})"
  | emptyStubName group => s!"no name specified for stub in group {group}"
  | repeatedFreeze => "repeated freeze operation"
  | repeatedUnfreeze => "repeated unfreeze operation"
  | beginDecreased name old new => s!"begin may not decrease for {name}: {old} -> {new}"
  | unorderedBounds name start stop =>
    s!"begin & end not properly ordered for {name}: [{start}, {stop})"
  | unknownDescriptor handle => s!"unknown descriptor handle {handle}"
  | wrongPhase stub expected actual =>
    s!"stub id {stub} belongs to {actual} stubs, archive holds {expected} stubs"
  | unknownStub number => s!"invalid stub id {number}"
  | slotAlreadySet stub => s!"archive slot for stub {stub} is already set"
  | nullAddress stub role => role.name ++ s!" address cannot be null for stub {stub}"
  | entryOutOfRange stub index count =>
    s!"entry index {index} out of range for stub {stub} with {count} addresses"
  | noCurrentStub => "no current stub: retrieval requires a successful find"
  | stubNameMismatch expected found =>
    s!"restored stub has wrong name: expected {expected}, archive has {found}"
  | corruptArchive kind reason => s!"corrupt {kind} stub archive: " ++ reason.message
  | phaseOrder kind requires => s!"{kind} stubs require {requires} stubs to be generated first"
  | archiveKindMismatch expected actual =>
    s!"archive for {actual} stubs attached to {expected} stub generation"
  | phaseAlreadyGenerated kind => s!"{kind} stubs have already been generated"
  | nestedStub active name => s!"stub {active} is still being generated, cannot begin {name}"
  | markMismatch name => s!"stub mark for {name} does not belong to the active stub"
  | entryCountMismatch stub expected found =>
    s!"stub {stub} declares {expected} extra entries, emitted {found}"
  | bufferOverflow required capacity =>
    s!"code buffer overflow: {required} bytes required, capacity {capacity}"
  | codeGeneration reason => s!"Code generation failed: {reason}"
  | abort cause => cause.message

def ofAborting {α : Type} : Except Abort α → Except Fault α
  | .ok value => .ok value
  | .error cause => .error (.abort cause)

end Fault

end RuntimeStubs
