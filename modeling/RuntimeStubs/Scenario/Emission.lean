import RuntimeStubs.Code.Buffer

/-! The buffers of a scenario and what can be emitted into them.

Besides code buffers there are scripted sinks: their cursor is set by hand, and their next flush can
be made to fail. -/

set_option autoImplicit false

namespace RuntimeStubs.Scenario

structure ScriptedSink where
  base : Address
  cursor : Address
  /-- The reason with which the next flush fails. -/
  refusal : Option String
  deriving DecidableEq, Repr

inductive Buffer where
  | code (buffer : CodeBuffer)
  | scripted (sink : ScriptedSink)
  deriving DecidableEq, Repr

namespace Buffer

def pc : Buffer → Address
  | code buffer => buffer.pc
  | scripted sink => sink.cursor

def base : Buffer → Address
  | code buffer => buffer.base
  | scripted sink => sink.base

/-- A refusal is used up by the flush that it makes fail. -/
def flush : Action Buffer Unit
  | code buffer =>
    match buffer.flush with
    | (result, buffer) => (result, code buffer)
  | scripted sink =>
    match sink.refusal with
    | some reason => (.error (.codeGeneration reason), scripted { sink with refusal := none })
    | none => (.ok (), scripted sink)

def codeBytes : Buffer → Address → Address → Option (List UInt8)
  | code buffer, start, stop => buffer.codeBytes start stop
  | scripted _, _, _ => none

instance : Sink Buffer where
  pc := pc
  base := base
  flush := flush
  codeBytes := codeBytes

/-- Changes a code buffer; other sinks have nothing to queue. -/
def queue (change : CodeBuffer → CodeBuffer) : Action Buffer Unit
  | code buffer => (.ok (), code (change buffer))
  | scripted sink => (.ok (), scripted sink)

def queueData (bytes : List UInt8) : Action Buffer Unit
  | code buffer =>
    match buffer.pushData bytes with
    | (result, buffer) => (result, code buffer)
  | scripted sink => (.ok (), scripted sink)

def script (change : ScriptedSink → ScriptedSink) : Action Buffer Unit
  | code buffer => (.ok (), code buffer)
  | scripted sink => (.ok (), scripted (change sink))

end Buffer

inductive Emission where
  | flush
  | entry
  | entryUnflushed
  | entryAt (address : Address)
  | refuse (reason : String)
  | moveTo (cursor : Address)
  | advance (distance : Nat)
  | refuseNextFlush (reason : String)
  | instruction (instruction : Instruction)
  | repeatByte
  | data (bytes : List UInt8)
  | prologue (frameSize : UInt32)
  | epilogue (frameSize : UInt32)
  deriving DecidableEq, Repr

namespace Emission

def run : Emission → Action Buffer (List Address)
  | flush => do
    Buffer.flush
    return []
  | entry => do
    Buffer.flush
    let buffer ← Action.get
    return [buffer.pc]
  | entryUnflushed => do
    let buffer ← Action.get
    return [buffer.pc]
  | entryAt address => return [address]
  | refuse reason => Action.fail (.codeGeneration reason)
  | moveTo cursor => do
    Buffer.script fun sink => { sink with cursor := cursor }
    return []
  | advance distance => do
    Buffer.script fun sink => { sink with cursor := sink.cursor.add distance }
    return []
  | refuseNextFlush reason => do
    Buffer.script fun sink => { sink with refusal := some reason }
    return []
  | instruction i => do
    Buffer.queue (·.push i)
    return []
  | repeatByte => do
    Buffer.queue (·.pushRepeat)
    return []
  | data bytes => do
    Buffer.queueData bytes
    return []
  | prologue frameSize => do
    Buffer.queue (·.pushPrologue frameSize)
    return []
  | epilogue frameSize => do
    Buffer.queue (·.pushEpilogue frameSize)
    return []

def runAll : List Emission → Action Buffer (List Address)
  | [] => return []
  | item :: rest => do
    let first ← item.run
    let others ← runAll rest
    return first ++ others

end Emission

end RuntimeStubs.Scenario
