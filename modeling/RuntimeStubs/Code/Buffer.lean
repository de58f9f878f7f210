import RuntimeStubs.Code.Instruction
import RuntimeStubs.Sink

/-! A code buffer of bounded capacity.

Instructions are queued and become code when the queue is flushed. The buffer is a tape that only
grows: `CodeBuffer.tape` is the committed code followed by the encoding of the queue, queuing adds
to its end and flushing leaves it alone. Addresses are virtual; the base is the caller's choice. -/

set_option autoImplicit false

namespace RuntimeStubs

/-- A queued instruction, possibly behind a repeat byte, or queued raw bytes. -/
inductive QueuedCode where
  | instruction (repeated : Bool) (instruction : Instruction)
  | data (bytes : List UInt8)
  deriving DecidableEq, Repr

def QueuedCode.bytes : QueuedCode → List UInt8
  | instruction true i => 0xf3 :: i.bytes
  | instruction false i => i.bytes
  | data bytes => bytes

structure CodeBuffer where
  base : Address
  capacity : Nat
  code : List UInt8
  queue : List QueuedCode
  repeatPending : Bool
  deriving DecidableEq, Repr

namespace CodeBuffer

def create (base : Address) (capacity : Nat) : CodeBuffer := ⟨base, capacity, [], [], false⟩

/-- The most bytes that one block of memory can hold. -/
def largestBlock : Nat := 0x7fffffffffffffff

def allocate (base : Address) (capacity : Nat) : Except Abort CodeBuffer :=
  if largestBlock < capacity then .error .allocation else .ok (create base capacity)

def forPhase (kind : Phase) (base : Address) : CodeBuffer := create base kind.codeSize

def size (b : CodeBuffer) : Nat := b.code.length

def isEmpty (b : CodeBuffer) : Bool := b.code.isEmpty

def remaining (b : CodeBuffer) : Nat := b.capacity - b.size

def pc (b : CodeBuffer) : Address := b.base.add b.size

def queueBytes (b : CodeBuffer) : List UInt8 := b.queue.flatMap QueuedCode.bytes

/-- The committed code followed by what the queue will add to it. -/
def tape (b : CodeBuffer) : List UInt8 := b.code ++ b.queueBytes

def push (instruction : Instruction) (b : CodeBuffer) : CodeBuffer :=
  { b with queue := b.queue ++ [.instruction b.repeatPending instruction], repeatPending := false }

def pushRepeat (b : CodeBuffer) : CodeBuffer := { b with repeatPending := true }

/-- Queues raw bytes. They are no instruction that a repeat byte could stand in front of. -/
def pushData (bytes : List UInt8) : Action CodeBuffer Unit := fun b =>
  if b.repeatPending then (.error (.codeGeneration "db/dw/dd/dq: No prefixes are allowed"), b)
  else if bytes.isEmpty then (.ok (), b)
  else (.ok (), { b with queue := b.queue ++ [.data bytes] })

/-- The frame size as the signed immediate of the instruction that moves the stack pointer. -/
def frameImmediate (frameSize : UInt32) : Int32 := frameSize.toInt32

def pushPrologue (frameSize : UInt32) (b : CodeBuffer) : CodeBuffer :=
  let b := (b.push .pushRbp).push .movRbpRsp
  if frameSize = 0 then b else b.push (.subRsp (frameImmediate frameSize))

def pushEpilogue (frameSize : UInt32) (b : CodeBuffer) : CodeBuffer :=
  let b := if frameSize = 0 then b else b.push (.addRsp (frameImmediate frameSize))
  (b.push .popRbp).push .ret

/-- Commits the queue. A queue that does not fit stays queued; so does one with a repeat byte that
still waits for its instruction. -/
def flush : Action CodeBuffer Unit := fun b =>
  if b.queue.isEmpty then (.ok (), b)
  else if b.repeatPending then
    (.error (.codeGeneration "Unused prefixes. Did you forget to add an instruction?"), b)
  else
    let required := b.size + b.queueBytes.length
    if b.capacity < required then (.error (.bufferOverflow required b.capacity), b)
    else (.ok (), { b with code := b.code ++ b.queueBytes, queue := [] })

def codeBytes (b : CodeBuffer) (start stop : Address) : Option (List UInt8) :=
  match start.offsetFrom b.base, stop.offsetFrom b.base with
  | some first, some bound =>
    if first ≤ bound ∧ bound ≤ b.size then some ((b.code.drop first).take (bound - first))
    else none
  | _, _ => none

instance : Sink CodeBuffer where
  pc := pc
  base := base
  flush := flush
  codeBytes := codeBytes

@[simp] theorem tape_create (base : Address) (capacity : Nat) : (create base capacity).tape = [] :=
  rfl

theorem tape_push (instruction : Instruction) (b : CodeBuffer) :
    (b.push instruction).tape =
      b.tape ++ (QueuedCode.instruction b.repeatPending instruction).bytes := by
  simp [push, tape, queueBytes]

@[simp] theorem tape_pushRepeat (b : CodeBuffer) : b.pushRepeat.tape = b.tape := rfl

theorem tape_pushData (bytes : List UInt8) (b : CodeBuffer) :
    (pushData bytes b).2.tape = b.tape ++ if b.repeatPending then [] else bytes := by
  unfold pushData
  split
  · simp
  · split
    · simp_all [List.isEmpty_iff]
    · simp [tape, queueBytes, QueuedCode.bytes]

@[simp] theorem tape_flush (b : CodeBuffer) : (flush b).2.tape = b.tape := by
  unfold flush
  split
  · rfl
  · split
    · rfl
    · dsimp only
      split
      · rfl
      · simp [tape, queueBytes]

end CodeBuffer

end RuntimeStubs
