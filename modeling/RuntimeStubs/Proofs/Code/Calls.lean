import RuntimeStubs.Code.StubBody
import RuntimeStubs.Proofs.Session.Steps

/-! Calls that write to a code buffer.

Whoever emits code queues instructions, a repeat byte or raw bytes, and flushes. `CodeBuffer.queued`
says what the queue gets from a sequence of such calls, whatever becomes of it. Main statement: the
tape of the buffer grows by exactly the encoding of that (`tape_perform`), also where a flush fails
or lies in between. Committed code is never taken back, and it is read back as it was queued
(`codeBytes_eq`). -/

set_option autoImplicit false

namespace RuntimeStubs

namespace CodeBuffer

inductive Call where
  | push (instruction : Instruction)
  | pushRepeat
  | pushData (bytes : List UInt8)
  | flush
  deriving DecidableEq, Repr

namespace Call

def apply (b : CodeBuffer) : Call → CodeBuffer
  | push instruction => b.push instruction
  | pushRepeat => b.pushRepeat
  | pushData bytes => (CodeBuffer.pushData bytes b).2
  | flush => (CodeBuffer.flush b).2

def pending (before : Bool) : Call → Bool
  | push _ => false
  | pushRepeat => true
  | pushData _ | flush => before

/-- What a call adds to the queue. A repeat byte that waits belongs to the next instruction, and raw
bytes are refused behind it. -/
def queued (before : Bool) : Call → List QueuedCode
  | push instruction => [.instruction before instruction]
  | pushData bytes => if before || bytes.isEmpty then [] else [.data bytes]
  | pushRepeat | flush => []

end Call

def perform (calls : List Call) (b : CodeBuffer) : CodeBuffer := calls.foldl Call.apply b

def queued : Bool → List Call → List QueuedCode
  | _, [] => []
  | before, call :: rest => call.queued before ++ queued (call.pending before) rest

def encoding (code : List QueuedCode) : List UInt8 := code.flatMap QueuedCode.bytes

/-- The second buffer is what calls have made of the first one. -/
def Wrote (b c : CodeBuffer) : Prop := ∃ calls, c = b.perform calls

variable {b c d : CodeBuffer}

theorem Wrote.refl (b : CodeBuffer) : b.Wrote b := ⟨[], rfl⟩

theorem Wrote.trans (first : b.Wrote c) (second : c.Wrote d) : b.Wrote d := by
  obtain ⟨calls, rfl⟩ := first
  obtain ⟨more, rfl⟩ := second
  exact ⟨calls ++ more, (List.foldl_append ..).symm⟩

theorem wrote_apply (call : Call) (b : CodeBuffer) : b.Wrote (call.apply b) := ⟨[call], rfl⟩

/-! ### What calls leave behind -/

theorem tape_of_queue (flushed : b.queue = []) : b.tape = b.code := by
  rw [tape, queueBytes, flushed, List.flatMap_nil, List.append_nil]

theorem flush_cases (b : CodeBuffer) :
    (flush b = (.ok (), { b with code := b.tape, queue := [] }) ∧
        b.tape.length ≤ max b.size b.capacity) ∨
      ∃ fault, flush b = (.error fault, b) := by
  unfold flush
  split
  · next empty =>
    have none : b.queue = [] := List.isEmpty_iff.mp empty
    left
    rw [tape_of_queue none]
    refine ⟨?_, Nat.le_max_left ..⟩
    rw [← none]
  · split
    · exact .inr ⟨_, rfl⟩
    · dsimp only
      split
      · exact .inr ⟨_, rfl⟩
      · next fits =>
        refine .inl ⟨rfl, ?_⟩
        rw [CodeBuffer.tape, List.length_append]
        exact Nat.le_trans (Nat.not_lt.mp fits) (Nat.le_max_right ..)

theorem eq_of_flush (flushed : flush b = (.ok (), c)) :
    c = { b with code := b.tape, queue := [] } := by
  rcases flush_cases b with ⟨committed, -⟩ | ⟨fault, failed⟩
  · exact (congrArg Prod.snd (flushed.symm.trans committed))
  · cases flushed.symm.trans failed

theorem repeatPending_apply (call : Call) (b : CodeBuffer) :
    (call.apply b).repeatPending = call.pending b.repeatPending := by
  cases call with
  | push | pushRepeat => rfl
  | pushData bytes =>
    simp only [Call.apply, pushData]
    split
    · rfl
    · split <;> rfl
  | flush =>
    rcases flush_cases b with ⟨flushed, -⟩ | ⟨fault, flushed⟩ <;> rw [Call.apply, flushed] <;> rfl

theorem tape_apply (call : Call) (b : CodeBuffer) :
    (call.apply b).tape = b.tape ++ encoding (call.queued b.repeatPending) := by
  cases call with
  | push instruction => simp [Call.apply, Call.queued, encoding, tape_push]
  | pushRepeat => simp [Call.apply, Call.queued, encoding]
  | pushData bytes =>
    rw [Call.apply, tape_pushData, Call.queued]
    cases b.repeatPending <;> cases bytes <;> simp [encoding, QueuedCode.bytes]
  | flush => simp [Call.apply, Call.queued, encoding]

theorem tape_perform (calls : List Call) (b : CodeBuffer) :
    (b.perform calls).tape = b.tape ++ encoding (queued b.repeatPending calls) := by
  induction calls generalizing b with
  | nil => exact (List.append_nil _).symm
  | cons call rest ih =>
    rw [perform, List.foldl_cons, ← perform, ih, tape_apply, repeatPending_apply, queued,
      encoding, encoding, encoding, List.flatMap_append, List.append_assoc]

/-- What calls keep of a buffer. Committed code stays where it is, and a buffer that is not overfull
does not become so. -/
structure Extends (b c : CodeBuffer) : Prop where
  base : c.base = b.base
  capacity : c.capacity = b.capacity
  code : b.code <+: c.code
  fits : b.size ≤ b.capacity → c.size ≤ c.capacity

theorem Extends.refl (b : CodeBuffer) : b.Extends b := ⟨rfl, rfl, List.prefix_rfl, id⟩

theorem Extends.trans (first : b.Extends c) (second : c.Extends d) : b.Extends d where
  base := second.base.trans first.base
  capacity := second.capacity.trans first.capacity
  code := first.code.trans second.code
  fits := second.fits ∘ first.fits

theorem extends_apply (call : Call) (b : CodeBuffer) : b.Extends (call.apply b) := by
  cases call with
  | push | pushRepeat => exact ⟨rfl, rfl, List.prefix_rfl, id⟩
  | pushData bytes =>
    simp only [Call.apply, pushData]
    split
    · exact .refl b
    · split <;> exact ⟨rfl, rfl, List.prefix_rfl, id⟩
  | flush =>
    rcases flush_cases b with ⟨flushed, le⟩ | ⟨fault, flushed⟩ <;> rw [Call.apply, flushed]
    · refine ⟨rfl, rfl, List.prefix_append .., fun fits => ?_⟩
      exact Nat.le_trans le (Nat.max_le.mpr ⟨fits, Nat.le_refl _⟩)
    · exact .refl b

theorem Wrote.extends (wrote : b.Wrote c) : b.Extends c := by
  obtain ⟨calls, rfl⟩ := wrote
  induction calls generalizing b with
  | nil => exact .refl b
  | cons call rest ih => exact (extends_apply call b).trans ih

theorem Wrote.tape_prefix (wrote : b.Wrote c) : b.tape <+: c.tape := by
  obtain ⟨calls, rfl⟩ := wrote
  rw [tape_perform]
  exact List.prefix_append ..

theorem codeBytes_eq {before code : List UInt8} (committed : before ++ code <+: b.code)
    (inside : b.base.raw.toNat + b.size < UInt64.size) :
    b.codeBytes (b.base.add before.length) (b.base.add (before ++ code).length) = some code := by
  have fits : (before ++ code).length ≤ b.size := committed.length_le
  have le : before.length ≤ (before ++ code).length := by simp
  obtain ⟨after, whole⟩ := committed
  rw [codeBytes, Address.offsetFrom_add (by omega), Address.offsetFrom_add (by omega)]
  dsimp only
  rw [if_pos ⟨le, fits⟩, ← whole, List.append_assoc, List.drop_left, List.length_append,
    Nat.add_sub_cancel_left, List.take_left]

theorem wrote_flush (b : CodeBuffer) : b.Wrote (flush b).2 := wrote_apply .flush b

theorem wrote_foldl_push (instructions : List Instruction) (b : CodeBuffer) :
    b.Wrote (instructions.foldl (fun b i => b.push i) b) := by
  induction instructions generalizing b with
  | nil => exact .refl b
  | cons i rest ih => exact (wrote_apply (.push i) b).trans (ih (b.push i))

-- Setting a frame up and taking it down are sequences of instructions.
theorem wrote_pushPrologue (frameSize : UInt32) (b : CodeBuffer) :
    b.Wrote (b.pushPrologue frameSize) := by
  unfold pushPrologue
  split
  · exact ⟨[.push .pushRbp, .push .movRbpRsp], rfl⟩
  · exact ⟨[.push .pushRbp, .push .movRbpRsp, .push (.subRsp (frameImmediate frameSize))], rfl⟩

theorem wrote_pushEpilogue (frameSize : UInt32) (b : CodeBuffer) :
    b.Wrote (b.pushEpilogue frameSize) := by
  unfold pushEpilogue
  split
  · exact ⟨[.push .popRbp, .push .ret], rfl⟩
  · exact ⟨[.push (.addRsp (frameImmediate frameSize)), .push .popRbp, .push .ret], rfl⟩

end CodeBuffer

/-! ### The code of the stubs -/

namespace Stub

open CodeBuffer (Wrote)

theorem respects_queue (instructions : List Instruction) :
    (queue instructions).Respects Wrote := CodeBuffer.wrote_foldl_push instructions

theorem respects_entryPoint : entryPoint.Respects Wrote :=
  Action.Respects.bind Wrote.trans CodeBuffer.wrote_flush fun _ => Wrote.refl

theorem respects_emitBody (stub : Stub) : stub.emitBody.Respects Wrote := by
  have prologue (frameSize : UInt32) :
      (Action.modify (·.pushPrologue frameSize)).Respects Wrote :=
    CodeBuffer.wrote_pushPrologue frameSize
  have epilogue (frameSize : UInt32) :
      (Action.modify (·.pushEpilogue frameSize)).Respects Wrote :=
    CodeBuffer.wrote_pushEpilogue frameSize
  have done (entries : List Address) :
      (pure entries : Action CodeBuffer (List Address)).Respects Wrote := Wrote.refl
  -- The array copies share one body.
  have copies : (emitBody .jbyteArraycopy).Respects Wrote :=
    (prologue 0).bind .trans fun _ => respects_entryPoint.bind .trans fun entry =>
      (respects_queue _).bind .trans fun _ => (epilogue 0).bind .trans fun _ => done [entry]
  cases stub with
  | callStub =>
    exact (prologue 16).bind .trans fun _ => (respects_queue _).bind .trans fun _ =>
      respects_entryPoint.bind .trans fun entry => (respects_queue _).bind .trans fun _ =>
        (epilogue 16).bind .trans fun _ => done [entry]
  | getPreviousSp | fence | verifyMxcsr =>
    exact (respects_queue _).bind .trans fun _ => done []
  | jbyteArraycopy | jintArraycopy | jlongArraycopy => exact copies
  | _ =>
    exact (prologue 0).bind .trans fun _ => (respects_queue _).bind .trans fun _ =>
      (epilogue 0).bind .trans fun _ => done []

end Stub

end RuntimeStubs
