import RuntimeStubs.Proofs.Code.Calls

/-! A code buffer as a tape that is only ever extended.

Whoever fills a buffer queues whole instructions, with the repeat byte of an instruction in front of
it, or raw bytes, or the instructions of a frame, and flushes now and then. An instruction has one
encoding, wherever it comes to lie. Main statement (`tape_faithful`): the committed code and the
encoding of the queue together are the encoding of all that has been queued, however the flushes
were placed, and the length of that tape alone decides whether a flush succeeds. -/

set_option autoImplicit false

namespace RuntimeStubs.CodeBuffer

inductive Step where
  | queue (code : QueuedCode)
  | prologue (frameSize : UInt32)
  | epilogue (frameSize : UInt32)
  | flush
  deriving DecidableEq, Repr

namespace Step

def run : Step → Action CodeBuffer Unit
  | queue (.instruction false instruction) => Action.modify (push instruction)
  | queue (.instruction true instruction) => do
    Action.modify pushRepeat
    Action.modify (push instruction)
  | queue (.data bytes) => pushData bytes
  | prologue frameSize => Action.modify (pushPrologue frameSize)
  | epilogue frameSize => Action.modify (pushEpilogue frameSize)
  | flush => CodeBuffer.flush

def code : Step → List QueuedCode
  | queue code => [code]
  | prologue frameSize =>
    [.instruction false .pushRbp, .instruction false .movRbpRsp] ++
      if frameSize = 0 then [] else [.instruction false (.subRsp (frameImmediate frameSize))]
  | epilogue frameSize =>
    (if frameSize = 0 then [] else [.instruction false (.addRsp (frameImmediate frameSize))]) ++
      [.instruction false .popRbp, .instruction false .ret]
  | flush => []

def calls : Step → List Call
  | queue (.instruction false instruction) => [.push instruction]
  | queue (.instruction true instruction) => [.pushRepeat, .push instruction]
  | queue (.data bytes) => [.pushData bytes]
  | prologue frameSize =>
    [.push .pushRbp, .push .movRbpRsp] ++
      if frameSize = 0 then [] else [.push (.subRsp (frameImmediate frameSize))]
  | epilogue frameSize =>
    (if frameSize = 0 then [] else [.push (.addRsp (frameImmediate frameSize))]) ++
      [.push .popRbp, .push .ret]
  | flush => [.flush]

end Step

def after (steps : List Step) (b : CodeBuffer) : CodeBuffer :=
  steps.foldl (fun b step => (step.run b).2) b

variable {b : CodeBuffer}

/-! ### One step -/

theorem run_snd (step : Step) (b : CodeBuffer) : (step.run b).2 = b.perform step.calls := by
  cases step with
  | queue code =>
    cases code with
    | instruction repeated instruction => cases repeated <;> rfl
    | data bytes => rfl
  | prologue frameSize =>
    simp only [Step.run, Step.calls, Action.modify_apply, pushPrologue]
    split <;> rfl
  | epilogue frameSize =>
    simp only [Step.run, Step.calls, Action.modify_apply, pushEpilogue]
    split <;> rfl
  | flush => rfl

theorem repeatPending_perform (calls : List Call) (b : CodeBuffer) :
    (b.perform calls).repeatPending = calls.foldl Call.pending b.repeatPending := by
  induction calls generalizing b with
  | nil => rfl
  | cons call rest ih =>
    rw [perform, List.foldl_cons, ← perform, ih, repeatPending_apply, List.foldl_cons]

-- A step leaves no repeat byte waiting for a later one, and it queues what it is for.
theorem pending_calls (step : Step) : step.calls.foldl Call.pending false = false := by
  cases step with
  | queue code =>
    cases code with
    | instruction repeated instruction => cases repeated <;> rfl
    | data bytes => rfl
  | prologue frameSize | epilogue frameSize =>
    simp only [Step.calls]
    split <;> rfl
  | flush => rfl

theorem encoding_calls (step : Step) :
    encoding (queued false step.calls) = encoding step.code := by
  cases step with
  | queue code =>
    cases code with
    | instruction repeated instruction => cases repeated <;> rfl
    | data bytes => cases bytes <;> rfl
  | prologue frameSize | epilogue frameSize =>
    simp only [Step.calls, Step.code]
    split <;> rfl
  | flush => rfl

theorem repeatPending_run (whole : b.repeatPending = false) (step : Step) :
    (step.run b).2.repeatPending = false := by
  rw [run_snd, repeatPending_perform, whole, pending_calls]

theorem tape_run (whole : b.repeatPending = false) (step : Step) :
    (step.run b).2.tape = b.tape ++ encoding step.code := by
  rw [run_snd, tape_perform, whole, encoding_calls]

theorem run_eq_ok (whole : b.repeatPending = false) {step : Step} (queues : step ≠ .flush) :
    (step.run b).1 = .ok () := by
  cases step with
  | queue code =>
    cases code with
    | instruction repeated instruction => cases repeated <;> rfl
    | data bytes => cases bytes <;> simp [Step.run, pushData, whole]
  | prologue | epilogue => rfl
  | flush => exact absurd rfl queues

-- The queue of a buffer that is not overfull is empty or makes the tape longer than the code, so
-- the length of the tape says whether there is room.
theorem flush_of_whole (whole : b.repeatPending = false) (fits : b.size ≤ b.capacity) :
    flush b =
      if b.tape.length ≤ b.capacity then (.ok (), { b with code := b.tape, queue := [] })
      else (.error (.bufferOverflow b.tape.length b.capacity), b) := by
  have length : b.tape.length = b.size + b.queueBytes.length := List.length_append
  unfold flush
  split
  · next empty =>
    have none : b.queue = [] := List.isEmpty_iff.mp empty
    have committed := tape_of_queue none
    rw [if_pos (committed ▸ fits), committed, ← none]
  · rw [if_neg (by simp [whole]), ← length]
    by_cases room : b.tape.length ≤ b.capacity
    · rw [if_neg (Nat.not_lt.mpr room), if_pos room]
      rfl
    · rw [if_pos (Nat.not_le.mp room), if_neg room]

/-! ### Sequences of steps -/

theorem wrote_after (steps : List Step) (b : CodeBuffer) : b.Wrote (b.after steps) := by
  induction steps generalizing b with
  | nil => exact .refl b
  | cons step rest ih => exact Wrote.trans ⟨_, run_snd step b⟩ (ih _)

theorem tape_after (whole : b.repeatPending = false) (steps : List Step) :
    (b.after steps).repeatPending = false ∧
      (b.after steps).tape = b.tape ++ encoding (steps.flatMap Step.code) := by
  induction steps generalizing b with
  | nil => exact ⟨whole, (List.append_nil _).symm⟩
  | cons step rest ih =>
    obtain ⟨wholeAfter, tape⟩ := ih (repeatPending_run whole step)
    refine ⟨wholeAfter, tape.trans ?_⟩
    rw [tape_run whole, List.flatMap_cons, encoding, encoding, encoding, List.flatMap_append,
      List.append_assoc]

/-- A buffer in use: no repeat byte waits between two steps, and the code fits. -/
structure Orderly (b : CodeBuffer) : Prop where
  whole : b.repeatPending = false
  fits : b.size ≤ b.capacity

theorem Orderly.after (orderly : b.Orderly) (steps : List Step) : (b.after steps).Orderly where
  whole := (tape_after orderly.whole steps).1
  fits := (wrote_after steps b).extends.fits orderly.fits

theorem Orderly.flush (orderly : b.Orderly) :
    CodeBuffer.flush b =
      if b.tape.length ≤ b.capacity then (.ok (), { b with code := b.tape, queue := [] })
      else (.error (.bufferOverflow b.tape.length b.capacity), b) :=
  flush_of_whole orderly.whole orderly.fits

-- The tape only grows, so that a tape which is too long stays so.
theorem Orderly.flush_later (orderly : b.Orderly) (failed : (CodeBuffer.flush b).1 ≠ .ok ())
    (later : List Step) :
    b.tape.length ≤ (b.after later).tape.length ∧ CodeBuffer.flush (b.after later) =
      (.error (.bufferOverflow (b.after later).tape.length b.capacity), b.after later) := by
  have wrote : b.Wrote (b.after later) := wrote_after later b
  have grown : b.tape.length ≤ (b.after later).tape.length := wrote.tape_prefix.length_le
  have capacity : (b.after later).capacity = b.capacity := wrote.extends.capacity
  have long : ¬ b.tape.length ≤ b.capacity := by
    intro room
    rw [orderly.flush, if_pos room] at failed
    exact failed rfl
  refine ⟨grown, ?_⟩
  rw [(orderly.after later).flush, if_neg (by omega), capacity]

/-- Code and queue of a buffer are the tape of all that has been queued. A flush commits the whole
tape or, if it is too long, nothing; once that has happened it happens always. -/
theorem tape_faithful (base : Address) (capacity : Nat) (steps : List Step) :
    let b := (create base capacity).after steps
    let required := b.size + (encoding b.queue).length
    b.code ++ encoding b.queue = encoding (steps.flatMap Step.code) ∧
      (b.size ≤ capacity ∧ b.remaining + b.size = capacity ∧
        b.pc.raw.toNat = (base.raw.toNat + b.size) % UInt64.size) ∧
      (∀ step : Step, step ≠ .flush → (step.run b).1 = .ok ()) ∧
      ((flush b).1 = .ok () ↔ required ≤ capacity ∨ b.queue = []) ∧
      ((flush b).1 = .ok () →
        (flush b).2 = { b with code := encoding (steps.flatMap Step.code), queue := [] }) ∧
      ((flush b).1 ≠ .ok () → flush b = (.error (.bufferOverflow required capacity), b)) ∧
      ∀ later, b.code <+: (b.after later).code ∧
        ((flush b).1 ≠ .ok () → ∃ more, required ≤ more ∧
          flush (b.after later) = (.error (.bufferOverflow more capacity), b.after later)) := by
  intro b required
  have fresh : (create base capacity).Orderly := ⟨rfl, Nat.zero_le _⟩
  have orderly : b.Orderly := fresh.after steps
  have kept : (create base capacity).Extends b := (wrote_after steps _).extends
  have isBase : b.base = base := kept.base
  have isCapacity : b.capacity = capacity := kept.capacity
  have fits : b.size ≤ capacity := isCapacity ▸ orderly.fits
  have tape : b.tape = encoding (steps.flatMap Step.code) := (tape_after rfl steps).2
  have length : b.tape.length = required := List.length_append
  have flushed := orderly.flush
  rw [length, isCapacity] at flushed
  refine ⟨tape, ⟨fits, ?_, ?_⟩, fun step queues => run_eq_ok orderly.whole queues, ?_, ?_, ?_, ?_⟩
  · rw [remaining, isCapacity, Nat.sub_add_cancel fits]
  · rw [pc, Address.toNat_add, isBase]
  · rw [flushed]
    by_cases room : required ≤ capacity
    · simp [room]
    · have queued : b.queue ≠ [] := by
        intro empty
        rw [tape_of_queue empty] at length
        exact room (length ▸ fits)
      simp [room, queued]
  · rw [flushed, ← tape]
    split
    · intro _
      rw [isCapacity]
    · intro impossible
      cases impossible
  · rw [flushed]
    split
    · intro impossible
      exact absurd rfl impossible
    · intro _
      rfl
  · intro later
    refine ⟨(wrote_after later b).extends.code, fun failed => ?_⟩
    obtain ⟨grown, again⟩ := orderly.flush_later failed later
    rw [length] at grown
    rw [isCapacity] at again
    exact ⟨_, grown, again⟩

/-- Three bytes fit and are flushed; with the frame behind them the buffer of eight is too small. -/
def cramped : List Step :=
  [.queue (.instruction false .movRaxRcx), .flush, .prologue 16, .flush,
    .queue (.instruction true .movEaxRsp)]

theorem tape_faithful_cramped :
    let b := (create ⟨0xfffffffffffffffe⟩ 8).after cramped
    (flush b).1 ≠ .ok () ∧ flush b = (.error (.bufferOverflow 15 8), b) ∧
      b.code ++ encoding b.queue =
        [0x48, 0x89, 0xc8, 0x55, 0x48, 0x89, 0xe5, 0x48, 0x83, 0xec, 0x10, 0xf3, 0x8b, 0x04, 0x24] ∧
      b.remaining = 5 ∧ b.pc = ⟨1⟩ := by
  intro b
  have failed : (flush b).1 ≠ .ok () := by decide
  obtain ⟨tape, -, -, -, -, refused, -⟩ := tape_faithful ⟨0xfffffffffffffffe⟩ 8 cramped
  exact ⟨failed, refused failed, tape, by decide, by decide⟩

end RuntimeStubs.CodeBuffer
