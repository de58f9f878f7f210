import RuntimeStubs.Proofs.Code.Disassembly

/-! Frames that are set up and taken down again.

The size of a frame has 32 bits without a sign, and the immediates of the two instructions that move
the stack pointer have 32 bits with one, which the processor extends. Main statement
(`frame_reserved_iff`): both immediates are the size of the frame exactly if it has no more than 31
bits. A larger one comes back as a negative number (`frame_wrapped`). -/

set_option autoImplicit false

namespace RuntimeStubs

namespace Instruction

-- The sign is bit 31 of the size, so that extending it sets all bits above.
theorem toNat_extended_frameImmediate (frameSize : UInt32) :
    (extended (CodeBuffer.frameImmediate frameSize)).toNat =
      if frameSize.toNat < 0x80000000 then frameSize.toNat
      else frameSize.toNat + 0xffffffff00000000 := by
  have signed : (CodeBuffer.frameImmediate frameSize).toInt =
      Int.bmod frameSize.toNat 0x100000000 := toInt_eq_bmod _
  have extended := toNat_extended (CodeBuffer.frameImmediate frameSize)
  have bound : frameSize.toNat < 0x100000000 := frameSize.toNat_lt
  rw [signed, Int.bmod_def] at extended
  split <;> omega

end Instruction

namespace Listing

theorem disassemble_assembled_ok {instructions : List Instruction} {start : Address}
    (inside : start.raw.toNat + (instructions.flatMap Instruction.bytes).length ≤ UInt64.size) :
    ∃ lines, disassemble (instructions.flatMap Instruction.bytes) start = .ok lines ∧
      lines.map (fun line => String.ofList (columns line.toText).text) =
        instructions.map Instruction.toText := by
  obtain ⟨lines, listed⟩ := disassemble_ok inside
  have same : lines.map ListingLine.piece = instructions.map assembled := by
    rw [disassemble_assembled] at listed
    exact (place_eq_ok listed).1
  have shown : ∀ line ∈ lines, String.ofList (columns line.toText).text = line.piece.text := by
    intro line member
    have assembled : line.piece ∈ instructions.map assembled := same ▸ List.mem_map_of_mem member
    obtain ⟨i, -, isPiece⟩ := List.mem_map.mp assembled
    have narrow : line.piece.bytes.length ≤ 10 := by
      rw [← isPiece]
      exact Nat.le_trans i.encodes_bytes.length_le (by decide)
    rw [columns_toText narrow, String.ofList_toList]
  refine ⟨lines, listed, ?_⟩
  calc lines.map (fun line => String.ofList (columns line.toText).text)
    _ = lines.map (fun line => line.piece.text) := List.map_congr_left shown
    _ = (lines.map ListingLine.piece).map CodePiece.text := by rw [List.map_map]; rfl
    _ = instructions.map Instruction.toText := by rw [same, List.map_map]; rfl

end Listing

namespace CodeBuffer

open Instruction (extended immediate? immediateText)
open Listing (assembled columns)

def frame (frameSize : UInt32) : List Instruction :=
  [.pushRbp, .movRbpRsp] ++
    (if frameSize = 0 then []
    else [.subRsp (frameImmediate frameSize), .addRsp (frameImmediate frameSize)]) ++
    [.popRbp, .ret]

def frameText (frameSize : UInt32) (shown : String) : List String :=
  ["push    rbp", "mov     rbp,rsp"] ++
    (if frameSize = 0 then [] else ["sub     rsp," ++ shown, "add     rsp," ++ shown]) ++
    ["pop     rbp", "ret"]

theorem code_framed (frameSize : UInt32) :
    [Step.prologue frameSize, .epilogue frameSize].flatMap Step.code =
      (frame frameSize).map (.instruction false) := by
  simp only [List.flatMap_cons, List.flatMap_nil, Step.code, frame]
  split <;> rfl

theorem map_toText_frame (frameSize : UInt32) :
    (frame frameSize).map Instruction.toText =
      frameText frameSize (immediateText (extended (frameImmediate frameSize)).toNat) := by
  unfold frame frameText
  split
  · rfl
  · rfl

/-- What is assembled for a frame is read back as its instructions, of which two move the stack
pointer, down and up again, unless the frame is empty. Both immediates, extended to 64 bits with
their sign, are the size of the frame exactly if the size has no more than 31 bits, and so they are
shown. -/
theorem frame_reserved_iff {b : CodeBuffer} (orderly : b.Orderly) (frameSize : UInt32)
    (fits : b.tape.length + ((frame frameSize).flatMap Instruction.bytes).length ≤ b.capacity) :
    ((extended (frameImmediate frameSize)).toNat = frameSize.toNat ↔
      frameSize.toNat < 0x80000000) ∧
    (0x80000000 ≤ frameSize.toNat →
      (extended (frameImmediate frameSize)).toNat = frameSize.toNat + 0xffffffff00000000) ∧
    ∃ c, flush (b.after [.prologue frameSize, .epilogue frameSize]) = (.ok (), c) ∧
      c.code = b.tape ++ (frame frameSize).flatMap Instruction.bytes ∧
      Listing.split (c.code.drop b.tape.length) = (frame frameSize).map assembled ∧
      ∀ start : Address,
        start.raw.toNat + ((frame frameSize).flatMap Instruction.bytes).length ≤ UInt64.size →
        ∃ lines shown, disassemble (c.code.drop b.tape.length) start = .ok lines ∧
          lines.map (fun line => String.ofList (columns line.toText).text) =
            frameText frameSize shown ∧
          immediate? shown.toList = some (extended (frameImmediate frameSize)).toNat := by
  have immediate := Instruction.toNat_extended_frameImmediate frameSize
  have bound : (extended (frameImmediate frameSize)).toNat < 16 ^ 16 :=
    (extended (frameImmediate frameSize)).toNat_lt
  obtain ⟨c, flushed, code⟩ := orderly.flush_appended (code_framed frameSize) fits
  have appended : c.code.drop b.tape.length = (frame frameSize).flatMap Instruction.bytes := by
    rw [code, List.drop_left]
  refine ⟨?_, fun large => ?_, c, flushed, code, ?_, fun start inside => ?_⟩
  · rw [immediate]
    split <;> omega
  · rw [immediate, if_neg (Nat.not_lt.mpr large)]
  · rw [appended, Listing.split_assembled]
  · obtain ⟨lines, listed, shown⟩ := Listing.disassemble_assembled_ok inside
    rw [map_toText_frame] at shown
    exact ⟨lines, _, by rw [appended, listed], shown, Instruction.immediate?_immediateText bound⟩

theorem frame_reserved_iff_largest :
    let b := (create ⟨0x1000⟩ 23).after [.queue (.instruction false .movRaxRcx)]
    (b.Orderly ∧
      b.tape.length + ((frame 0x7fffffff).flatMap Instruction.bytes).length = b.capacity) ∧
    (extended (frameImmediate 0x7fffffff)).toNat = 0x7fffffff ∧
    ∃ c lines, flush (b.after [.prologue 0x7fffffff, .epilogue 0x7fffffff]) = (.ok (), c) ∧
      disassemble (c.code.drop 3) ⟨0x1003⟩ = .ok lines ∧ lines.length = 6 := by
  intro b
  have orderly : b.Orderly := Orderly.after ⟨rfl, Nat.zero_le _⟩ _
  have full : b.tape.length + ((frame 0x7fffffff).flatMap Instruction.bytes).length = b.capacity :=
    by decide
  obtain ⟨reserved, -, c, flushed, -, -, listed⟩ :=
    frame_reserved_iff orderly 0x7fffffff (Nat.le_of_eq full)
  obtain ⟨lines, shown, isListing, texts, -⟩ := listed ⟨0x1003⟩ (by decide)
  refine ⟨⟨orderly, full⟩, reserved.mpr (by decide), c, lines, flushed, isListing, ?_⟩
  have length := congrArg List.length texts
  rwa [List.length_map] at length

/-- The smallest frame that is not: its immediate comes back as a negative number, and the frame is
set up by moving the stack pointer up. -/
theorem frame_wrapped :
    ∃ c lines,
      flush ((create ⟨0x1000⟩ 64).after [.prologue 0x80000000, .epilogue 0x80000000]) =
        (.ok (), c) ∧
      disassemble c.code ⟨0x1000⟩ = .ok lines ∧
      lines.map (fun line => line.piece.text) =
        ["push    rbp", "mov     rbp,rsp", "sub     rsp,0FFFFFFFF80000000h",
          "add     rsp,0FFFFFFFF80000000h", "pop     rbp", "ret"] ∧
      (extended (frameImmediate 0x80000000)).toNat ≠ (0x80000000 : UInt32).toNat :=
  ⟨_, _, rfl, rfl, by decide, by decide⟩

end CodeBuffer

end RuntimeStubs
