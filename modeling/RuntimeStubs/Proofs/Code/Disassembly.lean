import RuntimeStubs.Proofs.Code.Columns
import RuntimeStubs.Proofs.Code.Decoding
import RuntimeStubs.Proofs.Code.Tape
import RuntimeStubs.Proofs.Log.Loudness

/-! Listings cover the code, and what is assembled is listed as it was.

`Listing.scan` reads code as a processor with an address counter does: the counter wraps around at
the end of the address space, and the bytes of a line are cut out by the distance of two addresses.
It comes to the same as `disassemble` (`scan_eq`). Main statements: code of whole encodings, the
last of which may have been cut off, is listed without loss, unless one of them would start behind
the address space (`disassemble_covers`); and the code that a buffer commits for a list of
instructions is listed as these instructions (`disassemble_flushed`). -/

set_option autoImplicit false

namespace RuntimeStubs

/-- The piece is an instruction in one of its encodings. -/
def CodePiece.Whole (piece : CodePiece) : Prop :=
  ∃ i, piece.instruction = some i ∧ i.Encodes piece.bytes

namespace Listing

open Instruction (Truncated)

/-- The piece that is left over where code stops short. -/
def remainder : List UInt8 → List CodePiece
  | [] => []
  | rest => [⟨rest, none⟩]

def extent (pieces : List CodePiece) : Nat := (pieces.flatMap CodePiece.bytes).length

theorem extent_cons (piece : CodePiece) (rest : List CodePiece) :
    extent (piece :: rest) = piece.bytes.length + extent rest := by
  rw [extent, List.flatMap_cons, List.length_append, extent]

/-- The next instruction and its length. Where none can be read all that is left counts as one. -/
def next (code : List UInt8) : Option Instruction × Nat :=
  match Instruction.decode? code with
  | some (i, length) => (some i, length)
  | none => (none, code.length)

def scan (code : List UInt8) (start : Address) :
    Nat → Nat → UInt64 → Except Abort (List ListingLine)
  | 0, _, _ => .ok []
  | limit + 1, position, counter =>
    if code.length ≤ position then .ok []
    else
      let (instruction, length) := next (code.drop position)
      if counter < start.raw then .error .subtraction
      else
        let first := (counter - start.raw).toNat
        if code.length < first + length then .error .outOfBounds
        else
          match scan code start limit (position + length) (counter + UInt64.ofNat length) with
          | .ok lines => .ok (⟨⟨counter⟩, ⟨(code.drop first).take length, instruction⟩⟩ :: lines)
          | .error cause => .error cause

variable {code rest : List UInt8} {start : Address} {pieces whole : List CodePiece}
  {lines : List ListingLine} {offset : Nat} {cause : Abort}

/-! ### Pieces of code -/

theorem next_le (code : List UInt8) : (next code).2 ≤ code.length := by
  unfold next
  split
  · next i length read =>
    obtain ⟨bytes, rest, rfl, rfl, -⟩ := Instruction.encodes_of_decode? read
    simp
  · exact Nat.le_refl _

theorem next_append {i : Instruction} {bytes : List UInt8} (encodes : i.Encodes bytes)
    (rest : List UInt8) : next (bytes ++ rest) = (some i, bytes.length) := by
  rw [next, Instruction.decode?_append encodes rest]

theorem next_of_truncated (cut : Truncated code) : next code = (none, code.length) := by
  rw [next, Instruction.decode?_of_truncated cut]

theorem pieces_nil (limit : Nat) : Listing.pieces limit [] = [] := by
  cases limit <;> rfl

theorem pieces_succ (nonempty : code ≠ []) (limit : Nat) :
    Listing.pieces (limit + 1) code =
      ⟨code.take (next code).2, (next code).1⟩ :: Listing.pieces limit (code.drop (next code).2) := by
  cases code with
  | nil => exact absurd rfl nonempty
  | cons byte rest =>
    rw [Listing.pieces, next]
    cases Instruction.decode? (byte :: rest) with
    | some read => rfl
    | none => simp [pieces_nil]

theorem pieces_append (encoded : ∀ piece ∈ whole, piece.Whole) (cut : rest = [] ∨ Truncated rest)
    {limit : Nat} (enough : (whole.flatMap CodePiece.bytes ++ rest).length ≤ limit) :
    Listing.pieces limit (whole.flatMap CodePiece.bytes ++ rest) = whole ++ remainder rest := by
  induction whole generalizing limit with
  | nil =>
    rw [List.flatMap_nil, List.nil_append] at enough ⊢
    rcases cut with rfl | cut
    · exact pieces_nil limit
    · obtain ⟨byte, others, rfl⟩ := List.exists_cons_of_ne_nil cut.1
      obtain ⟨limit, rfl⟩ := Nat.exists_eq_add_of_le' (Nat.le_trans (Nat.succ_pos _) enough)
      rw [pieces_succ cut.1, next_of_truncated cut, List.take_length,
        List.drop_length, pieces_nil]
      rfl
  | cons piece whole ih =>
    obtain ⟨⟨i, isInstruction, encodes⟩, others⟩ := List.forall_mem_cons.mp encoded
    have positive := encodes.length_pos
    rw [List.flatMap_cons, List.append_assoc] at enough ⊢
    rw [List.length_append] at enough
    obtain ⟨limit, rfl⟩ := Nat.exists_eq_add_of_le' (show 1 ≤ limit by omega)
    have nonempty : piece.bytes ++ (whole.flatMap CodePiece.bytes ++ rest) ≠ [] :=
      List.append_ne_nil_of_left_ne_nil (List.ne_nil_of_length_pos positive) _
    rw [pieces_succ nonempty, next_append encodes, List.take_left, List.drop_left,
      ih others (by omega), ← isInstruction, List.cons_append]

theorem split_append (encoded : ∀ piece ∈ whole, piece.Whole)
    (cut : rest = [] ∨ Truncated rest) :
    split (whole.flatMap CodePiece.bytes ++ rest) = whole ++ remainder rest :=
  pieces_append encoded cut (Nat.le_refl _)

/-! ### Addresses -/

-- A listing is refused for the first piece behind the address space, whichever it is.
theorem place_eq_error_iff :
    place start offset pieces = .error cause ↔ cause = .subtraction ∧
      ∃ before piece after, pieces = before ++ piece :: after ∧
        UInt64.size ≤ start.raw.toNat + (offset + extent before) := by
  induction pieces generalizing offset with
  | nil => simp [place]
  | cons first others ih =>
    rw [place]
    split
    · next inside =>
      have behind : place start (offset + first.bytes.length) others = .error cause ↔
          cause = .subtraction ∧ ∃ before piece after,
            first :: others = before ++ piece :: after ∧
              UInt64.size ≤ start.raw.toNat + (offset + extent before) := by
        rw [ih]
        refine and_congr_right fun _ => ⟨?_, ?_⟩
        · rintro ⟨before, piece, after, rfl, outside⟩
          refine ⟨first :: before, piece, after, rfl, ?_⟩
          rw [extent_cons]
          omega
        · rintro ⟨_ | ⟨head, before⟩, piece, after, same, outside⟩
          · simp only [extent, List.flatMap_nil, List.length_nil] at outside
            omega
          · obtain ⟨rfl, rfl⟩ := List.cons.inj same
            rw [extent_cons] at outside
            exact ⟨before, piece, after, rfl, by omega⟩
      rw [← behind]
      cases place start (offset + first.bytes.length) others <;> simp
    · next outside =>
      refine ⟨fun failed => ?_, fun failed => by rw [failed.1]⟩
      cases failed
      refine ⟨rfl, [], first, others, rfl, ?_⟩
      exact Nat.le_trans (Nat.le_of_not_lt outside) (by simp)

theorem place_eq_ok (placed : place start offset pieces = .ok lines) :
    lines.map ListingLine.piece = pieces ∧ ∀ before line after, lines = before ++ line :: after →
      let behind := offset + extent (before.map ListingLine.piece)
      start.raw.toNat + behind < UInt64.size ∧ line.address = start.add behind := by
  induction pieces generalizing offset lines with
  | nil =>
    cases placed
    simp
  | cons first others ih =>
    rw [place] at placed
    split at placed
    · next inside =>
      cases rest : place start (offset + first.bytes.length) others with
      | error cause => simp [rest] at placed
      | ok more =>
        simp only [rest, Except.ok.injEq] at placed
        subst placed
        obtain ⟨same, addresses⟩ := ih rest
        refine ⟨by rw [List.map_cons, same], ?_⟩
        rintro (_ | ⟨head, before⟩) line after split
        · obtain ⟨rfl, -⟩ := List.cons.inj split
          exact ⟨inside, rfl⟩
        · obtain ⟨rfl, rfl⟩ := List.cons.inj split
          rw [List.map_cons, extent_cons, ← Nat.add_assoc]
          exact addresses before line after rfl
    · cases placed

/-! ### The address counter -/

theorem scan_end (start : Address) (limit : Nat) (counter : UInt64) {position : Nat}
    (atEnd : code.length ≤ position) : scan code start limit position counter = .ok [] := by
  cases limit with
  | zero => rfl
  | succ limit => rw [scan, if_pos atEnd]

-- As long as the counter has not wrapped around, its distance from the start is the position.
theorem counter_inside {position : Nat} (inside : start.raw.toNat + position < UInt64.size) :
    ¬ start.raw + UInt64.ofNat position < start.raw ∧
      (start.raw + UInt64.ofNat position - start.raw).toNat = position := by
  have counter : (start.raw + UInt64.ofNat position).toNat = start.raw.toNat + position :=
    Address.toNat_add_of_lt inside
  have le : start.raw ≤ start.raw + UInt64.ofNat position := by
    rw [UInt64.le_iff_toNat_le, counter]
    exact Nat.le_add_right ..
  refine ⟨UInt64.not_lt.mpr le, ?_⟩
  rw [UInt64.toNat_sub_of_le _ _ le, counter, Nat.add_sub_cancel_left]

-- Once it has, it stays below the start, since no code is as long as the address space.
theorem counter_outside {position : Nat} (outside : UInt64.size ≤ start.raw.toNat + position)
    (addressable : position < UInt64.size) :
    start.raw + UInt64.ofNat position < start.raw := by
  have counter : (start.raw + UInt64.ofNat position).toNat =
      (start.raw.toNat + position) % UInt64.size := Address.toNat_add start position
  have bound : start.raw.toNat < UInt64.size := start.raw.toNat_lt
  rw [UInt64.lt_iff_toNat_lt, counter, Nat.mod_eq_sub_mod outside, Nat.mod_eq_of_lt (by omega)]
  omega

theorem scan_eq_place (addressable : code.length < UInt64.size) (limit : Nat) {position : Nat}
    (within : position ≤ code.length) :
    scan code start limit position (start.raw + UInt64.ofNat position) =
      place start position (Listing.pieces limit (code.drop position)) := by
  induction limit generalizing position with
  | zero => rfl
  | succ limit ih =>
    by_cases atEnd : code.length ≤ position
    · rw [scan_end start _ _ atEnd, List.drop_eq_nil_of_le atEnd, pieces_nil]
      rfl
    · have left : code.drop position ≠ [] := by simpa using atEnd
      have le := next_le (code.drop position)
      rw [scan, if_neg atEnd, pieces_succ left, place]
      generalize next (code.drop position) = read at le
      obtain ⟨instruction, length⟩ := read
      dsimp only at le ⊢
      have fits : position + length ≤ code.length := by
        rw [List.length_drop] at le
        omega
      by_cases inside : start.raw.toNat + position < UInt64.size
      · obtain ⟨above, distance⟩ := counter_inside inside
        rw [if_neg above, if_pos inside, distance, if_neg (Nat.not_lt.mpr fits),
          List.length_take_of_le le, List.drop_drop, ← ih fits, UInt64.ofNat_add, UInt64.add_assoc]
        rfl
      · rw [if_pos (counter_outside (Nat.le_of_not_lt inside) (by omega)), if_neg inside]

theorem scan_eq (addressable : code.length < UInt64.size) (start : Address) :
    scan code start code.length 0 start.raw = disassemble code start := by
  have atStart : start.raw + UInt64.ofNat 0 = start.raw := UInt64.add_zero _
  have scanned : scan code start code.length 0 (start.raw + UInt64.ofNat 0) = _ :=
    scan_eq_place addressable code.length (Nat.zero_le _)
  rwa [List.drop_zero, atStart] at scanned

/-! ### Listings -/

theorem remainder_of_ne_nil (nonempty : rest ≠ []) : remainder rest = [⟨rest, none⟩] := by
  cases rest with
  | nil => exact absurd rfl nonempty
  | cons => rfl

theorem length_bytes_le (encoded : ∀ piece ∈ whole, piece.Whole) (cut : rest = [] ∨ Truncated rest)
    {piece : CodePiece} (member : piece ∈ whole ++ remainder rest) : piece.bytes.length ≤ 7 := by
  rcases List.mem_append.mp member with isWhole | isLast
  · obtain ⟨i, -, encodes⟩ := encoded piece isWhole
    exact encodes.length_le
  · rcases cut with rfl | cut
    · cases isLast
    · rw [remainder_of_ne_nil cut.1] at isLast
      rw [List.mem_singleton.mp isLast]
      exact cut.length_le

theorem text_ne_bad {piece : CodePiece} (isWhole : piece.Whole) : piece.text ≠ "(bad)" := by
  obtain ⟨i, isInstruction, -⟩ := isWhole
  rw [CodePiece.text, isInstruction]
  exact i.toText_ne_bad

theorem whole_or_last {before after : List CodePiece} {piece : CodePiece}
    (split : before ++ piece :: after = whole ++ remainder rest) :
    piece ∈ whole ∧ ¬ (after = [] ∧ rest ≠ []) ∨
      (after = [] ∧ rest ≠ []) ∧ piece = ⟨rest, none⟩ := by
  by_cases nothing : rest = []
  · subst nothing
    rw [remainder, List.append_nil] at split
    exact .inl ⟨split ▸ List.mem_append_cons_self, by simp⟩
  · rw [remainder_of_ne_nil nothing] at split
    rcases List.append_eq_append_iff.mp split with ⟨_ | ⟨head, middle⟩, isWhole, same⟩ |
      ⟨middle, -, same⟩
    · cases same
      exact .inr ⟨⟨rfl, nothing⟩, rfl⟩
    · obtain ⟨rfl, rfl⟩ := List.cons.inj same
      exact .inl ⟨isWhole ▸ List.mem_append_cons_self, by simp⟩
    · cases middle with
      | nil =>
        cases same
        exact .inr ⟨⟨rfl, nothing⟩, rfl⟩
      | cons => simp at same

/-- Of code that consists of encodings, up to a last one that may have been cut off, every byte is
listed once, behind its address. The listing aborts exactly if an encoding starts behind the end of
the address space. -/
theorem disassemble_covers (encoded : ∀ piece ∈ whole, piece.Whole)
    (cut : rest = [] ∨ Truncated rest) (start : Address) :
    let code := whole.flatMap CodePiece.bytes ++ rest
    let pieces := whole ++ remainder rest
    (code.length < UInt64.size →
      scan code start code.length 0 start.raw = disassemble code start) ∧
    ((∃ cause, disassemble code start = .error cause) ↔
      ∃ before piece after, pieces = before ++ piece :: after ∧
        UInt64.size ≤ start.raw.toNat + extent before) ∧
    ∀ lines, disassemble code start = .ok lines →
      lines.map ListingLine.piece = pieces ∧
      (lines.flatMap fun line => (columns line.toText).digits) = Hex.ofBytes code ∧
      ∀ before line after, lines = before ++ line :: after →
        line.address.raw.toNat = start.raw.toNat + extent (before.map ListingLine.piece) ∧
        columns line.toText = ⟨line.address.toText.toList, Hex.ofBytes line.piece.bytes,
          line.piece.text.toList⟩ ∧
        (line.piece.text = "(bad)" ↔ after = [] ∧ rest ≠ []) ∧
        (line.piece.text = "(bad)" → line.piece.bytes = rest) := by
  intro code pieces
  have isSplit : split code = pieces := split_append encoded cut
  refine ⟨fun addressable => scan_eq addressable start, ?_, fun lines listed => ?_⟩
  · simp only [disassemble, isSplit, place_eq_error_iff, Nat.zero_add, exists_eq_left]
  rw [disassemble, isSplit] at listed
  obtain ⟨same, addresses⟩ := place_eq_ok listed
  have shown : ∀ line ∈ lines, columns line.toText =
      ⟨line.address.toText.toList, Hex.ofBytes line.piece.bytes, line.piece.text.toList⟩ := by
    intro line member
    have listed : line.piece ∈ pieces := same ▸ List.mem_map_of_mem member
    exact columns_toText (Nat.le_trans (length_bytes_le encoded cut listed) (by decide))
  refine ⟨same, ?_, ?_⟩
  · calc (lines.flatMap fun line => (columns line.toText).digits)
      _ = lines.flatMap fun line => Hex.ofBytes line.piece.bytes :=
        List.flatMap_congr fun line member => by rw [shown line member]
      _ = pieces.flatMap fun piece => Hex.ofBytes piece.bytes := by rw [← same, List.flatMap_map]
      _ = Hex.ofBytes (pieces.flatMap CodePiece.bytes) := by
        simp only [Hex.ofBytes, List.flatMap_assoc]
      _ = Hex.ofBytes code := by rw [← isSplit, flatten_split]
  · rintro before line after rfl
    have member : line ∈ before ++ line :: after := List.mem_append_cons_self
    obtain ⟨inside, address⟩ := addresses before line after rfl
    rw [Nat.zero_add] at inside address
    refine ⟨by rw [address, Address.toNat_add_of_lt inside], shown line member, ?_⟩
    rw [List.map_append, List.map_cons] at same
    rcases whole_or_last same with ⟨isWhole, notLast⟩ | ⟨isLast, isRest⟩
    · have fine := text_ne_bad (encoded _ isWhole)
      rw [List.map_eq_nil_iff] at notLast
      exact ⟨iff_of_false fine notLast, fun bad => absurd bad fine⟩
    · rw [List.map_eq_nil_iff] at isLast
      rw [isRest]
      exact ⟨iff_of_true rfl isLast, fun _ => rfl⟩

/-- A move in its long form, though a byte would do, and a fence that lacks its last byte. -/
def cutOff : List CodePiece :=
  [⟨[0x55], some .pushRbp⟩, ⟨[0x48, 0x81, 0xec, 0xff, 0xff, 0xff, 0xff], some (.subRsp (-1))⟩]

theorem disassemble_covers_straddling :
    (∀ piece ∈ cutOff, piece.Whole) ∧ Truncated [0x0f, 0xae] ∧
      (∃ cause, disassemble (cutOff.flatMap CodePiece.bytes ++ [0x0f, 0xae])
        ⟨0xfffffffffffffff8⟩ = .error cause) ∧
      ∃ lines, disassemble (cutOff.flatMap CodePiece.bytes ++ [0x0f, 0xae])
          ⟨0xfffffffffffffff7⟩ = .ok lines ∧
        (lines.flatMap fun line => (columns line.toText).digits) =
          "554881ecffffffff0fae".toList ∧
        lines.map ListingLine.address =
          [⟨0xfffffffffffffff7⟩, ⟨0xfffffffffffffff8⟩, ⟨0xffffffffffffffff⟩] := by
  have encoded : ∀ piece ∈ cutOff, piece.Whole := by
    have long : (Instruction.subRsp (-1)).Encodes [0x48, 0x81, 0xec, 0xff, 0xff, 0xff, 0xff] :=
      .long 0xff 0xff 0xff 0xff (List.mem_cons_self ..)
    simp only [cutOff, List.forall_mem_cons]
    exact ⟨⟨_, rfl, .plain (by decide)⟩, ⟨_, rfl, long⟩, List.forall_mem_nil _⟩
  have cut : Truncated [0x0f, 0xae] :=
    ⟨by decide, .mfence, Instruction.mfence.bytes, .plain (by decide), ⟨[0xf0], rfl⟩, by decide⟩
  refine ⟨encoded, cut, ?_, ?_⟩
  · obtain ⟨-, aborts, -⟩ := disassemble_covers encoded (.inr cut) ⟨0xfffffffffffffff8⟩
    exact aborts.mpr ⟨cutOff, ⟨[0x0f, 0xae], none⟩, [], rfl, by decide⟩
  · obtain ⟨-, -, covers⟩ := disassemble_covers encoded (.inr cut) ⟨0xfffffffffffffff7⟩
    have listed : disassemble (cutOff.flatMap CodePiece.bytes ++ [0x0f, 0xae])
        ⟨0xfffffffffffffff7⟩ = .ok [⟨⟨0xfffffffffffffff7⟩, ⟨[0x55], some .pushRbp⟩⟩,
          ⟨⟨0xfffffffffffffff8⟩,
            ⟨[0x48, 0x81, 0xec, 0xff, 0xff, 0xff, 0xff], some (.subRsp (-1))⟩⟩,
          ⟨⟨0xffffffffffffffff⟩, ⟨[0x0f, 0xae], none⟩⟩] := by decide
    exact ⟨_, listed, (covers _ listed).2.1, rfl⟩

/-! ### Code that has been assembled -/

def assembled (i : Instruction) : CodePiece := ⟨i.bytes, some i⟩

theorem flatMap_assembled (instructions : List Instruction) :
    (instructions.map assembled).flatMap CodePiece.bytes =
      instructions.flatMap Instruction.bytes := by
  rw [List.flatMap_map]
  rfl

theorem whole_assembled (instructions : List Instruction) :
    ∀ piece ∈ instructions.map assembled, piece.Whole := by
  intro piece member
  obtain ⟨i, -, rfl⟩ := List.mem_map.mp member
  exact ⟨i, rfl, i.encodes_bytes⟩

theorem split_assembled (instructions : List Instruction) :
    split (instructions.flatMap Instruction.bytes) = instructions.map assembled := by
  have isSplit := split_append (whole_assembled instructions) (.inl rfl)
  rwa [remainder, List.append_nil, List.append_nil, flatMap_assembled] at isSplit

theorem disassemble_assembled (instructions : List Instruction) (start : Address) :
    disassemble (instructions.flatMap Instruction.bytes) start =
      place start 0 (instructions.map assembled) := by
  rw [disassemble, split_assembled]

end Listing

namespace CodeBuffer

open Listing

theorem encoding_instructions (instructions : List Instruction) :
    encoding (instructions.map (.instruction false)) =
      instructions.flatMap Instruction.bytes := by
  rw [encoding, List.flatMap_map]
  rfl

theorem Orderly.flush_appended {b : CodeBuffer} (orderly : b.Orderly) {steps : List Step}
    {instructions : List Instruction}
    (queued : steps.flatMap Step.code = instructions.map (.instruction false))
    (fits : b.tape.length + (instructions.flatMap Instruction.bytes).length ≤ b.capacity) :
    ∃ c, CodeBuffer.flush (b.after steps) = (.ok (), c) ∧
      c.code = b.tape ++ instructions.flatMap Instruction.bytes := by
  have tape := (tape_after orderly.whole steps).2
  rw [queued, encoding_instructions] at tape
  have room : (b.after steps).tape.length ≤ (b.after steps).capacity := by
    rw [(wrote_after steps b).extends.capacity, tape, List.length_append]
    exact fits
  refine ⟨{ b.after steps with code := (b.after steps).tape, queue := [] }, ?_, tape⟩
  rw [(orderly.after steps).flush, if_pos room]

theorem Orderly.flush_instructions {b : CodeBuffer} (orderly : b.Orderly) (flushed : b.queue = [])
    {steps : List Step} {instructions : List Instruction}
    (queued : steps.flatMap Step.code = instructions.map (.instruction false))
    (fits : b.size + (instructions.flatMap Instruction.bytes).length ≤ b.capacity) :
    ∃ c, CodeBuffer.flush (b.after steps) = (.ok (), c) ∧
      c.code = b.code ++ instructions.flatMap Instruction.bytes := by
  have tape := tape_of_queue flushed
  rw [size, ← tape] at fits
  rw [← tape]
  exact orderly.flush_appended queued fits

/-- Instructions are listed as they were assembled, in whatever steps they were queued: one line for
each, at its address, with the bytes it was assembled to and its text, which shows an immediate as
the unsigned number that it is extended to. -/
theorem disassemble_flushed {b : CodeBuffer} (orderly : b.Orderly) (flushed : b.queue = [])
    {steps : List Step} {instructions : List Instruction}
    (queued : steps.flatMap Step.code = instructions.map (.instruction false))
    (fits : b.size + (instructions.flatMap Instruction.bytes).length ≤ b.capacity) {start : Address}
    (inside : start.raw.toNat + (instructions.flatMap Instruction.bytes).length ≤ UInt64.size) :
    ∃ c lines, flush (b.after steps) = (.ok (), c) ∧
      c.code = b.code ++ instructions.flatMap Instruction.bytes ∧
      disassemble (c.code.drop b.size) start = .ok lines ∧ lines.length = instructions.length ∧
      ∀ before i after, instructions = before ++ i :: after → ∃ line : ListingLine,
        lines[before.length]? = some line ∧ line.piece = ⟨i.bytes, some i⟩ ∧
        line.address.raw.toNat =
          start.raw.toNat + (before.flatMap Instruction.bytes).length ∧
        columns line.toText =
          ⟨line.address.toText.toList, Hex.ofBytes i.bytes, i.toText.toList⟩ ∧
        i.toText ≠ "(bad)" ∧
        ∀ amount, i.amount? = some amount → Instruction.immediate? (i.toText.toList.drop 12) =
          some (amount.toInt % 0x10000000000000000).toNat := by
  obtain ⟨c, commits, code⟩ := orderly.flush_instructions flushed queued fits
  obtain ⟨lines, listed⟩ := disassemble_ok inside
  have dropped : c.code.drop b.size = instructions.flatMap Instruction.bytes := by
    rw [code, size, List.drop_left]
  have placed := listed
  rw [disassemble_assembled] at placed
  obtain ⟨same, addresses⟩ := place_eq_ok placed
  refine ⟨c, lines, commits, code, by rw [dropped, listed], ?_, ?_⟩
  · have length := congrArg List.length same
    rwa [List.length_map, List.length_map] at length
  · rintro before i after rfl
    rw [List.map_append, List.map_cons] at same
    obtain ⟨front, back, rfl, isFront, isBack⟩ := List.map_eq_append_iff.mp same
    obtain ⟨line, others, rfl, isPiece, -⟩ := List.map_eq_cons_iff.mp isBack
    obtain ⟨within, address⟩ := addresses front line others rfl
    have length : front.length = before.length := by
      have length := congrArg List.length isFront
      rwa [List.length_map, List.length_map] at length
    have extent : extent (before.map assembled) = (before.flatMap Instruction.bytes).length := by
      rw [Listing.extent, flatMap_assembled]
    rw [isFront, Nat.zero_add, extent] at within address
    refine ⟨line, ?_, isPiece, ?_, ?_, i.toText_ne_bad, fun _ => Instruction.immediate?_toText⟩
    · rw [← length, List.getElem?_append_right (Nat.le_refl _), Nat.sub_self]
      rfl
    · rw [address, Address.toNat_add_of_lt within]
    · have narrow : line.piece.bytes.length ≤ 10 := by
        rw [isPiece]
        exact Nat.le_trans i.encodes_bytes.length_le (by decide)
      rw [columns_toText narrow, isPiece]
      rfl

def divided : List Step :=
  [.queue (.instruction false (.subRsp (-129))), .flush, .queue (.instruction false .mfence),
    .queue (.instruction false (.addRsp (-128)))]

theorem disassemble_flushed_divided :
    let b := (create ⟨0x1000⟩ 17).after [.queue (.instruction false .movRaxRcx), .flush]
    let instructions : List Instruction := [.subRsp (-129), .mfence, .addRsp (-128)]
    (b.Orderly ∧ b.queue = [] ∧
      divided.flatMap Step.code = instructions.map (.instruction false) ∧
      b.size + (instructions.flatMap Instruction.bytes).length = b.capacity) ∧
    ∃ c lines, flush (b.after divided) = (.ok (), c) ∧
      disassemble (c.code.drop 3) ⟨0xfffffffffffffff2⟩ = .ok lines ∧ lines.length = 3 ∧
      ∃ line : ListingLine, lines[2]? = some line ∧
        line.address.raw.toNat = 0xfffffffffffffffc ∧
        (columns line.toText).digits = "4883c480".toList ∧
        (columns line.toText).text = "add     rsp,0FFFFFFFFFFFFFF80h".toList := by
  intro b instructions
  have orderly : b.Orderly := Orderly.after ⟨rfl, Nat.zero_le _⟩ _
  have queued : divided.flatMap Step.code = instructions.map (.instruction false) := rfl
  have full : b.size + (instructions.flatMap Instruction.bytes).length = b.capacity := by decide
  have inside : (⟨0xfffffffffffffff2⟩ : Address).raw.toNat +
    (instructions.flatMap Instruction.bytes).length ≤ UInt64.size := by decide
  obtain ⟨c, lines, commits, -, listed, length, each⟩ :=
    disassemble_flushed orderly rfl queued (Nat.le_of_eq full) inside
  obtain ⟨line, isLine, -, address, shown, -⟩ :=
    each [.subRsp (-129), .mfence] (.addRsp (-128)) [] rfl
  have digits : Hex.ofBytes (Instruction.addRsp (-128)).bytes = "4883c480".toList := by decide
  have text : (Instruction.addRsp (-128)).toText.toList =
    "add     rsp,0FFFFFFFFFFFFFF80h".toList := by decide
  exact ⟨⟨orderly, rfl, queued, full⟩, c, lines, commits, listed, length, line, isLine,
    address.trans (by decide), (congrArg Columns.digits shown).trans digits,
    (congrArg Columns.text shown).trans text⟩

end CodeBuffer

end RuntimeStubs
