import RuntimeStubs.Code.Instruction
import RuntimeStubs.Fault

/-! Listings of machine code.

`Listing.split` cuts code into the encodings it is made of; `flatten_split` says that no byte is
lost. A rest in which no instruction can be read is one last piece. `disassemble` gives every piece
its address and refuses code in which a piece would start behind the end of the address space. -/

set_option autoImplicit false

namespace RuntimeStubs

structure CodePiece where
  bytes : List UInt8
  instruction : Option Instruction
  deriving DecidableEq, Repr

structure ListingLine where
  address : Address
  piece : CodePiece
  deriving DecidableEq, Repr

def ListingLine.toText (line : ListingLine) : String :=
  let text := match line.piece.instruction with
    | some instruction => instruction.toText
    | none => "(bad)"
  line.address.toText ++ "  " ++
    Text.padRight 20 (String.ofList (Hex.ofBytes line.piece.bytes)) ++ " " ++ text

namespace Listing

def pieces : Nat → List UInt8 → List CodePiece
  | 0, _ => []
  | _, [] => []
  | limit + 1, byte :: rest =>
    match Instruction.decode? (byte :: rest) with
    | some (instruction, length) =>
      ⟨(byte :: rest).take length, some instruction⟩ ::
        pieces limit ((byte :: rest).drop length)
    | none => [⟨byte :: rest, none⟩]

def split (code : List UInt8) : List CodePiece := pieces code.length code

/-- Gives every piece its address. The first one is `offset` bytes behind `start`. -/
def place (start : Address) : Nat → List CodePiece → Except Abort (List ListingLine)
  | _, [] => .ok []
  | offset, piece :: rest =>
    if start.raw.toNat + offset < UInt64.size then
      match place start (offset + piece.bytes.length) rest with
      | .ok lines => .ok (⟨start.add offset, piece⟩ :: lines)
      | .error cause => .error cause
    else .error .subtraction

end Listing

def disassemble (code : List UInt8) (start : Address) : Except Abort (List ListingLine) :=
  Listing.place start 0 (Listing.split code)

namespace Listing

theorem plain_bytes_ne_nil {instruction : Instruction} (h : instruction ∈ Instruction.plain) :
    0 < instruction.bytes.length := by
  revert instruction
  decide

theorem decodeAdjustment?_length_pos {code : List UInt8} {instruction : Instruction} {length : Nat}
    (h : Instruction.decodeAdjustment? code = some (instruction, length)) : 0 < length := by
  unfold Instruction.decodeAdjustment? at h
  split at h
  · obtain ⟨_, _, same⟩ := Option.map_eq_some_iff.mp h
    have := congrArg Prod.snd same
    simp only at this
    omega
  · obtain ⟨_, _, same⟩ := Option.map_eq_some_iff.mp h
    have := congrArg Prod.snd same
    simp only at this
    omega
  · simp at h

theorem decode?_length_pos {code : List UInt8} {instruction : Instruction} {length : Nat}
    (h : Instruction.decode? code = some (instruction, length)) : 0 < length := by
  unfold Instruction.decode? at h
  split at h
  · next found =>
    have member := List.mem_of_find?_eq_some found
    have same : _ = length := congrArg Prod.snd (Option.some.inj h)
    exact same ▸ plain_bytes_ne_nil member
  · exact decodeAdjustment?_length_pos h

theorem flatten_pieces {limit : Nat} {code : List UInt8} (h : code.length ≤ limit) :
    (pieces limit code).flatMap CodePiece.bytes = code := by
  induction limit generalizing code with
  | zero =>
    have := List.eq_nil_of_length_eq_zero (Nat.le_zero.mp h)
    subst this
    rfl
  | succ limit ih =>
    cases code with
    | nil => rfl
    | cons byte rest =>
      unfold pieces
      split
      · next instruction length decoded =>
        have positive := decode?_length_pos decoded
        have shorter : ((byte :: rest).drop length).length ≤ limit := by
          rw [List.length_drop]
          omega
        rw [List.flatMap_cons, ih shorter]
        exact List.take_append_drop length (byte :: rest)
      · simp

theorem flatten_split (code : List UInt8) : (split code).flatMap CodePiece.bytes = code :=
  flatten_pieces (Nat.le_refl _)

end Listing

end RuntimeStubs
