import RuntimeStubs.Code.Listing
import RuntimeStubs.Proofs.Address.Reading

/-! The columns of a listing.

A line of a listing has three columns: the address, the digits of the bytes, and the text of the
instruction. As long as the digits leave a blank in front of the text, the line says exactly what
its columns are (`columns_toText`). The immediate in a text is read back as the unsigned number that
the processor extends it to (`immediate?_toText`). -/

set_option autoImplicit false

namespace RuntimeStubs

/-! ### Immediates -/

namespace Instruction

/-- The value of an immediate as it stands in a text: a digit, or hexadecimal ones in front
of `h`. -/
def immediate? (text : List Char) : Option Nat :=
  match text.reverse with
  | 'h' :: digits => (Address.appendDigits 0 digits.reverse).toOption
  | [digit] => if digit.isDigit then Hex.digit? digit else none
  | _ => none

theorem immediate?_append (digits : List Char) :
    immediate? (digits ++ ['h']) = (Address.appendDigits 0 digits).toOption := by
  simp [immediate?]

theorem exists_digitChar_of_significant {c : Char} {n : Nat} (member : c ∈ Hex.significant n) :
    ∃ k, k < 16 ∧ c = Nat.digitChar k := by
  unfold Hex.significant at member
  split at member
  · exact ⟨0, by decide, List.mem_singleton.mp member⟩
  · exact Address.exists_digitChar_of_mem (List.dropWhile_subset _ member)

theorem appendDigits_toUpper {ds : List Char}
    (digits : ∀ c ∈ ds, ∃ k, k < 16 ∧ c = Nat.digitChar k) (value : Nat) :
    Address.appendDigits value (ds.map Char.toUpper) = Address.appendDigits value ds := by
  induction ds generalizing value with
  | nil => rfl
  | cons c rest ih =>
    obtain ⟨⟨k, small, rfl⟩, others⟩ := List.forall_mem_cons.mp digits
    have upper : ∀ k < 16, Hex.digit? (Nat.digitChar k).toUpper = some k := by decide
    simp only [List.map_cons, Address.appendDigits, upper k small, Hex.digit?_digitChar small,
      ih others]

-- A leading zero keeps the value.
theorem immediate?_immediateText {n : Nat} (bound : n < 16 ^ 16) :
    immediate? (immediateText n).toList = some n := by
  by_cases small : n < 10
  · have single : ∀ n < 10, immediate? (immediateText n).toList = some n := by decide
    exact single n small
  · have read : Address.appendDigits 0 ((Hex.significant n).map Char.toUpper) = .ok n := by
      rw [appendDigits_toUpper fun c => exists_digitChar_of_significant]
      exact Address.appendDigits_significant bound
    rw [immediateText, if_neg small, String.toList_ofList, immediate?_append]
    split
    · rw [List.singleton_append, Address.appendDigits_zero, read]
      rfl
    · rw [List.nil_append, read]
      rfl

theorem toNat_extended (amount : Int32) :
    ((extended amount).toNat : Int) = amount.toInt % 0x10000000000000000 := by
  have signed : amount.toInt64.toInt = Int.bmod (extended amount).toNat 0x10000000000000000 :=
    BitVec.toInt_eq_toNat_bmod _
  have bound := (extended amount).toNat_lt
  rw [Int32.toInt_toInt64, Int.bmod_def] at signed
  omega

def amount? : Instruction → Option Int32
  | subRsp amount | addRsp amount => some amount
  | _ => none

theorem toText_of_parts {i : Instruction} {mnemonic immediate : String}
    (parts : i.parts = (mnemonic, "rsp," ++ immediate)) :
    i.toText = Text.padRight 8 mnemonic ++ "rsp," ++ immediate := by
  rw [toText, parts, String.append_assoc]
  exact if_neg (by simp)

/-- Mnemonic and register of a move of the stack pointer take twelve columns. The rest of its text
is the immediate, extended to 64 bits with its sign and written without it. -/
theorem immediate?_toText {i : Instruction} {amount : Int32} (moves : i.amount? = some amount) :
    immediate? (i.toText.toList.drop 12) = some (amount.toInt % 0x10000000000000000).toNat := by
  have bound : (extended amount).toNat < 16 ^ 16 := (extended amount).toNat_lt
  have value : (extended amount).toNat = (amount.toInt % 0x10000000000000000).toNat := by
    rw [← toNat_extended, Int.toNat_natCast]
  have shown : i.toText.toList.drop 12 = (immediateText (extended amount).toNat).toList := by
    cases i <;> cases moves
    all_goals rw [toText_of_parts rfl, String.toList_append, List.drop_left' (by decide)]
  rw [shown, immediate?_immediateText bound, value]

theorem toText_ne_bad (i : Instruction) : i.toText ≠ "(bad)" := by
  intro same
  have first := congrArg (fun text : String => text.toList.head?) same
  cases i with
  | subRsp | addRsp =>
    rw [toText_of_parts rfl, String.toList_append] at first
    cases first
  | _ => exact absurd first (by decide)

end Instruction

def CodePiece.text (piece : CodePiece) : String :=
  match piece.instruction with
  | some instruction => instruction.toText
  | none => "(bad)"

namespace Listing

structure Columns where
  address : List Char
  digits : List Char
  text : List Char
  deriving DecidableEq, Repr

/-- The first two columns are separated by two blanks, and the third one starts behind the fortieth
character. -/
def columns (line : String) : Columns :=
  ⟨line.toList.take 18, (line.toList.drop 20).takeWhile (· ≠ ' '), line.toList.drop 41⟩

theorem length_ofBytes (bytes : List UInt8) : (Hex.ofBytes bytes).length = 2 * bytes.length := by
  induction bytes with
  | nil => rfl
  | cons byte rest ih =>
    rw [Hex.ofBytes, List.flatMap_cons, ← Hex.ofBytes, List.length_append, ih, Hex.length_digits,
      List.length_cons]
    omega

theorem ne_blank_of_mem_ofBytes {c : Char} {bytes : List UInt8} (member : c ∈ Hex.ofBytes bytes) :
    c ≠ ' ' := by
  obtain ⟨byte, -, isDigit⟩ := List.mem_flatMap.mp member
  have digit := Address.isSome_digit?_of_mem isDigit
  rintro rfl
  exact absurd digit (by decide)

theorem toList_toText (line : ListingLine) :
    line.toText.toList = line.address.toText.toList ++ ([' ', ' '] ++
      (Hex.ofBytes line.piece.bytes ++
        (List.replicate (20 - (Hex.ofBytes line.piece.bytes).length) ' ' ++
          ' ' :: line.piece.text.toList))) := by
  unfold ListingLine.toText CodePiece.text
  cases line.piece.instruction <;>
    simp [Text.padRight, String.toList_append, String.toList_ofList]

theorem length_toText (a : Address) : a.toText.toList.length = 18 := by
  simp [Address.toText, String.toList_ofList]

-- Blanks fill the second column up and separate it from the third one.
theorem takeWhile_digits {digits : List Char} (noBlank : ∀ c ∈ digits, c ≠ ' ') (width : Nat)
    (text : List Char) :
    (digits ++ (List.replicate width ' ' ++ ' ' :: text)).takeWhile (· ≠ ' ') = digits := by
  rw [List.takeWhile_append_of_pos (by simpa using noBlank)]
  cases width <;> simp [List.replicate_succ]

theorem columns_toText {line : ListingLine} (narrow : line.piece.bytes.length ≤ 10) :
    columns line.toText =
      ⟨line.address.toText.toList, Hex.ofBytes line.piece.bytes, line.piece.text.toList⟩ := by
  have width := length_toText line.address
  have digits := length_ofBytes line.piece.bytes
  have address : line.toText.toList.take 18 = line.address.toText.toList := by
    rw [toList_toText, List.take_left' width]
  have behind : line.toText.toList.drop 20 = Hex.ofBytes line.piece.bytes ++
      (List.replicate (20 - (Hex.ofBytes line.piece.bytes).length) ' ' ++
        ' ' :: line.piece.text.toList) := by
    rw [toList_toText, ← List.append_assoc, List.drop_left' (by simp [width])]
  have text : line.toText.toList.drop 41 = line.piece.text.toList := by
    have split : line.toText.toList.drop 41 = (line.toText.toList.drop 20).drop 21 := by
      rw [List.drop_drop]
    rw [split, behind, ← List.append_assoc, List.append_cons, List.drop_left' (by simp; omega)]
  rw [columns, address, behind, text,
    takeWhile_digits fun c member => ne_blank_of_mem_ofBytes member]

end Listing

end RuntimeStubs
