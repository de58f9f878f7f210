import Mathlib.Algebra.GroupWithZero.Nat
import RuntimeStubs.Address.Reading

/-! Reading an address back.

The text of an address, with all its digits behind `0x`, is read as that address (`read_toText`). -/

set_option autoImplicit false

namespace RuntimeStubs.Address

theorem appendDigits_append {value next : Nat} {first second : List Char}
    (read : appendDigits value first = .ok next) :
    appendDigits value (first ++ second) = appendDigits next second := by
  induction first generalizing value with
  | nil =>
    cases read
    rfl
  | cons c rest ih =>
    simp only [List.cons_append, appendDigits] at read ⊢
    cases known : Hex.digit? c with
    | none =>
      rw [known] at read
      cases read
    | some digit =>
      rw [known] at read
      dsimp only at read ⊢
      split at read
      · cases read
      · next fits => rw [if_neg fits, ih read]

-- From the right, as the digits are written.
theorem appendDigits_digits {width n : Nat} (places : width ≤ 16) (bound : n < 16 ^ width) :
    appendDigits 0 (Hex.digits width n) = .ok n := by
  induction width generalizing n with
  | zero =>
    obtain rfl : n = 0 := by simpa using bound
    rfl
  | succ width ih =>
    have earlier : n / 16 < 16 ^ width := by
      rw [Nat.div_lt_iff_lt_mul (by decide), ← Nat.pow_succ]
      exact bound
    have whole : n / 16 * 16 + n % 16 = n := by omega
    have fits : n < UInt64.size :=
      Nat.lt_of_lt_of_le bound (Nat.pow_le_pow_right (by decide) places)
    rw [Hex.digits, appendDigits_append (ih (by omega) earlier), appendDigits,
      Hex.digit?_digitChar (Nat.mod_lt n (by decide))]
    dsimp only
    rw [whole, if_neg (Nat.not_le.mpr fits), appendDigits]

theorem exists_digitChar_of_mem {c : Char} {width n : Nat} (member : c ∈ Hex.digits width n) :
    ∃ k, k < 16 ∧ c = Nat.digitChar k := by
  induction width generalizing n with
  | zero => cases member
  | succ width ih =>
    rcases List.mem_append.mp member with earlier | last
    · exact ih earlier
    · exact ⟨n % 16, Nat.mod_lt n (by decide), List.mem_singleton.mp last⟩

theorem isSome_digit?_of_mem {c : Char} {width n : Nat} (member : c ∈ Hex.digits width n) :
    (Hex.digit? c).isSome = true := by
  obtain ⟨k, small, rfl⟩ := exists_digitChar_of_mem member
  rw [Hex.digit?_digitChar small]
  rfl

theorem appendDigits_zero (ds : List Char) : appendDigits 0 ('0' :: ds) = appendDigits 0 ds := rfl

theorem appendDigits_dropZeros (ds : List Char) :
    appendDigits 0 (ds.dropWhile (· == '0')) = appendDigits 0 ds := by
  induction ds with
  | nil => rfl
  | cons c rest ih =>
    rw [List.dropWhile_cons]
    split
    · next isZero =>
      rw [ih, eq_of_beq isZero, appendDigits_zero]
    · rfl

-- Leading zeros do not count, and of a number without other digits one of them is left.
theorem appendDigits_significant {n : Nat} (bound : n < 16 ^ 16) :
    appendDigits 0 (Hex.significant n) = .ok n := by
  have read := appendDigits_dropZeros (Hex.digits 16 n)
  rw [appendDigits_digits (Nat.le_refl _) bound] at read
  unfold Hex.significant
  split
  · next none =>
    rw [none] at read
    exact read
  · exact read

-- The sign is no digit.
theorem readNumber_of_digit {c : Char} {rest : List Char} (digit : (Hex.digit? c).isSome = true) :
    readNumber (c :: rest) = appendDigits 0 (c :: rest) := by
  have unsigned : c ≠ '+' := by
    rintro rfl
    exact absurd digit (by decide)
  unfold readNumber
  split
  · next empty => cases empty
  · next sign => exact absurd (List.cons.inj sign).1 unsigned
  · next sign => exact absurd (List.cons.inj sign).1 unsigned
  · rfl

theorem read_toText (a : Address) : read a.toText = .ok a := by
  have bound : a.raw.toNat < 16 ^ 16 := a.raw.toNat_lt
  have nonempty : Hex.digits 16 a.raw.toNat ≠ [] := List.ne_nil_of_length_pos (by simp)
  obtain ⟨c, rest, digits⟩ := List.exists_cons_of_ne_nil nonempty
  have digit := isSome_digit?_of_mem (digits ▸ List.mem_cons_self : c ∈ Hex.digits 16 a.raw.toNat)
  rw [read, toText, String.toList_ofList, dropMarker, digits, readNumber_of_digit digit, ← digits,
    appendDigits_digits (Nat.le_refl _) bound]
  dsimp only
  rw [UInt64.ofNat_toNat]

end RuntimeStubs.Address
