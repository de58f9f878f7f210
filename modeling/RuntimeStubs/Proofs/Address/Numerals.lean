import Mathlib.Data.Nat.Digits.Defs
import Mathlib.Tactic.Ring
import RuntimeStubs.Proofs.Address.Reading

/-! Numerals of addresses.

A `Numeral` is a marker, a sign and hexadecimal digits of either case, of which only the digits have
to be there. Main statements: a numeral is read as its value in base sixteen or refused for being
too large (`read_text`), and nothing but numerals is read (`read_eq_ok_iff`). Every address is read
from its bare digits (`read_toHex`). -/

set_option autoImplicit false

namespace RuntimeStubs.Address

def IsDigit (c : Char) (n : Nat) : Prop :=
  n < 16 ∧ (c = Nat.digitChar n ∨ c = (Nat.digitChar n).toUpper)

instance (c : Char) (n : Nat) : Decidable (IsDigit c n) := inferInstanceAs (Decidable (_ ∧ _))

def markers : List (List Char) := [[], ['0', 'x'], ['0', 'X']]

def signs : List (List Char) := [[], ['+']]

theorem mem_markers_iff {marker : List Char} :
    marker ∈ markers ↔ marker = [] ∨ marker = ['0', 'x'] ∨ marker = ['0', 'X'] := by
  simp [markers]

theorem mem_signs_iff {sign : List Char} : sign ∈ signs ↔ sign = [] ∨ sign = ['+'] := by
  simp [signs]

structure Numeral where
  marker : List Char
  sign : List Char
  digits : List Char
  values : List Nat
  isMarker : marker ∈ markers
  isSign : sign ∈ signs
  nonempty : digits ≠ []
  isDigits : List.Forall₂ IsDigit digits values

namespace Numeral

def text (m : Numeral) : String := String.ofList (m.marker ++ (m.sign ++ m.digits))

def value (m : Numeral) : Nat := Nat.ofDigits 16 m.values.reverse

end Numeral

variable {c : Char} {n value : Nat} {cs ds sign marker : List Char} {values : List Nat}
  {text : String} {a : Address}

/-! ### Digits -/

theorem toNat_lt_of_digit? (read : Hex.digit? c = some n) : c.toNat < 103 := by
  by_contra above
  have size (a : Char) : a.toNat = a.val.toNat := rfl
  have unread : Hex.digit? c = none := by
    simp only [Hex.digit?, Char.le_def, UInt32.le_iff_toNat_le, ← size]
    rw [if_neg, if_neg, if_neg] <;> simp <;> omega
  rw [unread] at read
  cases read

-- What is read as a digit lies below `g`, and there every character is looked at.
theorem digit?_eq_some_iff : Hex.digit? c = some n ↔ IsDigit c n := by
  constructor
  · intro read
    have all : ∀ k < 103, ∀ m ∈ Hex.digit? (Char.ofNat k), IsDigit (Char.ofNat k) m := by decide
    have isDigit := all c.toNat (toNat_lt_of_digit? read) n
    rw [Char.ofNat_toNat] at isDigit
    exact isDigit read
  · rintro ⟨small, rfl | rfl⟩
    · exact Hex.digit?_digitChar small
    · have upper : ∀ n < 16, Hex.digit? (Nat.digitChar n).toUpper = some n := by decide
      exact upper n small

theorem isSome_of_isDigit (isDigit : IsDigit c n) : (Hex.digit? c).isSome = true := by
  rw [digit?_eq_some_iff.mpr isDigit]
  rfl

-- Every further digit moves the value so far up by one place. Once there is no room for it, no
-- later digit makes any.
theorem appendDigits_eq (isDigits : List.Forall₂ IsDigit ds values) (small : value < UInt64.size) :
    appendDigits value ds =
      let result := value * 16 ^ values.length + Nat.ofDigits 16 values.reverse
      if result < UInt64.size then .ok result else .error .tooLarge := by
  induction isDigits generalizing value with
  | nil => simp [appendDigits, small]
  | @cons c n ds values isDigit others ih =>
    have moved : value * 16 ^ (n :: values).length + Nat.ofDigits 16 (n :: values).reverse =
        (value * 16 + n) * 16 ^ values.length + Nat.ofDigits 16 values.reverse := by
      rw [Nat.ofDigits_reverse_cons, List.length_cons]
      ring
    rw [appendDigits, digit?_eq_some_iff.mpr isDigit, moved]
    dsimp only
    by_cases room : value * 16 + n < UInt64.size
    · rw [if_neg (Nat.not_le.mpr room), ih room]
    · have grown : value * 16 + n ≤ (value * 16 + n) * 16 ^ values.length :=
        Nat.le_mul_of_pos_right _ (Nat.pow_pos (by decide))
      rw [if_pos (Nat.le_of_not_lt room), if_neg (by omega)]

theorem exists_values_of_appendDigits (read : appendDigits value ds = .ok n) :
    ∃ values, List.Forall₂ IsDigit ds values := by
  induction ds generalizing value with
  | nil => exact ⟨[], .nil⟩
  | cons c rest ih =>
    rw [appendDigits] at read
    cases digit : Hex.digit? c with
    | none => simp [digit] at read
    | some d =>
      simp only [digit] at read
      split at read
      · cases read
      · obtain ⟨values, others⟩ := ih read
        exact ⟨d :: values, .cons (digit?_eq_some_iff.mp digit) others⟩

/-! ### What stands in front of the digits -/

theorem isSome_second {first : Char} {rest : List Char} (isSign : sign ∈ signs)
    (isDigits : List.Forall₂ IsDigit ds values) (same : sign ++ ds = first :: c :: rest) :
    (Hex.digit? c).isSome = true := by
  rcases mem_signs_iff.mp isSign with rfl | rfl
  · obtain rfl : ds = first :: c :: rest := same
    cases isDigits with
    | cons _ others =>
      cases others with
      | cons isDigit _ => exact isSome_of_isDigit isDigit
  · obtain rfl : ds = c :: rest := (List.cons.inj same).2
    cases isDigits with
    | cons isDigit _ => exact isSome_of_isDigit isDigit

-- The second character of a marker is no digit, but the one behind a sign or a first digit is.
theorem dropMarker_append (isMarker : marker ∈ markers) (isSign : sign ∈ signs)
    (isDigits : List.Forall₂ IsDigit ds values) :
    dropMarker (marker ++ (sign ++ ds)) = sign ++ ds := by
  have unmarked : dropMarker (sign ++ ds) = sign ++ ds := by
    unfold dropMarker
    split
    · next same => exact absurd (isSome_second isSign isDigits same) (by decide)
    · next same => exact absurd (isSome_second isSign isDigits same) (by decide)
    · rfl
  rcases mem_markers_iff.mp isMarker with rfl | rfl | rfl
  · exact unmarked
  · rfl
  · rfl

theorem exists_marker (cs : List Char) : ∃ marker ∈ markers, cs = marker ++ dropMarker cs := by
  unfold dropMarker
  split
  · exact ⟨['0', 'x'], mem_markers_iff.mpr (.inr (.inl rfl)), rfl⟩
  · exact ⟨['0', 'X'], mem_markers_iff.mpr (.inr (.inr rfl)), rfl⟩
  · exact ⟨[], mem_markers_iff.mpr (.inl rfl), rfl⟩

theorem readNumber_append (isSign : sign ∈ signs) (nonempty : ds ≠ [])
    (isDigits : List.Forall₂ IsDigit ds values) : readNumber (sign ++ ds) = appendDigits 0 ds := by
  cases isDigits with
  | nil => exact absurd rfl nonempty
  | cons isDigit others =>
    rcases mem_signs_iff.mp isSign with rfl | rfl
    · exact readNumber_of_digit (isSome_of_isDigit isDigit)
    · rfl

theorem exists_sign_of_readNumber (read : readNumber cs = .ok n) :
    ∃ sign ∈ signs, ∃ ds, cs = sign ++ ds ∧ ds ≠ [] ∧ appendDigits 0 ds = .ok n := by
  unfold readNumber at read
  split at read
  · cases read
  · cases read
  · next ds notAlone =>
    refine ⟨['+'], mem_signs_iff.mpr (.inr rfl), ds, rfl, ?_, read⟩
    rintro rfl
    exact notAlone rfl
  · next nonempty _ _ => exact ⟨[], mem_signs_iff.mpr (.inl rfl), cs, rfl, nonempty, read⟩

/-! ### Numerals -/

theorem read_text (m : Numeral) :
    read m.text =
      if m.value < UInt64.size then .ok ⟨UInt64.ofNat m.value⟩ else .error .tooLarge := by
  have number : readNumber (dropMarker m.text.toList) =
      if m.value < UInt64.size then .ok m.value else .error .tooLarge := by
    rw [Numeral.text, String.toList_ofList, dropMarker_append m.isMarker m.isSign m.isDigits,
      readNumber_append m.isSign m.nonempty m.isDigits, appendDigits_eq m.isDigits (by decide),
      Nat.zero_mul, Nat.zero_add, Numeral.value]
  rw [read, number]
  by_cases fits : m.value < UInt64.size
  · rw [if_pos fits, if_pos fits]
  · rw [if_neg fits, if_neg fits]

theorem exists_numeral (isMarker : marker ∈ markers) (isSign : sign ∈ signs) (nonempty : ds ≠ [])
    (read : appendDigits 0 ds = .ok n) :
    ∃ m : Numeral, m.text = String.ofList (marker ++ (sign ++ ds)) ∧
      m.value < UInt64.size ∧ n = m.value := by
  obtain ⟨values, isDigits⟩ := exists_values_of_appendDigits read
  rw [appendDigits_eq isDigits (by decide), Nat.zero_mul, Nat.zero_add] at read
  dsimp only at read
  split at read
  · next fits =>
    cases read
    exact ⟨⟨marker, sign, ds, values, isMarker, isSign, nonempty, isDigits⟩, rfl, fits, rfl⟩
  · cases read

/-- Exactly the numerals with values of 64 bits are read, and as their values. -/
theorem read_eq_ok_iff :
    read text = .ok a ↔
      ∃ m : Numeral, m.text = text ∧ m.value < UInt64.size ∧ a.raw.toNat = m.value := by
  constructor
  · intro known
    unfold read at known
    split at known
    · next n number =>
      cases known
      obtain ⟨marker, isMarker, whole⟩ := exists_marker text.toList
      obtain ⟨sign, isSign, ds, rest, nonempty, digits⟩ := exists_sign_of_readNumber number
      obtain ⟨m, isText, fits, rfl⟩ := exists_numeral isMarker isSign nonempty digits
      rw [← rest, ← whole, String.ofList_toList] at isText
      exact ⟨m, isText, fits, UInt64.toNat_ofNat_of_lt fits⟩
    · cases known
  · rintro ⟨m, rfl, fits, same⟩
    rw [read_text, if_pos fits, ← same, UInt64.ofNat_toNat]

example : read "0X+000000000000000000FfFfFfFfFfFfFfFf" = .ok ⟨0xffffffffffffffff⟩ := rfl

theorem significant_ne_nil (n : Nat) : Hex.significant n ≠ [] := by
  unfold Hex.significant
  split <;> simp_all

theorem read_toHex (a : Address) : read a.toHex = .ok a := by
  have bound : a.raw.toNat < 16 ^ 16 := a.raw.toNat_lt
  have isMarker : [] ∈ markers := mem_markers_iff.mpr (.inl rfl)
  have isSign : [] ∈ signs := mem_signs_iff.mpr (.inl rfl)
  obtain ⟨m, isText, fits, same⟩ :=
    exists_numeral isMarker isSign (significant_ne_nil _) (appendDigits_significant bound)
  rw [List.nil_append, List.nil_append] at isText
  exact read_eq_ok_iff.mpr ⟨m, isText, fits, same⟩

end RuntimeStubs.Address
