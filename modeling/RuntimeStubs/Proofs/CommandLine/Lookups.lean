import RuntimeStubs.Proofs.Address.Numerals
import RuntimeStubs.Proofs.CommandLine.Asking

/-! Which look-ups can be asked for.

The value of a look-up is a numeral of 64 bits, or the program ends with a message that names what
it was given instead. Main statement (`lookup_read`): exactly these texts are read, as the addresses
that they are numerals of, and the own texts of an address are among them. -/

set_option autoImplicit false

namespace RuntimeStubs.CommandLine

open Address (Numeral)

def refusal (text : String) (fault : NumberFault) : String :=
  "invalid address " ++ text ++ ": " ++ fault.message

theorem message_invalidAddress (text : String) (fault : NumberFault) :
    (UsageFault.invalidAddress text fault).message =
      "invalid value '" ++ Text.emphasised text ++ "' for '" ++ Text.emphasised "--lookup <PC>" ++
        "': " ++ refusal text fault := by
  have regroup (front middle last : String) :
      front ++ (middle ++ last) ++ text ++ ": " ++ fault.message =
        front ++ middle ++ (last ++ text ++ ": " ++ fault.message) := by
    simp only [String.append_assoc]
  exact regroup _ "': " "invalid address "

theorem parse_lookup (text : String) :
    Arguments.parse ["--lookup=" ++ text] =
      match Address.read text with
      | .ok a => .ok ⟨⟨false, false, false⟩, [a], 0⟩
      | .error fault => .error (.mistake (.invalidAddress text fault)) := by
  have ready : Arguments.State.start.Open := ⟨rfl, rfl⟩
  rw [Arguments.parse, Arguments.meetAll, Arguments.meetArgument_lookup ready, Arguments.addLookup]
  cases Address.read text <;> rfl

/-- A text is read as the address that it is a numeral of. Every other text is refused, with a
message that names it. Both ways to write an address are read as that address. -/
theorem lookup_read (text : String) :
    (∀ a, Address.read text = .ok a ↔
      ∃ m : Numeral, m.text = text ∧ m.value < UInt64.size ∧ a.raw.toNat = m.value) ∧
    (∀ a, Address.read text = .ok a →
      Arguments.parse ["--lookup=" ++ text] = .ok ⟨⟨false, false, false⟩, [a], 0⟩) ∧
    ((∀ m : Numeral, m.text = text → UInt64.size ≤ m.value) → ∃ fault,
      Address.read text = .error fault ∧
      ((∃ m : Numeral, m.text = text) → fault = .tooLarge) ∧
      Arguments.parse ["--lookup=" ++ text] = .error (.mistake (.invalidAddress text fault)) ∧
      (UsageFault.invalidAddress text fault).message =
        "invalid value '" ++ Text.emphasised text ++ "' for '" ++ Text.emphasised "--lookup <PC>" ++
          "': " ++ refusal text fault) ∧
    ∀ a : Address, text = a.toText ∨ text = a.toHex → Address.read text = .ok a := by
  refine ⟨fun a => Address.read_eq_ok_iff, fun a known => ?_, fun none => ?_, ?_⟩
  · rw [parse_lookup, known]
  · cases known : Address.read text with
    | ok a =>
      obtain ⟨m, isText, fits, -⟩ := Address.read_eq_ok_iff.mp known
      exact absurd fits (Nat.not_lt.mpr (none m isText))
    | error fault =>
      refine ⟨fault, rfl, ?_, by rw [parse_lookup, known], message_invalidAddress text fault⟩
      rintro ⟨m, rfl⟩
      rw [Address.read_text, if_neg (Nat.not_lt.mpr (none m rfl))] at known
      exact (Except.error.inj known).symm
  · rintro a (rfl | rfl)
    · exact Address.read_toText a
    · exact Address.read_toHex a

theorem lookup_read_letters :
    (∀ m : Numeral, m.text = "0xzz" → UInt64.size ≤ m.value) ∧
    ∃ fault, Arguments.parse ["--lookup=" ++ "0xzz"] =
        .error (.mistake (.invalidAddress "0xzz" fault)) ∧
      refusal "0xzz" fault = "invalid address 0xzz: invalid digit found in string" := by
  have read : Address.read "0xzz" = .error .invalidDigit := rfl
  have none : ∀ m : Numeral, m.text = "0xzz" → UInt64.size ≤ m.value := by
    intro m isText
    by_contra fits
    have known := Address.read_text m
    rw [if_pos (Nat.not_le.mp fits), isText, read] at known
    cases known
  obtain ⟨-, -, refused, -⟩ := lookup_read "0xzz"
  obtain ⟨fault, isFault, -, ends, -⟩ := refused none
  obtain rfl : .invalidDigit = fault := Except.error.inj (read.symm.trans isFault)
  exact ⟨none, .invalidDigit, ends, by decide⟩

end RuntimeStubs.CommandLine
