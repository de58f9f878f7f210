import RuntimeStubs.Address

/-! Reading addresses as a person writes them: hexadecimal digits of either case, behind an optional
`0x` or `0X` and an optional plus sign, with a value below `2 ^ 64`. -/

set_option autoImplicit false

namespace RuntimeStubs

inductive NumberFault where
  | empty
  | invalidDigit
  | tooLarge
  deriving DecidableEq, Repr

def NumberFault.message : NumberFault → String
  | empty => "cannot parse integer from empty string"
  | invalidDigit => "invalid digit found in string"
  | tooLarge => "number too large to fit in target type"

namespace Address

/-- Appends digits to a value. The first character that is no digit, or for which there is no room
left, is reported. -/
def appendDigits : Nat → List Char → Except NumberFault Nat
  | value, [] => .ok value
  | value, c :: rest =>
    match Hex.digit? c with
    | none => .error .invalidDigit
    | some digit =>
      if UInt64.size ≤ value * 16 + digit then .error .tooLarge
      else appendDigits (value * 16 + digit) rest

def dropMarker : List Char → List Char
  | '0' :: 'x' :: rest => rest
  | '0' :: 'X' :: rest => rest
  | cs => cs

/-- The value of digits behind an optional plus sign. A sign alone is no number. -/
def readNumber : List Char → Except NumberFault Nat
  | [] => .error .empty
  | ['+'] => .error .invalidDigit
  | '+' :: digits => appendDigits 0 digits
  | digits => appendDigits 0 digits

def read (text : String) : Except NumberFault Address :=
  match readNumber (dropMarker text.toList) with
  | .ok value => .ok ⟨UInt64.ofNat value⟩
  | .error fault => .error fault

end Address

end RuntimeStubs
