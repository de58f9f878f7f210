/-! Hexadecimal text of numbers and bytes.

`digits` writes a number in a fixed number of places and `significant` without leading zeros.
`digit?` reads one digit of either case, `bytes?` a sequence of bytes written two digits each, and
`bytes?_ofBytes` says that it undoes `ofBytes`. -/

set_option autoImplicit false

namespace RuntimeStubs.Hex

def digits : Nat → Nat → List Char
  | 0, _ => []
  | width + 1, n => digits width (n / 16) ++ [Nat.digitChar (n % 16)]

@[simp] theorem length_digits (width n : Nat) : (digits width n).length = width := by
  induction width generalizing n with
  | zero => rfl
  | succ width ih => simp [digits, ih]

/-- The digits of a number below `16 ^ 16`, of which at least one is kept. -/
def significant (n : Nat) : List Char :=
  match (digits 16 n).dropWhile (· == '0') with
  | [] => ['0']
  | ds => ds

def padded (width : Nat) (ds : List Char) : List Char :=
  List.replicate (width - ds.length) '0' ++ ds

def digit? (c : Char) : Option Nat :=
  if '0' ≤ c ∧ c ≤ '9' then some (c.toNat - '0'.toNat)
  else if 'a' ≤ c ∧ c ≤ 'f' then some (c.toNat - 'a'.toNat + 10)
  else if 'A' ≤ c ∧ c ≤ 'F' then some (c.toNat - 'A'.toNat + 10)
  else none

theorem digit?_digitChar {n : Nat} (h : n < 16) : digit? (Nat.digitChar n) = some n := by
  revert n
  decide

theorem digit?_lt {c : Char} {n : Nat} (h : digit? c = some n) : n < 16 := by
  have size (a : Char) : a.toNat = a.val.toNat := rfl
  simp only [digit?, Char.le_def, UInt32.le_iff_toNat_le, size] at h
  split at h
  · have := Option.some.inj h
    simp at *
    omega
  · split at h
    · have := Option.some.inj h
      simp at *
      omega
    · split at h
      · have := Option.some.inj h
        simp at *
        omega
      · simp at h

def ofBytes (bytes : List UInt8) : List Char := bytes.flatMap fun byte => digits 2 byte.toNat

def bytes? : List Char → Option (List UInt8)
  | [] => some []
  | [_] => none
  | high :: low :: rest =>
    match digit? high, digit? low, bytes? rest with
    | some high, some low, some rest => some (UInt8.ofNat (high * 16 + low) :: rest)
    | _, _, _ => none

theorem ofBytes_append (first second : List UInt8) :
    ofBytes (first ++ second) = ofBytes first ++ ofBytes second := by
  simp [ofBytes]

theorem bytes?_ofBytes (bytes : List UInt8) : bytes? (ofBytes bytes) = some bytes := by
  induction bytes with
  | nil => rfl
  | cons byte rest ih =>
    have bound : byte.toNat < 256 := byte.toNat_lt
    have low : digit? (Nat.digitChar (byte.toNat % 16)) = some (byte.toNat % 16) :=
      digit?_digitChar (Nat.mod_lt _ (by omega))
    have high : digit? (Nat.digitChar (byte.toNat / 16 % 16)) = some (byte.toNat / 16) := by
      rw [digit?_digitChar (Nat.mod_lt _ (by omega)), Nat.mod_eq_of_lt (by omega)]
    have joined : byte.toNat / 16 * 16 + byte.toNat % 16 = byte.toNat := by omega
    have unfolded : ofBytes (byte :: rest) = Nat.digitChar (byte.toNat / 16 % 16) ::
        Nat.digitChar (byte.toNat % 16) :: ofBytes rest := by
      simp [ofBytes, digits]
    rw [unfolded, bytes?, high, low, ih]
    simp [joined]

end RuntimeStubs.Hex
