import RuntimeStubs.Hex

/-! Code addresses. They are ordered, compared and written down, never followed; a plain 64-bit
number therefore outlives the process that produced it. -/

set_option autoImplicit false

namespace RuntimeStubs

structure Address where
  raw : UInt64
  deriving DecidableEq, Repr, Inhabited

namespace Address

def null : Address := ⟨0⟩

def isNull (a : Address) : Bool := a.raw == 0

instance : LT Address := ⟨fun a b => a.raw < b.raw⟩

instance : LE Address := ⟨fun a b => a.raw ≤ b.raw⟩

instance (a b : Address) : Decidable (a < b) := inferInstanceAs (Decidable (a.raw < b.raw))

instance (a b : Address) : Decidable (a ≤ b) := inferInstanceAs (Decidable (a.raw ≤ b.raw))

theorem lt_iff {a b : Address} : a < b ↔ a.raw.toNat < b.raw.toNat := UInt64.lt_iff_toNat_lt

theorem le_iff {a b : Address} : a ≤ b ↔ a.raw.toNat ≤ b.raw.toNat := UInt64.le_iff_toNat_le

def compare (a b : Address) : Ordering := Ord.compare a.raw b.raw

def offsetFrom (a base : Address) : Option Nat :=
  if base ≤ a then some (a.raw.toNat - base.raw.toNat) else none

/-- Addresses wrap around at the end of the 64-bit space. -/
def add (a : Address) (offset : Nat) : Address := ⟨a.raw + UInt64.ofNat offset⟩

@[simp] theorem toNat_add (a : Address) (offset : Nat) :
    (a.add offset).raw.toNat = (a.raw.toNat + offset) % UInt64.size := by
  simp [add, UInt64.toNat_add, UInt64.size]

theorem toNat_add_of_lt {a : Address} {offset : Nat}
    (inside : a.raw.toNat + offset < UInt64.size) :
    (a.add offset).raw.toNat = a.raw.toNat + offset := by
  rw [toNat_add, Nat.mod_eq_of_lt inside]

theorem offsetFrom_add {a : Address} {offset : Nat}
    (inside : a.raw.toNat + offset < UInt64.size) : (a.add offset).offsetFrom a = some offset := by
  rw [offsetFrom, if_pos, toNat_add_of_lt inside, Nat.add_sub_cancel_left]
  rw [le_iff, toNat_add_of_lt inside]
  exact Nat.le_add_right ..

def toText (a : Address) : String := String.ofList ('0' :: 'x' :: Hex.digits 16 a.raw.toNat)

instance : ToString Address := ⟨toText⟩

def toHex (a : Address) : String := String.ofList (Hex.significant a.raw.toNat)

def toShortText (a : Address) : String :=
  String.ofList ('0' :: 'x' :: Hex.significant a.raw.toNat)

def toPaddedHex (width : Nat) (a : Address) : String :=
  String.ofList (Hex.padded width (Hex.significant a.raw.toNat))

end Address

end RuntimeStubs
