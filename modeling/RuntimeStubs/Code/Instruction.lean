import RuntimeStubs.Text
import RuntimeStubs.Hex

/-! The machine instructions that stubs are made of: their encoding, its inverse, and their text.

The two instructions that move the stack pointer carry a signed immediate. It is encoded in one byte
if it fits and in four otherwise; `decode?` accepts both forms of every immediate. -/

set_option autoImplicit false

namespace RuntimeStubs

inductive Instruction where
  | nop
  | int3
  | ret
  | mfence
  | pushRbp
  | popRbp
  | movRaxRcx
  | movRcxRdx
  | movRbpRsp
  | xorEaxEax
  | callRdx
  | leaRaxRsp8
  | stmxcsrRsp
  | movEaxRsp
  | saveRdi
  | restoreRdi
  | subRsp (amount : Int32)
  | addRsp (amount : Int32)
  deriving DecidableEq, Repr

namespace Instruction

def wordBytes (word : UInt32) : List UInt8 :=
  [UInt8.ofNat word.toNat, UInt8.ofNat (word.toNat / 0x100), UInt8.ofNat (word.toNat / 0x10000),
    UInt8.ofNat (word.toNat / 0x1000000)]

def word (a b c d : UInt8) : UInt32 :=
  UInt32.ofNat (a.toNat + b.toNat * 0x100 + c.toNat * 0x10000 + d.toNat * 0x1000000)

theorem word_wordBytes (w : UInt32) :
    word (UInt8.ofNat w.toNat) (UInt8.ofNat (w.toNat / 0x100)) (UInt8.ofNat (w.toNat / 0x10000))
      (UInt8.ofNat (w.toNat / 0x1000000)) = w := by
  have bound : w.toNat < UInt32.size := w.toNat_lt
  simp only [UInt32.size] at bound
  apply UInt32.toNat_inj.mp
  simp only [word, UInt32.toNat_ofNat', UInt8.toNat_ofNat']
  omega

def isShort (amount : Int32) : Bool := -128 ≤ amount.toInt && amount.toInt ≤ 127

/-- The operation code with register for a move of the stack pointer, and its immediate. -/
def adjustment (register : UInt8) (amount : Int32) : List UInt8 :=
  if isShort amount then [0x48, 0x83, register, UInt8.ofNat amount.toUInt32.toNat]
  else [0x48, 0x81, register] ++ wordBytes amount.toUInt32

def bytes : Instruction → List UInt8
  | nop => [0x90]
  | int3 => [0xcc]
  | ret => [0xc3]
  | mfence => [0x0f, 0xae, 0xf0]
  | pushRbp => [0x55]
  | popRbp => [0x5d]
  | movRaxRcx => [0x48, 0x89, 0xc8]
  | movRcxRdx => [0x48, 0x89, 0xd1]
  | movRbpRsp => [0x48, 0x89, 0xe5]
  | xorEaxEax => [0x31, 0xc0]
  | callRdx => [0xff, 0xd2]
  | leaRaxRsp8 => [0x48, 0x8d, 0x44, 0x24, 0x08]
  | stmxcsrRsp => [0x0f, 0xae, 0x1c, 0x24]
  | movEaxRsp => [0x8b, 0x04, 0x24]
  | saveRdi => [0x48, 0x89, 0x7d, 0xf8]
  | restoreRdi => [0x48, 0x8b, 0x7d, 0xf8]
  | subRsp amount => adjustment 0xec amount
  | addRsp amount => adjustment 0xc4 amount

def plain : List Instruction :=
  [nop, int3, ret, mfence, pushRbp, popRbp, movRaxRcx, movRcxRdx, movRbpRsp, xorEaxEax, callRdx,
    leaRaxRsp8, stmxcsrRsp, movEaxRsp, saveRdi, restoreRdi]

/-- Reads a move of the stack pointer and tells how many bytes it takes. -/
def decodeAdjustment? : List UInt8 → Option (Instruction × Nat)
  | 0x48 :: 0x83 :: register :: a :: _ => (moved register a.toInt8.toInt32).map (·, 4)
  | 0x48 :: 0x81 :: register :: a :: b :: c :: d :: _ =>
    (moved register (word a b c d).toInt32).map (·, 7)
  | _ => none
where
  moved (register : UInt8) (amount : Int32) : Option Instruction :=
    if register = 0xec then some (subRsp amount)
    else if register = 0xc4 then some (addRsp amount)
    else none

def decode? (code : List UInt8) : Option (Instruction × Nat) :=
  match plain.find? fun instruction => instruction.bytes.isPrefixOf code with
  | some instruction => some (instruction, instruction.bytes.length)
  | none => decodeAdjustment? code

/-- A single digit below ten; otherwise hexadecimal digits that start with a decimal one,
and `h`. -/
def immediateText (n : Nat) : String :=
  if n < 10 then toString n
  else
    let digits := (Hex.significant n).map Char.toUpper
    let lead := if digits.head?.any Char.isAlpha then ['0'] else []
    String.ofList (lead ++ digits ++ ['h'])

/-- The immediate as the processor reads it: extended to 64 bits with its sign. -/
def extended (amount : Int32) : UInt64 := amount.toInt64.toUInt64

def parts : Instruction → String × String
  | nop => ("nop", "")
  | int3 => ("int3", "")
  | ret => ("ret", "")
  | mfence => ("mfence", "")
  | pushRbp => ("push", "rbp")
  | popRbp => ("pop", "rbp")
  | movRaxRcx => ("mov", "rax,rcx")
  | movRcxRdx => ("mov", "rcx,rdx")
  | movRbpRsp => ("mov", "rbp,rsp")
  | xorEaxEax => ("xor", "eax,eax")
  | callRdx => ("call", "rdx")
  | leaRaxRsp8 => ("lea", "rax,[rsp+8]")
  | stmxcsrRsp => ("stmxcsr", "[rsp]")
  | movEaxRsp => ("mov", "eax,[rsp]")
  | saveRdi => ("mov", "[rbp-8],rdi")
  | restoreRdi => ("mov", "rdi,[rbp-8]")
  | subRsp amount => ("sub", "rsp," ++ immediateText (extended amount).toNat)
  | addRsp amount => ("add", "rsp," ++ immediateText (extended amount).toNat)

/-- Operands start in the ninth column. -/
def toText (instruction : Instruction) : String :=
  let (mnemonic, operands) := instruction.parts
  if operands = "" then mnemonic else Text.padRight 8 mnemonic ++ operands

end Instruction

end RuntimeStubs
