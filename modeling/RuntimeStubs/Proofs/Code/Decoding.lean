import RuntimeStubs.Code.Listing

/-! The code of an instruction is read in one way only.

`Encodes` lists the byte strings that stand for an instruction; a move of the stack pointer has a
short and a long one. Main statement (`decode?_eq_some_iff`): an instruction is read from code if
and only if the code starts with one of its encodings. Hence no encoding is the beginning of another
one (`Encodes.eq_of_prefix`), and nothing is read where an encoding has been cut off
(`decode?_of_truncated`). -/

set_option autoImplicit false

namespace RuntimeStubs.Instruction

def moves : List (UInt8 × (Int32 → Instruction)) := [(0xec, subRsp), (0xc4, addRsp)]

/-- The immediate of a move is one signed byte or a signed word, whether or not a byte would do. -/
inductive Encodes : Instruction → List UInt8 → Prop
  | plain {i : Instruction} : i ∈ plain → Encodes i i.bytes
  | short {register : UInt8} {move : Int32 → Instruction} (a : UInt8) : (register, move) ∈ moves →
    Encodes (move a.toInt8.toInt32) [0x48, 0x83, register, a]
  | long {register : UInt8} {move : Int32 → Instruction} (a b c d : UInt8) :
    (register, move) ∈ moves →
    Encodes (move (word a b c d).toInt32) [0x48, 0x81, register, a, b, c, d]

variable {i j : Instruction} {bytes code first second : List UInt8} {length : Nat}

/-! ### Immediates -/

theorem toInt_toInt8 (a : UInt8) : a.toInt8.toInt = Int.bmod a.toNat 0x100 :=
  BitVec.toInt_eq_toNat_bmod _

theorem toInt_eq_bmod (amount : Int32) :
    amount.toInt = Int.bmod amount.toUInt32.toNat 0x100000000 :=
  BitVec.toInt_eq_toNat_bmod _

theorem isShort_iff {amount : Int32} :
    isShort amount = true ↔ -128 ≤ amount.toInt ∧ amount.toInt ≤ 127 := by
  simp [isShort]

theorem extend_lowByte {amount : Int32} (short : isShort amount = true) :
    (UInt8.ofNat amount.toUInt32.toNat).toInt8.toInt32 = amount := by
  obtain ⟨low, high⟩ := isShort_iff.mp short
  have whole := toInt_eq_bmod amount
  rw [← Int32.toInt_inj, Int8.toInt_toInt32, toInt_toInt8, UInt8.toNat_ofNat']
  rw [Int.bmod_def] at whole ⊢
  omega

/-! ### Encodings -/

theorem encodes_adjustment {register : UInt8} {move : Int32 → Instruction}
    (isMove : (register, move) ∈ moves) (amount : Int32) :
    Encodes (move amount) (adjustment register amount) := by
  unfold adjustment
  split
  · next fits =>
    have short := Encodes.short (UInt8.ofNat amount.toUInt32.toNat) isMove
    rwa [extend_lowByte fits] at short
  · have long := Encodes.long (UInt8.ofNat amount.toUInt32.toNat)
      (UInt8.ofNat (amount.toUInt32.toNat / 0x100))
      (UInt8.ofNat (amount.toUInt32.toNat / 0x10000))
      (UInt8.ofNat (amount.toUInt32.toNat / 0x1000000)) isMove
    rwa [word_wordBytes, Int32.toInt32_toUInt32] at long

theorem encodes_bytes (i : Instruction) : Encodes i i.bytes := by
  cases i with
  | subRsp amount => exact encodes_adjustment (List.mem_cons_self ..) amount
  | addRsp amount => exact encodes_adjustment (List.mem_cons_of_mem _ (List.mem_cons_self ..)) amount
  | _ => exact .plain (by decide)

theorem Encodes.length_pos (encodes : Encodes i bytes) : 0 < bytes.length := by
  cases encodes with
  | plain member => exact Listing.plain_bytes_ne_nil member
  | short | long => exact Nat.succ_pos _

theorem plain_length_le (member : i ∈ plain) : i.bytes.length ≤ 5 := by
  revert i
  decide

theorem Encodes.length_le (encodes : Encodes i bytes) : bytes.length ≤ 7 := by
  cases encodes with
  | plain member => exact Nat.le_trans (plain_length_le member) (by decide)
  | short | long => simp

/-! ### Reading one instruction -/

-- No plain encoding agrees with the first bytes of another one or of a move, so the search through
-- the table is decided before it comes to what follows.
theorem decode?_append (encodes : Encodes i bytes) (rest : List UInt8) :
    decode? (bytes ++ rest) = some (i, bytes.length) := by
  cases encodes with
  | plain member =>
    cases i with
    | subRsp | addRsp => simp [plain] at member
    | _ => rfl
  | short a isMove | long a b c d isMove =>
    simp only [moves, List.mem_cons, List.not_mem_nil, or_false, Prod.mk.injEq] at isMove
    rcases isMove with ⟨rfl, rfl⟩ | ⟨rfl, rfl⟩ <;> rfl

theorem mem_moves_of_moved {register : UInt8} {amount : Int32}
    (moved : decodeAdjustment?.moved register amount = some i) :
    ∃ move, (register, move) ∈ moves ∧ i = move amount := by
  unfold decodeAdjustment?.moved at moved
  split at moved
  · next isSub =>
    cases moved
    exact ⟨subRsp, by simp [moves, isSub], rfl⟩
  · split at moved
    · next isAdd =>
      cases moved
      exact ⟨addRsp, by simp [moves, isAdd], rfl⟩
    · cases moved

theorem encodes_of_decodeAdjustment? (read : decodeAdjustment? code = some (i, length)) :
    ∃ bytes rest, code = bytes ++ rest ∧ bytes.length = length ∧ Encodes i bytes := by
  unfold decodeAdjustment? at read
  split at read
  · next register a rest =>
    obtain ⟨_, moved, same⟩ := Option.map_eq_some_iff.mp read
    cases same
    obtain ⟨move, isMove, rfl⟩ := mem_moves_of_moved moved
    exact ⟨[0x48, 0x83, register, a], rest, rfl, rfl, .short a isMove⟩
  · next register a b c d rest =>
    obtain ⟨_, moved, same⟩ := Option.map_eq_some_iff.mp read
    cases same
    obtain ⟨move, isMove, rfl⟩ := mem_moves_of_moved moved
    exact ⟨[0x48, 0x81, register, a, b, c, d], rest, rfl, rfl, .long a b c d isMove⟩
  · cases read

theorem encodes_of_decode? (read : decode? code = some (i, length)) :
    ∃ bytes rest, code = bytes ++ rest ∧ bytes.length = length ∧ Encodes i bytes := by
  unfold decode? at read
  split at read
  · next j found =>
    cases read
    have starts : i.bytes.isPrefixOf code = true :=
      List.find?_some (p := fun j : Instruction => j.bytes.isPrefixOf code) found
    obtain ⟨rest, whole⟩ := List.isPrefixOf_iff_prefix.mp starts
    exact ⟨i.bytes, rest, whole.symm, rfl, .plain (List.mem_of_find?_eq_some found)⟩
  · exact encodes_of_decodeAdjustment? read

theorem decode?_eq_some_iff :
    decode? code = some (i, length) ↔
      ∃ bytes rest, code = bytes ++ rest ∧ bytes.length = length ∧ Encodes i bytes := by
  constructor
  · exact encodes_of_decode?
  · rintro ⟨bytes, rest, rfl, rfl, encodes⟩
    exact decode?_append encodes rest

/-- The encodings are those of a prefix code. -/
theorem Encodes.eq_of_prefix (one : Encodes i first) (other : Encodes j second)
    (starts : first <+: second) : i = j ∧ first = second := by
  obtain ⟨rest, rfl⟩ := starts
  have read := decode?_append other []
  rw [List.append_nil, decode?_append one, Option.some.injEq, Prod.mk.injEq] at read
  have nothing : rest = [] := by
    rw [← List.length_eq_zero_iff]
    simpa using read.2
  rw [nothing, List.append_nil]
  exact ⟨read.1, rfl⟩

/-! ### Code that stops short -/

def Truncated (code : List UInt8) : Prop :=
  code ≠ [] ∧ ∃ i bytes, Encodes i bytes ∧ code <+: bytes ∧ code ≠ bytes

theorem Truncated.length_le (cut : Truncated code) : code.length ≤ 7 := by
  obtain ⟨-, i, bytes, encodes, starts, -⟩ := cut
  exact Nat.le_trans starts.length_le encodes.length_le

theorem decode?_of_truncated (cut : Truncated code) : decode? code = none := by
  obtain ⟨-, i, bytes, encodes, starts, differ⟩ := cut
  refine Option.eq_none_iff_forall_not_mem.mpr ?_
  rintro ⟨j, length⟩ read
  obtain ⟨shorter, rest, rfl, -, complete⟩ := encodes_of_decode? read
  have whole := (complete.eq_of_prefix encodes (List.IsPrefix.trans ⟨rest, rfl⟩ starts)).2
  rw [← whole] at starts differ
  exact differ (starts.eq_of_length_le (by simp))

end RuntimeStubs.Instruction
