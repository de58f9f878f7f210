import RuntimeStubs.Pattern.CharSet

/-! The bytes in which the characters of a set are encoded, as sequences of ranges of bytes.

A run of characters is cut until one sequence of ranges stands for it: at the lengths of encodings,
and where all values of the bytes behind a first one are taken. -/

set_option autoImplicit false

namespace RuntimeStubs.Pattern

abbrev ByteRange := Nat × Nat

def codePoint (n : Nat) : Nat := if n < 0xD800 then n else n + 0x800

def encoding (c : Nat) : List Nat :=
  if c < 0x80 then [c]
  else if c < 0x800 then [0xC0 + c / 0x40, 0x80 + c % 0x40]
  else if c < 0x10000 then [0xE0 + c / 0x1000, 0x80 + c / 0x40 % 0x40, 0x80 + c % 0x40]
  else [0xF0 + c / 0x40000, 0x80 + c / 0x1000 % 0x40, 0x80 + c / 0x40 % 0x40, 0x80 + c % 0x40]

/-- Where a run of code points has to be cut first: the last one of the part in front. -/
def cut? (low high : Nat) : Option Nat :=
  ([0x7F, 0x7FF, 0xD7FF, 0xFFFF].find? fun last => low ≤ last && last < high).or
    (if high < 0x80 then none else [0x40, 0x1000, 0x40000].findSome? (atBlock low high))
where
  /-- A cut at the end of the block of the first code point, or in front of the block of the last
  one, when the run covers parts of several blocks. -/
  atBlock (low high size : Nat) : Option Nat :=
    if low / size = high / size then none
    else if low % size ≠ 0 then some (low / size * size + size - 1)
    else if high % size ≠ size - 1 then some (high / size * size - 1)
    else none

/-- The sequences of a run of code points that is cut at most so often in a row. -/
def sequencesOf : Nat → Nat → Nat → List (List ByteRange)
  | 0, low, high => [(encoding low).zip (encoding high)]
  | fuel + 1, low, high =>
    match cut? low high with
    | none => [(encoding low).zip (encoding high)]
    | some last => sequencesOf fuel low last ++ sequencesOf fuel (last + 1) high

/-- The code points between the surrogates and what lies in front of them and behind them. -/
def CharSet.byteSequences (s : CharSet) : List (List ByteRange) :=
  s.ranges.flatMap fun r => (aroundSurrogates r).flatMap fun run => sequencesOf 32 run.1 run.2
where
  aroundSurrogates (r : Nat × Nat) : List (Nat × Nat) :=
    if r.1 < 0xD800 ∧ 0xD800 ≤ r.2 then [(r.1, 0xD7FF), (0xE000, codePoint r.2)]
    else [(codePoint r.1, codePoint r.2)]

end RuntimeStubs.Pattern
