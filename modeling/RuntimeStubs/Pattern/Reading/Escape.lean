import RuntimeStubs.Pattern.Cursor
import RuntimeStubs.Pattern.Tree

/-! Reading what stands behind a backslash, and single characters. -/

set_option autoImplicit false

namespace RuntimeStubs.Pattern.Reading

/-- Characters that mean something in a pattern. An escaped one stands for itself. -/
def isSpecial (c : Char) : Bool := "\\.+*?()|[]\x7b\x7d^$#&-~".toList.contains c

/-- Characters that stand for themselves when they are escaped: those of ASCII that are neither
letters nor digits nor the marks of the ends of words. -/
def isEscapable (c : Char) : Bool :=
  isSpecial c || (c ≤ '\x7f' && !c.isAlphanum && c != '<' && c != '>')

def isHexDigit (c : Char) : Bool := c.isDigit || ('a' ≤ c && c ≤ 'f') || ('A' ≤ c && c ≤ 'F')

def hexDigitValue (c : Char) : Nat :=
  if c.isDigit then c.toNat - '0'.toNat
  else if c < 'a' then c.toNat - 'A'.toNat + 10
  else c.toNat - 'a'.toNat + 10

def charOfHex? (digits : List Char) : Option Char :=
  let number := digits.foldl (fun n c => n * 16 + hexDigitValue c) 0
  if number.isValidChar then some (Char.ofNat number) else none

def hexDigits : Nat → Reading (List Char)
  | 0 => return []
  | count + 1 => do
    match ← current? with
    | none => fail (.point (← position)) .escapeUnfinished
    | some c =>
      if isHexDigit c then
        step
        return c :: (← hexDigits count)
      else fail (← charSpan) .hexDigitInvalid

/-- The number of a character in hexadecimal digits: in braces, or in as many digits as the letter
in front of them says. The cursor is at that letter. -/
def hexLiteral (start : Position) (letter : Char) : Reading Literal := do
  step
  match ← current? with
  | none => fail (.point (← position)) .escapeUnfinished
  | some '\x7b' =>
    let brace ← position
    let first := brace.after '\x7b'
    step
    let digits ← collect isHexDigit
    match ← current? with
    | none => fail (← since brace) .escapeUnfinished
    | some '\x7d' =>
      let numeral ← since first
      step
      if digits.isEmpty then fail (← since brace) .hexEmpty
      match charOfHex? digits with
      | none => fail numeral .hexInvalid
      | some c => return ⟨← since start, c, false⟩
    | some _ => fail (← charSpan) .hexDigitInvalid
  | some _ =>
    let first ← position
    let digits ← hexDigits (if letter = 'x' then 2 else if letter = 'u' then 4 else 8)
    match charOfHex? digits with
    | none => fail (← since first) .hexInvalid
    | some c => return ⟨← since start, c, letter = 'x'⟩

def hasValue : List Char → Bool
  | [] => false
  | '!' :: '=' :: _ => true
  | c :: rest => c == ':' || c == '=' || hasValue rest

/-- The property of characters that a class is made of. The cursor is at the letter in front. -/
def property (start : Position) : Reading Property := do
  step
  match ← current? with
  | none => fail (.point (← position)) .escapeUnfinished
  | some '\x7b' =>
    step
    let name ← collect (· != '\x7d')
    match ← current? with
    | none => fail (.point (← position)) .escapeUnfinished
    | some _ =>
      next
      return ⟨← since start, name, hasValue name⟩
  | some '\\' => fail (← charSpan) .propertyInvalid
  | some c =>
    step
    return ⟨← since start, [c], false⟩

def shorthandMembers? (letter : Char) : Option NamedClass :=
  match letter.toLower with
  | 'd' => some .digit
  | 's' => some .space
  | 'w' => some .word
  | _ => none

def edgeOfName? (name : List Char) : Option WordEdge :=
  [("start", WordEdge.first), ("end", .last), ("start-half", .beforeFirst),
    ("end-half", .behindLast)].lookup (String.ofList name)

/-- The name in braces behind the mark of a word boundary, unless the braces hold a count. The
cursor is at the brace. -/
def namedEdge? (start : Position) : Reading (Option WordEdge) := do
  let before ← get
  let brace ← position
  step
  let first ← position
  match ← current? with
  | none => fail (← since start) .boundaryOrCountUnclosed
  | some c =>
    if isNamePart c then
      let name ← collect isNamePart
      if (← current?) ≠ some '\x7d' then fail (← since brace) .boundaryUnclosed
      let span ← since first
      next
      match edgeOfName? name with
      | none => fail span .boundaryUnrecognised
      | some edge => return some edge
    else
      set before
      return none
where
  isNamePart (c : Char) : Bool := c.isAlpha || c == '-'

def controlOfLetter? (letter : Char) : Option Char :=
  [('a', '\x07'), ('f', '\x0c'), ('t', '\t'), ('n', '\n'), ('r', '\r'), ('v', '\x0b')].lookup letter

def assertionOfLetter? (letter : Char) : Option Assertion :=
  [('A', Assertion.textStart), ('z', .textEnd), ('b', .word .boundary), ('B', .word .inside),
    ('<', .word .first), ('>', .word .last)].lookup letter

def escape : Reading Tree := do
  let start ← position
  next
  match ← current? with
  | none => fail (← since start) .escapeUnfinished
  | some c =>
    if c.isDigit then fail ⟨start, (← charSpan).stop⟩ .backreference
    if c = 'x' ∨ c = 'u' ∨ c = 'U' then return .literal (← hexLiteral start c)
    if c = 'p' ∨ c = 'P' then
      return .property (← property start)
    next
    let span ← since start
    if let some members := shorthandMembers? c then
      return .shorthand ⟨span, members, c.isUpper⟩
    if isEscapable c then return .literal ⟨span, c, false⟩
    if let some control := controlOfLetter? c then return .literal ⟨span, control, false⟩
    match assertionOfLetter? c with
    | none => fail span .escapeUnrecognised
    | some (.word .boundary) =>
      let edge ← if (← current?) = some '\x7b' then namedEdge? start else pure none
      return .assertion (← since start) (.word (edge.getD .boundary))
    | some assertion => return .assertion span assertion

def plain (c : Char) : Reading Literal := do
  let span ← charSpan
  next
  return ⟨span, c, false⟩

end RuntimeStubs.Pattern.Reading
