import RuntimeStubs.Sorting
import RuntimeStubs.Text

/-! What is wrong with the text of a pattern, where, and how it is shown.

A complaint names a flaw and the part of the pattern that has it. `Complaint.report` shows the
pattern with a line of marks under that part, and under the earlier part that it conflicts with. -/

set_option autoImplicit false

namespace RuntimeStubs.Pattern

/-- A place in the text of a pattern, between two characters. Lines and columns count from one. -/
structure Position where
  line : Nat
  column : Nat
  deriving DecidableEq, Repr

namespace Position

def start : Position := ⟨1, 1⟩

def after (c : Char) (p : Position) : Position :=
  if c = '\n' then ⟨p.line + 1, 1⟩ else ⟨p.line, p.column + 1⟩

def le (p q : Position) : Bool := p.line < q.line || (p.line == q.line && p.column ≤ q.column)

end Position

structure Span where
  start : Position
  stop : Position
  deriving DecidableEq, Repr

namespace Span

def point (p : Position) : Span := ⟨p, p⟩

def le (a b : Span) : Bool := if a.start = b.start then a.stop.le b.stop else a.start.le b.start

def inOneLine (s : Span) : Bool := s.start.line == s.stop.line

end Span

inductive Flaw where
  | escapeInClass
  | rangeDecreasing
  | rangeBoundary
  | classUnclosed
  | decimalInvalid
  | hexEmpty
  | hexInvalid
  | hexDigitInvalid
  | escapeUnfinished
  | escapeUnrecognised
  | negationDangling
  | flagRepeated
  | negationRepeated
  | flagMissing
  | flagUnrecognised
  | nameRepeated
  | nameEmpty
  | nameInvalid
  | nameUnclosed
  | groupUnclosed
  | groupUnopened
  | nestingTooDeep (limit : Nat)
  | countsDecreasing
  | countMissing
  | countUnclosed
  | operandMissing
  | boundaryUnclosed
  | boundaryUnrecognised
  | boundaryOrCountUnclosed
  | propertyInvalid
  | backreference
  | lookAround
  | unicodeExcluded
  | bytesAdmitted
  | propertyUnknown
  | propertyValueUnknown
  | shorthandUnavailable
  | foldingUnavailable
  deriving DecidableEq, Repr

def Flaw.message : Flaw → String
  | escapeInClass => "invalid escape sequence found in character class"
  | rangeDecreasing => "invalid character class range, the start must be <= the end"
  | rangeBoundary => "invalid range boundary, must be a literal"
  | classUnclosed => "unclosed character class"
  | decimalInvalid => "decimal literal invalid"
  | hexEmpty => "hexadecimal literal empty"
  | hexInvalid => "hexadecimal literal is not a Unicode scalar value"
  | hexDigitInvalid => "invalid hexadecimal digit"
  | escapeUnfinished => "incomplete escape sequence, reached end of pattern prematurely"
  | escapeUnrecognised => "unrecognized escape sequence"
  | negationDangling => "dangling flag negation operator"
  | flagRepeated => "duplicate flag"
  | negationRepeated => "flag negation operator repeated"
  | flagMissing => "expected flag but got end of regex"
  | flagUnrecognised => "unrecognized flag"
  | nameRepeated => "duplicate capture group name"
  | nameEmpty => "empty capture group name"
  | nameInvalid => "invalid capture group character"
  | nameUnclosed => "unclosed capture group name"
  | groupUnclosed => "unclosed group"
  | groupUnopened => "unopened group"
  | nestingTooDeep limit =>
    s!"exceed the maximum number of nested parentheses/brackets ({limit})"
  | countsDecreasing => "invalid repetition count range, the start must be <= the end"
  | countMissing => "repetition quantifier expects a valid decimal"
  | countUnclosed => "unclosed counted repetition"
  | operandMissing => "repetition operator missing expression"
  | boundaryUnclosed =>
    "special word boundary assertion is either unclosed or contains an invalid character"
  | boundaryUnrecognised =>
    "unrecognized special word boundary assertion, valid choices are: start, end, start-half or " ++
      "end-half"
  | boundaryOrCountUnclosed =>
    "found either the beginning of a special word boundary or a bounded repetition on a \\b with " ++
      "an opening brace, but no closing brace"
  | propertyInvalid => "invalid Unicode character class"
  | backreference => "backreferences are not supported"
  | lookAround => "look-around, including look-ahead and look-behind, is not supported"
  | unicodeExcluded => "Unicode not allowed here"
  | bytesAdmitted => "pattern can match invalid UTF-8"
  | propertyUnknown => "Unicode property not found"
  | propertyValueUnknown => "Unicode property value not found"
  | shorthandUnavailable =>
    "Unicode-aware Perl class not found (make sure the unicode-perl feature is enabled)"
  | foldingUnavailable =>
    "Unicode-aware case insensitivity matching is not available (make sure the unicode-case " ++
      "feature is enabled)"

structure Complaint where
  span : Span
  flaw : Flaw
  earlier : Option Span := none
  deriving DecidableEq, Repr

namespace Complaint

def spans (c : Complaint) : List Span := Sorting.sort Span.le (c.span :: c.earlier.toList)

/-- The marks under parts of one line, from a column on that counts from zero. A part that is empty
gets one mark. -/
def marks : Nat → List Span → List Char
  | _, [] => []
  | column, s :: rest =>
    let gap := s.start.column - 1 - column
    let width := max 1 (s.stop.column - s.start.column)
    List.replicate gap ' ' ++ List.replicate width '^' ++ marks (column + gap + width) rest

/-- The lines of a pattern, each with its marks. Lines are numbered if a number has any width. -/
def annotated (width : Nat) (spans : List Span) : Nat → List (List Char) → String
  | _, [] => ""
  | number, line :: rest =>
    let label := if width = 0 then "    " else Text.padLeft width (toString number) ++ ": "
    let under := spans.filter fun s => s.inOneLine && s.start.line == number
    label ++ String.ofList line ++ "\n" ++
      (if under.isEmpty then ""
        else String.ofList (List.replicate label.length ' ' ++ marks 0 under) ++ "\n") ++
      annotated width spans (number + 1) rest

def extents (spans : List Span) : String :=
  let distant := spans.filter fun s => !s.inOneLine
  if distant.isEmpty then ""
  else
    String.intercalate "\n" (distant.map fun s =>
      "on line " ++ toString s.start.line ++ " (column " ++ toString s.start.column ++
        ") through line " ++ toString s.stop.line ++ " (column " ++
        toString (s.stop.column - 1) ++ ")") ++ "\n"

def report (pattern : List Char) (c : Complaint) : String :=
  let lines := Text.lines pattern
  let count := lines.length + if pattern.getLast? = some '\n' then 1 else 0
  let width := if count ≤ 1 then 0 else (toString count).length
  let shown := annotated width c.spans 1 lines
  let rule := String.ofList (List.replicate 79 '~') ++ "\n"
  "regex parse error:\n" ++
    (if pattern.contains '\n' then rule ++ shown ++ rule ++ extents c.spans else shown) ++
    "error: " ++ c.flaw.message

end Complaint

end RuntimeStubs.Pattern
