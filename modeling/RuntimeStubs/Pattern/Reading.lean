import RuntimeStubs.Pattern.Reading.Bracket
import RuntimeStubs.Text.Letter

/-! Reading a pattern.

`Tree.read` answers with the tree of a text or with the first complaint about it. Alternatives hold
sequences, sequences hold items, and a group holds alternatives again. A flag that is set between
items holds for the rest of the group. -/

set_option autoImplicit false

namespace RuntimeStubs.Pattern

namespace Reading

def flagOfLetter? (letter : Char) : Option Flag :=
  [('i', Flag.caseless), ('m', .multiline), ('s', .dotAll), ('U', .lazy), ('u', .unicode),
    ('R', .carriageReturns), ('x', .spaced)].lookup letter

structure FlagList where
  /-- Flags with the value each is set to and their places. -/
  flags : List (Flag × Bool × Span)
  negation : Option Span
  dangling : Bool

namespace FlagList

def empty : FlagList := ⟨[], none, false⟩

def settings (l : FlagList) : Settings := l.flags.map fun (flag, value, _) => (flag, value)

end FlagList

/-- Reads flags up to a colon or a closing parenthesis. A negation holds for the flags behind it. -/
def flagList : Nat → FlagList → Reading Settings
  | 0, l => return l.settings
  | fuel + 1, l => do
    let span ← charSpan
    match ← current? with
    | none => fail (.point span.start) .flagMissing
    | some c =>
      if c = ':' ∨ c = ')' then
        match l.negation, l.dangling with
        | some negation, true => fail negation .negationDangling
        | _, _ => return l.settings
      else if c = '-' then
        match l.negation with
        | some earlier => conflict span earlier .negationRepeated
        | none =>
          next
          flagList fuel { l with negation := some span, dangling := true }
      else
        match flagOfLetter? c with
        | none => fail span .flagUnrecognised
        | some flag =>
          match l.flags.lookup flag with
          | some (_, earlier) => conflict span earlier .flagRepeated
          | none =>
            next
            flagList fuel { l with
              flags := l.flags ++ [(flag, l.negation.isNone, span)], dangling := false }

def isNameStart (c : Char) : Bool := c == '_' || Text.isLetter c

def isNamePart (c : Char) : Bool :=
  c == '_' || c == '.' || c == '[' || c == ']' || Text.isLetterOrNumeral c

def nameChars : Nat → Bool → Reading (List Char)
  | 0, _ => return []
  | fuel + 1, first => do
    match ← current? with
    | none => return []
    | some c =>
      if c = '>' then return []
      else if if first then isNameStart c else isNamePart c then
        next
        return c :: (← nameChars fuel false)
      else fail (← charSpan) .nameInvalid

/-- Reads the name of a group up to the bracket that ends it. No two groups have one name. -/
def groupName : Reading Unit := do
  let start ← position
  let name ← nameChars (← get).rest.length true
  let span ← since start
  if (← current?).isNone then fail (.point span.stop) .nameUnclosed
  next
  if name.isEmpty then fail span .nameEmpty
  match (← get).names.lookup name with
  | some earlier => conflict span earlier .nameRepeated
  | none => modify fun s => { s with names := (name, span) :: s.names }

inductive Opening where
  | flags (settings : Settings)
  | group (captures : Bool) (settings : Settings)

/-- Reads the beginning of a group, or flags in parentheses. The cursor is at the parenthesis. -/
def groupOpening : Reading Opening := do
  let opening ← charSpan
  step
  if (← accept "?=") || (← accept "?!") || (← accept "?<=") || (← accept "?<!") then
    fail (← since opening.start) .lookAround
  let inner ← position
  if (← accept "?P<") || (← accept "?<") then
    groupName
    return .group true []
  else if ← accept "?" then
    if (← current?).isNone then fail opening .groupUnclosed
    let settings ← flagList ((← get).rest.length + 1) .empty
    let closed := (← current?) = some ')'
    next
    if closed then
      if settings.isEmpty then fail (.point inner) .operandMissing
      return .flags settings
    else return .group false settings
  else return .group true []

/-- A number in decimal digits, with blanks around it. It has to fit 32 bits. -/
def decimal : Reading (Except Complaint Nat) := do
  let _ ← collect Text.isBlank
  let start ← position
  let digits ← collect Char.isDigit
  let span ← since start
  let _ ← collect Text.isBlank
  let number := digits.foldl (fun n c => n * 10 + (c.toNat - '0'.toNat)) 0
  if digits.isEmpty then return .error { span, flaw := .countMissing }
  else if UInt32.size ≤ number then return .error { span, flaw := .decimalInvalid }
  else return .ok number

/-- The counts in braces behind an item. The cursor is at the opening brace and ends up behind the
closing one. -/
def counts (start : Position) : Reading (Nat × Option Nat) := do
  step
  ensureOpen
  let first ← decimal
  ensureOpen
  let bounds ← if (← current?) = some ',' then do
      step
      ensureOpen
      let least ← liftM first
      if (← current?) = some '\x7d' then pure (least, none)
      else pure (least, some (← liftM (← decimal)))
    else do
      let count ← liftM first
      pure (count, some count)
  if (← current?) ≠ some '\x7d' then fail (← since start) .countUnclosed
  step
  return bounds
where
  ensureOpen : Reading Unit := do
    if (← current?).isNone then fail (← since start) .countUnclosed

/-- What a repetition repeats: the last item, which flags alone are not. -/
def operand (items : List Tree) : Reading (Tree × List Tree) := do
  match items with
  | [] | .empty _ :: _ | .flags .. :: _ => fail (.point (← position)) .operandMissing
  | item :: rest => return (item, rest)

def preference : Reading Unit := do
  if (← current?) = some '?' then next

def repetition (sign : Char) (items : List Tree) : Reading (List Tree) := do
  let start ← position
  let (inner, rest) ← operand items
  let (least, most) ← match sign with
    | '?' => do next; pure (0, some 1)
    | '*' => do next; pure (0, none)
    | '+' => do next; pure (1, none)
    | _ => counts start
  preference
  match most with
  | some most => if most < least then fail (← since start) .countsDecreasing
  | none => pure ()
  return .repetition ⟨inner.span.start, ← position⟩ least most inner :: rest

def simple (c : Char) : Reading Tree := do
  if c = '\\' then escape
  else
    let span ← charSpan
    next
    return match c with
      | '.' => .dot span
      | '^' => .assertion span .lineStart
      | '$' => .assertion span .lineEnd
      | c => .literal ⟨span, c, false⟩

/-- Alternatives that are being read: where the first one starts, those that are complete, where the
one being read starts, and its items. The last of either comes first. -/
structure Draft where
  start : Position
  branches : List Tree
  branchStart : Position
  items : List Tree

namespace Draft

def create (start : Position) : Draft := ⟨start, [], start, []⟩

def push (item : Tree) (d : Draft) : Draft := { d with items := item :: d.items }

def branch (stop : Position) (d : Draft) : Tree :=
  .ofSequence ⟨d.branchStart, stop⟩ d.items.reverse

def finish (stop : Position) (d : Draft) : Tree :=
  .ofBranches ⟨d.start, stop⟩ (d.branch stop :: d.branches).reverse

def divide (stop next : Position) (d : Draft) : Draft :=
  { d with branches := d.branch stop :: d.branches, branchStart := next, items := [] }

end Draft

/-- Reads alternatives up to the end of the text, or of the group whose parenthesis is given. The
rest of the text is shorter than the fuel. -/
def alternatives : Nat → Option Span → Draft → Reading Tree
  | 0, _, d => return d.finish (← position)
  | fuel + 1, group, d => do
    skip
    let here ← position
    match ← current?, group with
    | none, some opening => fail opening .groupUnclosed
    | none, none => return d.finish here
    | some ')', some _ => return d.finish here
    | some ')', none => fail (← charSpan) .groupUnopened
    | some '|', _ =>
      next
      alternatives fuel group (d.divide here (← position))
    | some '(', _ =>
      let opening ← charSpan
      let outer := (← get).spaced
      match ← groupOpening with
      | .flags settings =>
        modify fun s => { s with spaced := (settings.lookup .spaced).getD outer }
        alternatives fuel group (d.push (.flags (← since here) settings))
      | .group captures settings =>
        modify fun s => { s with spaced := (settings.lookup .spaced).getD outer }
        let inner ← alternatives fuel (some opening) (.create (← position))
        modify fun s => { s with spaced := outer }
        next
        alternatives fuel group (d.push (.group (← since here) captures settings inner))
    | some '[', _ =>
      let (span, negated, inner) ← bracketed ((← get).rest.length + 1)
      alternatives fuel group (d.push (.bracketed span negated inner))
    | some c, _ =>
      if c = '?' ∨ c = '*' ∨ c = '+' ∨ c = '\x7b' then
        let items ← repetition c d.items
        alternatives fuel group { d with items := items }
      else
        let item ← simple c
        alternatives fuel group (d.push item)

end Reading

def Tree.read (text : List Char) : Except Complaint Tree :=
  match Reading.alternatives (text.length + 1) none (.create .start) (.start text) with
  | .error complaint => .error complaint
  | .ok (tree, _) =>
    match tree.tooDeep 0 with
    | some span => .error { span, flaw := .nestingTooDeep nestingLimit }
    | none => .ok tree

end RuntimeStubs.Pattern
