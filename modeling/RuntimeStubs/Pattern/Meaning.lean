import RuntimeStubs.Pattern.Expression
import RuntimeStubs.Pattern.Tree

/-! From the written form of a pattern to its meaning.

`Tree.meaning` reads a tree from left to right under the flags that are set. Patterns are for texts,
so nothing may match bytes that are no text. There are no tables of characters beyond ASCII: classes
that would need them are complaints, and so is matching regardless of case while words and letters
are those of any script. -/

set_option autoImplicit false

namespace RuntimeStubs.Pattern

structure Modes where
  caseless : Bool
  multiline : Bool
  dotAll : Bool
  carriageReturns : Bool
  unicode : Bool
  deriving DecidableEq, Repr

namespace Modes

def initial : Modes := ⟨false, false, false, false, true⟩

def apply (m : Modes) : Flag × Bool → Modes
  | (.caseless, value) => { m with caseless := value }
  | (.multiline, value) => { m with multiline := value }
  | (.dotAll, value) => { m with dotAll := value }
  | (.carriageReturns, value) => { m with carriageReturns := value }
  | (.unicode, value) => { m with unicode := value }
  | (.lazy, _) | (.spaced, _) => m

def applyAll (settings : Settings) (m : Modes) : Modes := settings.foldl apply m

/-- The last element of the sets of a class: a character or, without Unicode, a byte. -/
def last (m : Modes) : Nat := if m.unicode then lastOrdinal else 0xFF

end Modes

structure Members where
  set : CharSet
  /-- With every letter its other cases are known to be members. -/
  closed : Bool

namespace Members

def empty : Members := ⟨.empty, true⟩

def ofSet (set : CharSet) : Members := ⟨set, set.isEmpty⟩

def union (a b : Members) : Members :=
  if b.set.isEmpty ∨ a.set = b.set then a else ⟨a.set.union b.set, a.closed && b.closed⟩

def intersection (last : Nat) (a b : Members) : Members :=
  if a.set.isEmpty then a
  else if b.set.isEmpty then empty
  else ⟨a.set.intersection last b.set, a.closed && b.closed⟩

def difference (last : Nat) (a b : Members) : Members :=
  if a.set.isEmpty ∨ b.set.isEmpty then a
  else ⟨a.set.difference last b.set, a.closed && b.closed⟩

def complement (last : Nat) (a : Members) : Members :=
  ⟨a.set.complement last, a.closed || a.set.isEmpty⟩

def combine (last : Nat) (operation : ClassOperation) (a b : Members) : Members :=
  match operation with
  | .intersection => a.intersection last b
  | .difference => a.difference last b
  | .symmetricDifference => (a.union b).difference last (a.intersection last b)

end Members

abbrev Judged := Except Complaint

namespace Modes

variable {α : Type}

def complain (span : Span) (flaw : Flaw) : Judged α := .error { span, flaw }

def fold (m : Modes) (span : Span) (a : Members) : Judged Members :=
  if !m.caseless then .ok a
  else if !m.unicode then .ok ⟨a.set.foldAscii, true⟩
  else if a.closed || a.set.isEmpty then .ok ⟨a.set, true⟩
  else complain span .foldingUnavailable

/-- A class with its negation. Without Unicode it may hold characters of ASCII only. -/
def finish (m : Modes) (span : Span) (negated : Bool) (a : Members) : Judged Members := do
  let a ← m.fold span a
  let a := if negated then a.complement m.last else a
  if !m.unicode && !a.set.isAscii then complain span .bytesAdmitted
  return a

/-- The character that a literal stands for. A byte beyond ASCII is none. -/
def charOf (m : Modes) (l : Literal) : Judged Char :=
  if !m.unicode && l.isByte && '\x7f' < l.char then complain l.span .bytesAdmitted
  else .ok l.char

def elementOf (m : Modes) (l : Literal) : Judged Nat := do
  let c ← m.charOf l
  if !m.unicode && '\x7f' < c then complain l.span .unicodeExcluded
  return ordinal c

def shorthand (m : Modes) (s : Shorthand) : Judged Members :=
  if m.unicode then complain s.span .shorthandUnavailable
  else
    let set := s.members.members
    let set := if s.negated then set.complement m.last else set
    if set.isAscii then .ok (.ofSet set) else complain s.span .bytesAdmitted

/-- The name of a property for comparison: in small letters and without the parts that names may
have or lack. -/
def propertyKey (name : List Char) : List Char :=
  let isPart (c : Char) : Bool := c ≤ '\x7f' && c != ' ' && c != '_' && c != '-'
  let key (cs : List Char) : List Char := (cs.filter isPart).map Char.toLower
  match name with
  | i :: s :: rest =>
    if i.toLower = 'i' ∧ s.toLower = 's' then
      if key rest = ['c'] then ['i', 's', 'c'] else key rest
    else key name
  | _ => key name

/-- Names that are categories of characters although they could be read as other properties. -/
def categoryKeys : List String := ["cf", "sc", "lc"]

/-- A class by a property. No property is known, nor any value of the property that stands for the
categories. -/
def property (m : Modes) (p : Property) : Judged Members :=
  if !m.unicode then complain p.span .unicodeExcluded
  else if !p.hasValue && categoryKeys.contains (String.ofList (propertyKey p.name)) then
    complain p.span .propertyValueUnknown
  else complain p.span .propertyUnknown

def literal (m : Modes) (l : Literal) : Judged Expression := do
  let c ← m.charOf l
  if m.caseless ∧ m.unicode then complain l.span .foldingUnavailable
  return .set (if m.caseless then (CharSet.singleton c).foldAscii else .singleton c)

def dot (m : Modes) (span : Span) : Judged Expression :=
  if !m.unicode then complain span .bytesAdmitted
  else
    let excluded : CharSet :=
      if m.dotAll then .empty
      else if m.carriageReturns then .ofRanges [(0x0A, 0x0A), (0x0D, 0x0D)]
      else .range 0x0A 0x0A
    .ok (.set (excluded.complement lastOrdinal))

def look (m : Modes) : Assertion → Look
  | .textStart => .textStart
  | .textEnd => .textEnd
  | .lineStart =>
    if !m.multiline then .textStart else if m.carriageReturns then .anyLineStart else .lineStart
  | .lineEnd =>
    if !m.multiline then .textEnd else if m.carriageReturns then .anyLineEnd else .lineEnd
  | .word edge => .word (wordLook edge) m.unicode
where
  wordLook : WordEdge → WordLook
    | .boundary => .boundary
    | .inside => .inside
    | .first => .start
    | .last => .stop
    | .beforeFirst => .notBehindWord
    | .behindLast => .notBeforeWord

end Modes

mutual

def ClassTree.members (m : Modes) : ClassTree → Members → Judged Members
  | .empty _, found => .ok found
  | .literal l, found => do
    let n ← m.elementOf l
    return ⟨found.set.union (.range n n), false⟩
  | .range _ first last, found => do
    let low ← m.elementOf first
    let high ← m.elementOf last
    return ⟨found.set.union (.range low high), false⟩
  | .named span name negated, found =>
    return found.union (← m.finish span negated (.ofSet name.members))
  | .shorthand s, found => return found.union (← m.shorthand s)
  | .property p, found => return found.union (← m.property p)
  | .bracketed span negated inner, found => do
    return found.union (← m.finish span negated (← inner.members m .empty))
  | .union _ items, found => ClassTree.allMembers m items found
  | .operation _ kind left right, found => do
    let a ← left.members m .empty
    let b ← right.members m .empty
    let b ← m.fold right.span b
    let a ← m.fold left.span a
    return found.union (Members.combine m.last kind a b)

def ClassTree.allMembers (m : Modes) : List ClassTree → Members → Judged Members
  | [], found => .ok found
  | item :: rest, found => do ClassTree.allMembers m rest (← item.members m found)

end

mutual

/-- The meaning of a tree under some modes, and the modes behind it. -/
def Tree.meaning : Tree → Modes → Judged (Expression × Modes)
  | .empty _, m => .ok (.empty, m)
  | .flags _ settings, m => .ok (.empty, m.applyAll settings)
  | .literal l, m => return (← m.literal l, m)
  | .dot span, m => return (← m.dot span, m)
  | .assertion _ condition, m => .ok (.look (m.look condition), m)
  | .shorthand s, m => return (.set (← m.shorthand s).set, m)
  | .property p, m => return (.set (← m.property p).set, m)
  | .bracketed span negated inner, m => do
    let members ← m.finish span negated (← inner.members m .empty)
    return (.set members.set, m)
  | .repetition _ least most inner, m => do
    let (e, m) ← inner.meaning m
    return (e.rounds least most, m)
  | .group _ captures settings inner, m => do
    let (e, _) ← inner.meaning (m.applyAll settings)
    return (if captures then .capture e else e, m)
  | .sequence _ items, m => do
    let (es, m) ← Tree.meanings items m
    return (.inSequence es, m)
  | .alternatives _ branches, m => do
    let (es, m) ← Tree.meanings branches m
    return (.anyOf es, m)

def Tree.meanings : List Tree → Modes → Judged (List Expression × Modes)
  | [], m => .ok ([], m)
  | item :: rest, m => do
    let (e, m) ← item.meaning m
    let (es, m) ← Tree.meanings rest m
    return (e :: es, m)

end

end RuntimeStubs.Pattern
