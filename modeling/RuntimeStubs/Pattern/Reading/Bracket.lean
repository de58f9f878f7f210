import RuntimeStubs.Pattern.Reading.Escape

/-! Reading what stands between brackets.

Items form unions. Between two unions there may be an operation; operations apply from left to
right. An opening bracket inside brackets begins a class of its own, unless a class with a name
follows. -/

set_option autoImplicit false

namespace RuntimeStubs.Pattern.Reading

structure Items where
  span : Span
  items : List ClassTree

namespace Items

def start (p : Position) : Items := ⟨.point p, []⟩

def push (item : ClassTree) (u : Items) : Items :=
  ⟨⟨if u.items.isEmpty then item.span.start else u.span.start, item.span.stop⟩, item :: u.items⟩

def tree (u : Items) : ClassTree :=
  match u.items with
  | [] => .empty u.span
  | [item] => item
  | items => .union u.span items.reverse

end Items

/-- What stands to the left of the items that are being read. -/
abbrev Pending := Option (ClassOperation × ClassTree)

def combine (pending : Pending) (right : ClassTree) : ClassTree :=
  match pending with
  | none => right
  | some (operation, left) =>
    .operation ⟨left.span.start, right.span.stop⟩ operation left right

/-- Strokes at the beginning of a class stand for themselves. A class cannot end with them, so an
end of the text here leaves it open. -/
def leadingStrokes (opening : Position) : Nat → Items → Reading Items
  | 0, items => return items
  | fuel + 1, items => do
    if (← current?) ≠ some '-' then return items
    let item : Literal := ⟨← charSpan, '-', false⟩
    step
    if (← current?).isNone then fail (.point opening) .classUnclosed
    leadingStrokes opening fuel (items.push (.literal item))

/-- The beginning of a class: its bracket, whether it is negated, and the items that only there
stand for themselves. A class has at least one item, so a bracket that comes first does not close
it. -/
def bracketOpening : Reading (Span × Bool × Items) := do
  let opening ← position
  step
  ensureOpen opening
  let negated := (← current?) = some '^'
  if negated then
    step
    ensureOpen opening
  let items ← leadingStrokes opening (← get).rest.length (.start (← position))
  if items.items.isEmpty ∧ (← current?) = some ']' then
    let item : Literal := ⟨← charSpan, ']', false⟩
    step
    ensureOpen opening
    return (← since opening, negated, items.push (.literal item))
  return (← since opening, negated, items)
where
  ensureOpen (opening : Position) : Reading Unit := do
    if (← current?).isNone then fail (← since opening) .classUnclosed

def namedClass? : List Char → Option (NamedClass × Bool × Nat)
  | '[' :: ':' :: '^' :: rest => (named rest).map fun (c, size) => (c, true, size + 3)
  | '[' :: ':' :: rest => (named rest).map fun (c, size) => (c, false, size + 2)
  | _ => none
where
  named (rest : List Char) : Option (NamedClass × Nat) :=
    let name := rest.takeWhile (· != ':')
    match rest.dropWhile (· != ':') with
    | ':' :: ']' :: _ => (NamedClass.ofName? name).map fun c => (c, name.length + 2)
    | _ => none

def item (c : Char) : Reading Tree := do
  if c = '\\' then escape else return .literal (← plain c)

/-- What may stand for itself as an item of a class. -/
def asItem : Tree → Reading ClassTree
  | .literal l => return .literal l
  | .shorthand s => return .shorthand s
  | .property p => return .property p
  | tree => fail tree.span .escapeInClass

def asBoundary : Tree → Reading Literal
  | .literal l => return l
  | tree => fail tree.span .rangeBoundary

def itemOrRange (opening : Span) (c : Char) : Reading ClassTree := do
  let first ← item c
  skip
  let s ← get
  match s.rest.head? with
  | none => fail opening .classUnclosed
  | some following =>
    if following ≠ '-' ∨ s.second? = some ']' ∨ s.second? = some '-' then asItem first
    else
      step
      match ← current? with
      | none => fail opening .classUnclosed
      | some c =>
        let last ← item c
        let span : Span := ⟨first.span.start, last.span.stop⟩
        let low ← asBoundary first
        let high ← asBoundary last
        if high.char < low.char then fail span .rangeDecreasing
        return .range span low high

def operation? : List Char → Option ClassOperation
  | '&' :: '&' :: _ => some .intersection
  | '-' :: '-' :: _ => some .difference
  | '~' :: '~' :: _ => some .symmetricDifference
  | _ => none

mutual

/-- Reads a class. The cursor is at its bracket, and the text behind it is no longer than the
fuel. -/
def bracketed : Nat → Reading (Span × Bool × ClassTree)
  | 0 => do fail (← charSpan) .classUnclosed
  | fuel + 1 => do
    let (opening, negated, items) ← bracketOpening
    let (span, inner) ← bracketItems fuel opening none items
    return (span, negated, inner)

def bracketItems : Nat → Span → Pending → Items → Reading (Span × ClassTree)
  | 0, opening, _, _ => fail opening .classUnclosed
  | fuel + 1, opening, pending, items => do
    skip
    match (← get).rest with
    | [] => fail opening .classUnclosed
    | ']' :: _ =>
      next
      return (← since opening.start, combine pending items.tree)
    | '[' :: rest =>
      match namedClass? ('[' :: rest) with
      | some (name, negated, size) =>
        let start ← position
        modify (Nat.repeat Cursor.next size)
        bracketItems fuel opening pending (items.push (.named (← since start) name negated))
      | none =>
        let (span, negated, inner) ← bracketed fuel
        bracketItems fuel opening pending (items.push (.bracketed span negated inner))
    | c :: rest =>
      match operation? (c :: rest) with
      | some operation =>
        modify (Nat.repeat Cursor.next 2)
        bracketItems fuel opening (some (operation, combine pending items.tree))
          (.start (← position))
      | none =>
        let found ← itemOrRange opening c
        bracketItems fuel opening pending (items.push found)

end

end RuntimeStubs.Pattern.Reading
