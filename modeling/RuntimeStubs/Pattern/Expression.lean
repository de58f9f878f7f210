import RuntimeStubs.Pattern.CharSet

/-! What a pattern means.

An expression stands for the texts that it matches and, since it may look at the characters on both
sides of a place, for where it matches them. The functions that put expressions together keep them
small: nothing empty stands in a sequence, and a choice between characters is one set. -/

set_option autoImplicit false

namespace RuntimeStubs.Pattern

structure Place where
  before : Option Char
  behind : Option Char
  deriving DecidableEq, Repr

inductive WordLook where
  | boundary
  | inside
  | start
  | stop
  | notBehindWord
  | notBeforeWord
  deriving DecidableEq, Repr

inductive Look where
  | textStart
  | textEnd
  | lineStart
  | lineEnd
  /-- Lines may end with a carriage return, a line feed or both. -/
  | anyLineStart
  | anyLineEnd
  /-- Words are made of letters of any script or of ASCII only. -/
  | word (look : WordLook) (unicode : Bool)
  deriving DecidableEq, Repr

def isWordChar (c : Char) : Bool := c.isAlphanum || c == '_'

def WordLook.holds (before behind : Bool) : WordLook → Bool
  | boundary => before != behind
  | inside => before == behind
  | start => !before && behind
  | stop => before && !behind
  | notBehindWord => !before
  | notBeforeWord => !behind

def Look.holds (place : Place) : Look → Bool
  | textStart => place.before.isNone
  | textEnd => place.behind.isNone
  | lineStart => place.before.all (· == '\n')
  | lineEnd => place.behind.all (· == '\n')
  | anyLineStart =>
    place.before.all fun c => c == '\n' || (c == '\r' && place.behind != some '\n')
  | anyLineEnd =>
    place.behind.all fun c => c == '\r' || (c == '\n' && place.before != some '\r')
  | word look _ => look.holds (place.before.any isWordChar) (place.behind.any isWordChar)

inductive Expression where
  | empty
  | look (look : Look)
  | set (set : CharSet)
  | sequence (first second : Expression)
  | either (first second : Expression)
  | repeated (inner : Expression) (least : Nat) (most : Option Nat)
  | capture (inner : Expression)
  deriving DecidableEq, Repr

namespace Expression

/-- Whether nothing but empty texts match. -/
def isEmptyOnly : Expression → Bool
  | empty | look _ => true
  | set _ => false
  | sequence a b | either a b => a.isEmptyOnly && b.isEmptyOnly
  | repeated inner _ _ | capture inner => inner.isEmptyOnly

/-- Whether some text matches as far as lengths tell, and none that does is empty. -/
def consumes : Expression → Bool
  | empty | look _ => false
  | set s => !s.isEmpty
  | sequence a b => a.consumes || b.consumes
  | either a b => a.consumes && b.consumes
  | repeated inner least _ => least != 0 && inner.consumes
  | capture inner => inner.consumes

def andThen (a b : Expression) : Expression :=
  if a = empty then b else if b = empty then a else sequence a b

def inSequence (items : List Expression) : Expression := items.foldr andThen empty

/-- The set of characters that an expression is, if it is one. -/
def set? : Expression → Option CharSet
  | set s => some s
  | _ => none

/-- A choice. Between sets of characters it is a set. -/
def anyOf (branches : List Expression) : Expression :=
  match branches.mapM set? with
  | some sets => set (sets.foldl CharSet.union .empty)
  | none =>
    match branches with
    | [] => set .empty
    | first :: rest => rest.foldl either first

/-- Rounds of an expression. Rounds of empty texts beyond the first make no difference. -/
def rounds (least : Nat) (most : Option Nat) (inner : Expression) : Expression :=
  let (least, most) :=
    if inner.isEmptyOnly then (min least 1, some (min (most.getD 1) 1)) else (least, most)
  if most = some 0 then empty
  else if least = 1 ∧ most = some 1 then inner
  else repeated inner least most

def needsUnicodeWords : Expression → Bool
  | look (.word _ unicode) => unicode
  | empty | look _ | set _ => false
  | sequence a b | either a b => a.needsUnicodeWords || b.needsUnicodeWords
  | repeated inner _ _ | capture inner => inner.needsUnicodeWords

end Expression

end RuntimeStubs.Pattern
