import RuntimeStubs.Pattern.CharSet
import RuntimeStubs.Pattern.Complaint

/-! The written form of a pattern.

A tree keeps what the author wrote and where each part stands, since complaints about its meaning
point at those parts. `Tree.tooDeep` finds the first part that is nested too deeply. -/

set_option autoImplicit false

namespace RuntimeStubs.Pattern

inductive Flag where
  | caseless
  | multiline
  | dotAll
  | lazy
  | unicode
  | carriageReturns
  | spaced
  deriving DecidableEq, Repr

abbrev Settings := List (Flag × Bool)

structure Literal where
  span : Span
  char : Char
  /-- Written as a byte, with exactly two hexadecimal digits. -/
  isByte : Bool
  deriving DecidableEq, Repr

inductive WordEdge where
  | boundary
  | inside
  | first
  | last
  | beforeFirst
  | behindLast
  deriving DecidableEq, Repr

inductive Assertion where
  | lineStart
  | lineEnd
  | textStart
  | textEnd
  | word (edge : WordEdge)
  deriving DecidableEq, Repr

inductive NamedClass where
  | alnum
  | alpha
  | ascii
  | blank
  | cntrl
  | digit
  | graph
  | lower
  | print
  | punct
  | space
  | upper
  | word
  | xdigit
  deriving DecidableEq, Repr

namespace NamedClass

def all : List NamedClass :=
  [alnum, alpha, ascii, blank, cntrl, digit, graph, lower, print, punct, space, upper, word, xdigit]

def name : NamedClass → String
  | alnum => "alnum"
  | alpha => "alpha"
  | ascii => "ascii"
  | blank => "blank"
  | cntrl => "cntrl"
  | digit => "digit"
  | graph => "graph"
  | lower => "lower"
  | print => "print"
  | punct => "punct"
  | space => "space"
  | upper => "upper"
  | word => "word"
  | xdigit => "xdigit"

def ofName? (name : List Char) : Option NamedClass := all.find? fun c => c.name.toList == name

def members : NamedClass → CharSet
  | alnum => .ofRanges [(0x30, 0x39), (0x41, 0x5A), (0x61, 0x7A)]
  | alpha => .ofRanges [(0x41, 0x5A), (0x61, 0x7A)]
  | ascii => .range 0 0x7F
  | blank => .ofRanges [(0x09, 0x09), (0x20, 0x20)]
  | cntrl => .ofRanges [(0x00, 0x1F), (0x7F, 0x7F)]
  | digit => .range 0x30 0x39
  | graph => .range 0x21 0x7E
  | lower => .range 0x61 0x7A
  | print => .range 0x20 0x7E
  | punct => .ofRanges [(0x21, 0x2F), (0x3A, 0x40), (0x5B, 0x60), (0x7B, 0x7E)]
  | space => .ofRanges [(0x09, 0x0D), (0x20, 0x20)]
  | upper => .range 0x41 0x5A
  | word => .ofRanges [(0x30, 0x39), (0x41, 0x5A), (0x5F, 0x5F), (0x61, 0x7A)]
  | xdigit => .ofRanges [(0x30, 0x39), (0x41, 0x46), (0x61, 0x66)]

end NamedClass

structure Shorthand where
  span : Span
  members : NamedClass
  negated : Bool
  deriving DecidableEq, Repr

structure Property where
  span : Span
  name : List Char
  hasValue : Bool
  deriving DecidableEq, Repr

inductive ClassOperation where
  | intersection
  | difference
  | symmetricDifference
  deriving DecidableEq, Repr

inductive ClassTree where
  | empty (span : Span)
  | literal (literal : Literal)
  | range (span : Span) (first last : Literal)
  | named (span : Span) (name : NamedClass) (negated : Bool)
  | shorthand (shorthand : Shorthand)
  | property (property : Property)
  | bracketed (span : Span) (negated : Bool) (inner : ClassTree)
  | union (span : Span) (items : List ClassTree)
  | operation (span : Span) (operation : ClassOperation) (left right : ClassTree)

def ClassTree.span : ClassTree → Span
  | empty span | range span .. | named span .. | bracketed span .. | union span _
  | operation span .. => span
  | literal l => l.span
  | shorthand s => s.span
  | property p => p.span

inductive Tree where
  | empty (span : Span)
  | flags (span : Span) (settings : Settings)
  | literal (literal : Literal)
  | dot (span : Span)
  | assertion (span : Span) (assertion : Assertion)
  | shorthand (shorthand : Shorthand)
  | property (property : Property)
  | bracketed (span : Span) (negated : Bool) (inner : ClassTree)
  | repetition (span : Span) (least : Nat) (most : Option Nat) (inner : Tree)
  | group (span : Span) (captures : Bool) (settings : Settings) (inner : Tree)
  | sequence (span : Span) (items : List Tree)
  | alternatives (span : Span) (branches : List Tree)

namespace Tree

def span : Tree → Span
  | empty span | flags span _ | dot span | assertion span _ | bracketed span .. | repetition span ..
  | group span .. | sequence span _ | alternatives span _ => span
  | literal l => l.span
  | shorthand s => s.span
  | property p => p.span

/-- Items one after the other. One item alone is no sequence. -/
def ofSequence (span : Span) : List Tree → Tree
  | [] => empty span
  | [item] => item
  | items => sequence span items

def ofBranches (span : Span) : List Tree → Tree
  | [branch] => branch
  | branches => alternatives span branches

end Tree

def nestingLimit : Nat := 250

mutual

/-- The first part that is nested too deeply, if the given number of parts lie around this one. -/
def ClassTree.tooDeep (depth : Nat) : ClassTree → Option Span
  | .empty _ | .literal _ | .range .. | .named .. | .shorthand _ | .property _ => none
  | .bracketed span _ inner =>
    if nestingLimit ≤ depth then some span else inner.tooDeep (depth + 1)
  | .union span items =>
    if nestingLimit ≤ depth then some span else ClassTree.anyTooDeep (depth + 1) items
  | .operation span _ left right =>
    if nestingLimit ≤ depth then some span
    else (left.tooDeep (depth + 1)).or (right.tooDeep (depth + 1))

def ClassTree.anyTooDeep (depth : Nat) : List ClassTree → Option Span
  | [] => none
  | item :: rest => (item.tooDeep depth).or (ClassTree.anyTooDeep depth rest)

end

mutual

def Tree.tooDeep (depth : Nat) : Tree → Option Span
  | .empty _ | .flags .. | .literal _ | .dot _ | .assertion .. | .shorthand _ | .property _ => none
  | .bracketed span _ inner =>
    if nestingLimit ≤ depth then some span else inner.tooDeep (depth + 1)
  | .repetition span _ _ inner =>
    if nestingLimit ≤ depth then some span else inner.tooDeep (depth + 1)
  | .group span _ _ inner =>
    if nestingLimit ≤ depth then some span else inner.tooDeep (depth + 1)
  | .sequence span items =>
    if nestingLimit ≤ depth then some span else Tree.anyTooDeep (depth + 1) items
  | .alternatives span branches =>
    if nestingLimit ≤ depth then some span else Tree.anyTooDeep (depth + 1) branches

def Tree.anyTooDeep (depth : Nat) : List Tree → Option Span
  | [] => none
  | item :: rest => (item.tooDeep depth).or (Tree.anyTooDeep depth rest)

end

end RuntimeStubs.Pattern
