import RuntimeStubs.Pattern.Encoding
import RuntimeStubs.Pattern.Expression

/-! How much memory the automata of an expression would take.

There are two, one that reads a text forwards and one that reads it backwards, and both have to stay
within a limit. Every state takes the same room, states with several ways on take room for each of
them, and rounds of an expression are as many copies of its states. -/

set_option autoImplicit false

namespace RuntimeStubs.Pattern

inductive Direction where
  | forwards
  | backwards
  deriving DecidableEq, Repr

namespace Footprint

def state : Nat := 32

def transition : Nat := 8

def alternative : Nat := 4

def fork : Nat := state + 2 * alternative

def limit : Nat := 10485760

/-- Sequences that agree in their first range, without that range. Such sequences are neighbours. -/
def tails : List (List ByteRange) → List (List (List ByteRange))
  | [] => []
  | [] :: rest => tails rest
  | (r :: tail) :: rest =>
    match rest, tails rest with
    | (q :: _) :: _, group :: groups =>
      if r = q then (tail :: group) :: groups else [tail] :: group :: groups
    | _, groups => [tail] :: groups

/-- What may follow in sequences of at most the given length, at the beginning and behind every part
of one that is not complete. -/
def continuations : Nat → List (List ByteRange) → List (List (List ByteRange))
  | 0, _ => []
  | length + 1, sequences =>
    if sequences.all List.isEmpty then []
    else sequences :: (tails sequences).flatMap (continuations length)

def beginnings (sequences : List (List ByteRange)) : List (List ByteRange) :=
  (sequences.flatMap fun s => (List.range s.length).map fun n => s.take (n + 1)).eraseDups

/-- The states for one character of a set. Forwards, equal continuations share a state; backwards,
equal beginnings do. A single character is as many states as its encoding has bytes. -/
def ofSet (direction : Direction) (s : CharSet) : Nat :=
  match s.ranges with
  | [] => state
  | first :: others =>
    if others.isEmpty ∧ first.1 = first.2 then (encoding (codePoint first.1)).length * state
    else if s.isAscii then 2 * state + s.ranges.length * transition
    else
      let sequences := s.byteSequences
      match direction with
      | .forwards =>
        (continuations 4 sequences).eraseDups.foldl (fun size continuation =>
          size + state + (tails continuation).length * transition) state
      | .backwards =>
        2 * state + sequences.length * alternative + (beginnings sequences).length * state

def ofRounds (inner : Nat) (consumes : Bool) (least : Nat) : Option Nat → Nat
  | none =>
    if least = 0 then
      if consumes then fork + inner else 2 * fork + state + inner
    else least * inner + fork
  | some most =>
    if least = most then least * inner
    else if least = 0 ∧ most = 1 then fork + inner + state
    else (if least = 0 then state else least * inner) + state + (most - least) * (fork + inner)

/-- What a branch adds to a choice, given its states. A branch that is a choice is part of it. -/
def ofBranch (branch : Expression) (size : Nat) : Nat :=
  match branch with
  | .either .. => size - 2 * state
  | _ => size + alternative

end Footprint

namespace Expression

def footprint (direction : Direction) : Expression → Nat
  | empty | look _ => Footprint.state
  | set s => Footprint.ofSet direction s
  | sequence a b => a.footprint direction + b.footprint direction
  | either a b =>
    2 * Footprint.state + Footprint.ofBranch a (a.footprint direction) +
      Footprint.ofBranch b (b.footprint direction)
  | repeated inner least most =>
    Footprint.ofRounds (inner.footprint direction) inner.consumes least most
  | capture inner =>
    inner.footprint direction +
      match direction with
      | .forwards => 2 * Footprint.state
      | .backwards => 0

/-- Whether both automata stay within the limit. Each may begin anywhere and has a last state;
forwards, the match as a whole is captured. -/
def fits (e : Expression) : Bool :=
  let around := Footprint.fork + Footprint.ofSet .forwards (.range 0 0x7F) + Footprint.state
  around + (capture e).footprint .forwards ≤ Footprint.limit &&
    around + (capture e).footprint .backwards ≤ Footprint.limit

end Expression

end RuntimeStubs.Pattern
