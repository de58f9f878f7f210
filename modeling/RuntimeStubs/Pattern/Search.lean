import RuntimeStubs.Pattern.Expression

/-! Looking for a match of an expression anywhere in a text.

The search reads the text once. It keeps the expressions that are left to match behind what it has
read, for the ways in which a match can have begun, and has found a match when one of them matches
the empty text. Expressions that differ only in how many rounds are left of one repetition are kept
as one as long as the numbers of rounds form a range. -/

set_option autoImplicit false

namespace RuntimeStubs.Pattern.Expression

def matchesEmpty (place : Place) : Expression → Bool
  | empty => true
  | look l => l.holds place
  | set _ => false
  | sequence a b => a.matchesEmpty place && b.matchesEmpty place
  | either a b => a.matchesEmpty place || b.matchesEmpty place
  | repeated inner least _ => least == 0 || inner.matchesEmpty place
  | capture inner => inner.matchesEmpty place

/-- What is left to match when a match begins at a place with the character behind it. If a round
can be empty there, every round that is owed can be. -/
def remainders (place : Place) (c : Char) : Expression → List Expression
  | empty | look _ => []
  | set s => if s.holds c then [empty] else []
  | sequence a b =>
    (a.remainders place c).map (·.andThen b) ++
      if a.matchesEmpty place then b.remainders place c else []
  | either a b => a.remainders place c ++ b.remainders place c
  | repeated inner least most =>
    if most = some 0 then []
    else
      let owed := if inner.matchesEmpty place then 0 else least - 1
      (inner.remainders place c).map (·.andThen (inner.rounds owed (most.map (· - 1))))
  | capture inner => inner.remainders place c

/-- Whether a repetition may have every number of rounds that another one may have. -/
def allows (least : Nat) (most : Option Nat) (least' : Nat) (most' : Option Nat) : Bool :=
  least ≤ least' && most.all fun m => most'.any (· ≤ m)

/-- Whether what the second expression matches is seen to be matched by the first: they are equal
but for repetitions that may have more numbers of rounds in the first. -/
def covers : Expression → Expression → Bool
  | sequence a r, sequence b s => covers a b && covers r s
  | repeated inner least most, repeated inner' least' most' =>
    allows least most least' most' && inner = inner'
  | a, b => a = b

/-- Whether numbers up to `most` reach up to numbers from `least` on without a gap. -/
def reaches (most : Option Nat) (least : Nat) : Bool := most.all fun n => least ≤ n + 1

/-- One repetition with the numbers of rounds of two, if these form a range. -/
def joinRounds? : Expression → Expression → Option Expression
  | repeated inner least most, repeated inner' least' most' =>
    if reaches most least' && reaches most' least && inner = inner' then
      some (repeated inner (min least least') (match most, most' with
        | some m, some n => some (max m n)
        | _, _ => none))
    else none
  | _, _ => none

/-- One expression that matches what either of two matches, if they differ in one place only, by the
number of rounds that are left. -/
def join? : Expression → Expression → Option Expression
  | sequence a r, sequence b s =>
    if covers a b && covers r s then some (sequence a r)
    else if covers b a && covers s r then some (sequence b s)
    else if a = b then (join? r s).map (sequence a)
    else if r = s then (joinRounds? a b).map (sequence · r)
    else none
  | a, b =>
    if covers a b then some a
    else if covers b a then some b
    else joinRounds? a b

def keep : List Expression → Expression → List Expression
  | [], e => [e]
  | a :: rest, e =>
    match a.join? e with
    | some joined => joined :: rest
    | none => a :: keep rest e

/-- Whether a match begins behind the character before the text, or one that has begun ends. -/
def searchFrom (e : Expression) : Option Char → List Expression → List Char → Bool
  | before, begun, [] => (e :: begun).any (matchesEmpty ⟨before, none⟩)
  | before, begun, c :: rest =>
    let place : Place := ⟨before, some c⟩
    let all := e :: begun
    all.any (matchesEmpty place) ||
      searchFrom e (some c) ((all.flatMap (remainders place c)).foldl keep []) rest

def occursIn (text : List Char) (e : Expression) : Bool := e.searchFrom none [] text

end RuntimeStubs.Pattern.Expression
