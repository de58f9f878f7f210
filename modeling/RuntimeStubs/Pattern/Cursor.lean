import RuntimeStubs.Pattern.Complaint

/-! A place in the text of a pattern, and the steps from there.

`Reading` is a computation that moves a cursor and may end with a complaint. In spaced mode, which a
flag turns on, blanks and comments between the parts of a pattern mean nothing. -/

set_option autoImplicit false

namespace RuntimeStubs.Pattern

structure Cursor where
  position : Position
  rest : List Char
  spaced : Bool
  names : List (List Char × Span)

namespace Cursor

def start (text : List Char) : Cursor := ⟨.start, text, false, []⟩

def charSpan (s : Cursor) : Span :=
  ⟨s.position, match s.rest with
    | [] => s.position
    | c :: _ => s.position.after c⟩

def next (s : Cursor) : Cursor :=
  match s.rest with
  | [] => s
  | c :: rest => { s with position := s.position.after c, rest := rest }

/-- Behind blanks and comments. A comment ends with its line. -/
def behindBlanks (inComment : Bool) (position : Position) : List Char → Position × List Char
  | [] => (position, [])
  | c :: rest =>
    if inComment then behindBlanks (c != '\n') (position.after c) rest
    else if Text.isBlank c then behindBlanks false (position.after c) rest
    else if c = '#' then behindBlanks true (position.after c) rest
    else (position, c :: rest)

def skip (s : Cursor) : Cursor :=
  if s.spaced then
    let (position, rest) := behindBlanks false s.position s.rest
    { s with position := position, rest := rest }
  else s

def step (s : Cursor) : Cursor := s.next.skip

/-- Looks for a character that is no blank; the mark of one comment is passed over as well. -/
def firstMark (commented : Bool) : List Char → Option Char
  | [] => none
  | c :: rest =>
    if Text.isBlank c then firstMark commented rest
    else if c = '#' ∧ commented = false then firstMark true rest
    else some c

def second? (s : Cursor) : Option Char :=
  if s.spaced then (firstMark false s.rest.tail).or s.rest.tail.head? else s.rest.tail.head?

def collect (accept : Char → Bool) (s : Cursor) : List Char × Cursor := go s.rest.length s
where
  go : Nat → Cursor → List Char × Cursor
    | 0, s => ([], s)
    | fuel + 1, s =>
      match s.rest with
      | [] => ([], s)
      | c :: _ =>
        if accept c then
          let (cs, t) := go fuel s.step
          (c :: cs, t)
        else ([], s)

end Cursor

abbrev Reading := StateT Cursor (Except Complaint)

namespace Reading

variable {α : Type}

def fail (span : Span) (flaw : Flaw) : Reading α := fun _ => .error { span, flaw }

def conflict (span earlier : Span) (flaw : Flaw) : Reading α :=
  fun _ => .error { span, flaw, earlier := some earlier }

def position : Reading Position := return (← get).position

def current? : Reading (Option Char) := return (← get).rest.head?

def charSpan : Reading Span := return (← get).charSpan

def since (start : Position) : Reading Span := return ⟨start, ← position⟩

def next : Reading Unit := modify Cursor.next

def skip : Reading Unit := modify Cursor.skip

def step : Reading Unit := modify Cursor.step

def collect (accept : Char → Bool) : Reading (List Char) := fun s => .ok (s.collect accept)

def accept (text : String) : Reading Bool := fun s =>
  if text.toList.isPrefixOf s.rest then .ok (true, Nat.repeat Cursor.next text.length s)
  else .ok (false, s)

end Reading

end RuntimeStubs.Pattern
