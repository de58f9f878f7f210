/-! The control sequences of terminals, which emphasise parts of a text, and what a stream that is
no terminal shows of a text with such sequences.

`plain` drops control sequences and the control characters that are no white space. A sequence may
come with the text itself, begin anywhere and never end. White space inside an escape or control
sequence is kept and suspends the sequence: what follows it is ordinary text until the next control
character. -/

set_option autoImplicit false

namespace RuntimeStubs.Text

def escape : Char := '\x1b'

def emphasised (text : String) : String :=
  String.ofList [escape, '[', '1', 'm'] ++ text ++ String.ofList [escape, '[', '0', 'm']

namespace ControlSequence

inductive Stage where
  | ground
  | escape
  | escapeIntermediate
  | control
  | controlParameter
  | controlIntermediate
  | controlIgnored
  | device
  | deviceParameter
  | deviceIntermediate
  | deviceIgnored
  | devicePassed
  /-- A string that belongs to an operating system command. -/
  | command
  | string
  deriving DecidableEq, Repr

def isSpace (c : Char) : Bool := c = ' ' || c = '\t' || c = '\n' || c = '\x0c' || c = '\r'

def isPrintable (c : Char) : Bool := ' ' ≤ c && c < '\x7f'

def Stage.executes : Stage → Bool
  | ground | escape | escapeIntermediate | control | controlParameter | controlIntermediate
  | controlIgnored => true
  | device | deviceParameter | deviceIntermediate | deviceIgnored | devicePassed | command
  | string => false

def Stage.onIntermediate : Stage → Stage
  | escape | escapeIntermediate => escapeIntermediate
  | control | controlParameter | controlIntermediate => controlIntermediate
  | device | deviceParameter | deviceIntermediate => deviceIntermediate
  | stage => stage

def Stage.onParameter : Stage → Stage
  | escape | escapeIntermediate => ground
  | control | controlParameter => controlParameter
  | controlIntermediate => controlIgnored
  | device | deviceParameter => deviceParameter
  | deviceIntermediate => deviceIgnored
  | stage => stage

/-- One of the marks of private parameters, which may only come first. -/
def Stage.onPrivate : Stage → Stage
  | escape | escapeIntermediate => ground
  | control => controlParameter
  | controlParameter | controlIntermediate => controlIgnored
  | device => deviceParameter
  | deviceParameter | deviceIntermediate => deviceIgnored
  | stage => stage

def Stage.onFinal (c : Char) : Stage → Stage
  | escape =>
    if c = '[' then control
    else if c = ']' then command
    else if c = 'P' then device
    else if c = 'X' ∨ c = '^' ∨ c = '_' then string
    else ground
  | escapeIntermediate | control | controlParameter | controlIntermediate | controlIgnored => ground
  | device | deviceParameter | deviceIntermediate => devicePassed
  | stage => stage

def Stage.onPrintable (c : Char) (stage : Stage) : Stage :=
  if c < '0' then stage.onIntermediate
  else if c < '<' then stage.onParameter
  else if c < '@' then stage.onPrivate
  else stage.onFinal c

/-- The stage behind a character beyond ASCII. The byte that ends a string may be part of its
encoding. -/
def Stage.onWide (c : Char) : Stage → Stage
  | deviceIgnored => ending deviceIgnored
  | devicePassed => ending devicePassed
  | string => ending string
  | stage => stage
where
  ending (stage : Stage) : Stage :=
    if (String.singleton c).toUTF8.toList.contains 0x9c then ground else stage

structure State where
  stage : Stage
  suspended : Bool
  deriving DecidableEq, Repr

def State.start : State := ⟨.ground, false⟩

/-- Whether a character is text, and where the reading stands behind it. -/
def State.read (c : Char) (s : State) : Bool × State :=
  if c = Text.escape then (false, ⟨.escape, false⟩)
  else if c = '\x18' ∨ c = '\x1a' then (false, .start)
  else if s.stage = .ground ∨ s.suspended then
    if '\x7f' < c then (true, .start)
    else if isPrintable c ∨ isSpace c then (true, s)
    else (false, ⟨resumed s.stage, false⟩)
  else if '\x7f' < c then (false, ⟨s.stage.onWide c, false⟩)
  else if isPrintable c then (false, ⟨s.stage.onPrintable c, false⟩)
  else if s.stage.executes ∧ isSpace c then (true, ⟨s.stage, true⟩)
  else (false, ⟨resumed s.stage, false⟩)
where
  /-- A bell ends the string of a command. -/
  resumed (stage : Stage) : Stage := if stage = .command ∧ c = '\x07' then .ground else stage

def strip : State → List Char → List Char
  | _, [] => []
  | s, c :: rest =>
    match s.read c with
    | (true, s) => c :: strip s rest
    | (false, s) => strip s rest

end ControlSequence

/-- What a stream that is no terminal shows of a text. -/
def plain (text : String) : String :=
  String.ofList (ControlSequence.strip .start text.toList)

end RuntimeStubs.Text
