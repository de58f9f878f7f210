import RuntimeStubs.Address.Reading
import RuntimeStubs.Options
import RuntimeStubs.Text.ControlSequence

/-! The arguments of the command line.

Arguments are read from left to right. `Arguments.parse` answers with an invocation, with a request
for help or for the version, or with the first mistake. The value of a look-up that is given as an
argument of its own is examined only when the next option that is known, or the end, is reached; an
argument that is not known at all is a mistake before that. -/

set_option autoImplicit false

namespace RuntimeStubs.CommandLine

structure Invocation where
  options : Options
  lookups : List Address
  verbosity : Nat
  deriving DecidableEq, Repr

inductive UsageFault where
  | invalidAddress (text : String) (fault : NumberFault)
  | missingValue
  | unexpectedArgument (text : String)
  | repeatedFlag (flag : String)
  | unexpectedValue (value flag : String)
  deriving DecidableEq, Repr

def UsageFault.message : UsageFault → String
  | invalidAddress text fault =>
    "invalid value '" ++ Text.emphasised text ++ "' for '" ++ Text.emphasised "--lookup <PC>" ++
      "': invalid address " ++ text ++ ": " ++ fault.message
  | missingValue =>
    "a value is required for '" ++ Text.emphasised "--lookup <PC>" ++ "' but none was supplied"
  | unexpectedArgument text => "unexpected argument '" ++ Text.emphasised text ++ "' found"
  | repeatedFlag flag =>
    "the argument '" ++ Text.emphasised flag ++ "' cannot be used multiple times"
  | unexpectedValue value flag =>
    "unexpected value '" ++ Text.emphasised value ++ "' for '" ++ Text.emphasised flag ++
      "' found; no more were expected"

def UsageFault.showsUsage : UsageFault → Bool
  | unexpectedArgument _ | repeatedFlag _ => true
  | invalidAddress .. | missingValue | unexpectedValue .. => false

inductive Ending where
  | help
  | version
  | mistake (fault : UsageFault)
  deriving DecidableEq, Repr

namespace Arguments

/-- A look-up whose value has not been examined, or has not even been given. -/
inductive Pending where
  | none
  | awaiting
  | given (text : String)
  deriving DecidableEq, Repr

structure State where
  invocation : Invocation
  pending : Pending
  /-- Behind `--` there are no options. -/
  optionsOver : Bool
  deriving DecidableEq, Repr

def State.start : State := ⟨⟨⟨false, false, false⟩, [], 0⟩, .none, false⟩

def addLookup (text : String) (s : State) : Except Ending State :=
  match Address.read text with
  | .error fault => .error (.mistake (.invalidAddress text fault))
  | .ok address => .ok { s with
      invocation := { s.invocation with lookups := s.invocation.lookups ++ [address] }
      pending := .none }

def settle (s : State) : Except Ending State :=
  match s.pending with
  | .none => .ok s
  | .awaiting => .error (.mistake .missingValue)
  | .given text => addLookup text s

inductive Known where
  | printStubCode
  | delayCompilerStubs
  | archive
  | verbose
  | help
  | version
  deriving DecidableEq, Repr

namespace Known

def all : List Known := [printStubCode, delayCompilerStubs, archive, verbose, help, version]

def name : Known → String
  | printStubCode => "print-stub-code"
  | delayCompilerStubs => "delay-compiler-stubs"
  | archive => "archive"
  | verbose => "verbose"
  | help => "help"
  | version => "version"

/-- The option as messages name it. An option that may be repeated is followed by dots. -/
def usage (known : Known) : String :=
  "--" ++ known.name ++ if known = verbose then "..." else ""

def ofName? (name : List Char) : Option Known :=
  all.find? fun known => known.name.toList == name

def ofLetter? (letter : Char) : Option Known :=
  if letter = 'v' then some verbose
  else if letter = 'h' then some help
  else if letter = 'V' then some version
  else none

end Known

def setFlag (known : Known) (isSet : Bool) (set : Options → Options) (s : State) :
    Except Ending State :=
  if isSet then .error (.mistake (.repeatedFlag known.usage))
  else .ok { s with
    invocation := { s.invocation with options := set s.invocation.options } }

def meet (known : Known) (s : State) : Except Ending State :=
  match settle s with
  | .error ending => .error ending
  | .ok s =>
    match known with
    | .printStubCode =>
      setFlag known s.invocation.options.printStubCode ({ · with printStubCode := true }) s
    | .delayCompilerStubs =>
      setFlag known s.invocation.options.delayCompilerStubs
        ({ · with delayCompilerStubs := true }) s
    | .archive => setFlag known s.invocation.options.archiveStubs ({ · with archiveStubs := true }) s
    | .verbose =>
      .ok { s with invocation := { s.invocation with verbosity := s.invocation.verbosity + 1 } }
    | .help => .error .help
    | .version => .error .version

def meetLetters : List Char → State → Except Ending State
  | [], s => .ok s
  | letter :: rest, s =>
    match Known.ofLetter? letter with
    | none => .error (.mistake (.unexpectedArgument (String.ofList ['-', letter])))
    | some known =>
      match meet known s with
      | .error ending => .error ending
      | .ok s => meetLetters rest s

def lookupName : List Char := "lookup".toList

def meetLong (body : List Char) (s : State) : Except Ending State :=
  let name := body.takeWhile (· != '=')
  let value := (body.dropWhile (· != '=')).tail?.map String.ofList
  if name = lookupName then
    match settle s, value with
    | .error ending, _ => .error ending
    | .ok s, some text => addLookup text s
    | .ok s, none => .ok { s with pending := .awaiting }
  else
    match Known.ofName? name, value with
    | none, _ => .error (.mistake (.unexpectedArgument (String.ofList ('-' :: '-' :: name))))
    | some known, some text => .error (.mistake (.unexpectedValue text known.usage))
    | some known, none => meet known s

/-- An argument that is no option is the value of a look-up that waits for one. -/
def meetWord (text : String) (s : State) : Except Ending State :=
  if s.optionsOver = false ∧ s.pending = .awaiting then .ok { s with pending := .given text }
  else .error (.mistake (.unexpectedArgument text))

def meetArgument (text : String) (s : State) : Except Ending State :=
  if s.optionsOver then meetWord text s
  else
    match text.toList with
    | ['-', '-'] => .ok { s with optionsOver := true }
    | '-' :: '-' :: body => meetLong body s
    | ['-'] => meetWord text s
    | '-' :: letters => meetLetters letters s
    | _ => meetWord text s

def meetAll : List String → State → Except Ending State
  | [], s => settle s
  | text :: rest, s =>
    match meetArgument text s with
    | .error ending => .error ending
    | .ok s => meetAll rest s

def parse (arguments : List String) : Except Ending Invocation :=
  match meetAll arguments State.start with
  | .ok s => .ok s.invocation
  | .error ending => .error ending

end Arguments

end RuntimeStubs.CommandLine
