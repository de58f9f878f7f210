import RuntimeStubs.CommandLine.Arguments
import RuntimeStubs.Proofs.Address.Reading

/-! Arguments for every invocation.

The program can be asked for any options and any list of addresses: the arguments that name them are
read as just that (`parse_asking`). -/

set_option autoImplicit false

namespace RuntimeStubs.CommandLine

def askingFor (pc : Address) : String := "--lookup=" ++ pc.toText

def asking (options : Options) (lookups : List Address) : List String :=
  (if options.printStubCode then ["--print-stub-code"] else []) ++
    (if options.delayCompilerStubs then ["--delay-compiler-stubs"] else []) ++
    (if options.archiveStubs then ["--archive"] else []) ++ lookups.map askingFor

namespace Arguments

structure State.Open (s : State) : Prop where
  settled : s.pending = .none
  optionsOver : s.optionsOver = false

def State.withLookups (lookups : List Address) (s : State) : State :=
  { s with invocation := { s.invocation with lookups := s.invocation.lookups ++ lookups } }

-- The name of the option ends at the equality sign, whatever the value.
theorem meetArgument_lookup {s : State} (ready : s.Open) (text : String) :
    meetArgument ("--lookup=" ++ text) s = addLookup text s := by
  have body : ("--lookup=" ++ text).toList =
      '-' :: '-' :: 'l' :: 'o' :: 'o' :: 'k' :: 'u' :: 'p' :: '=' :: text.toList := by
    rw [String.toList_append]
    rfl
  have long : meetArgument ("--lookup=" ++ text) s =
      meetLong ('l' :: 'o' :: 'o' :: 'k' :: 'u' :: 'p' :: '=' :: text.toList) s := by
    rw [meetArgument, ready.optionsOver, body]
    rfl
  have name : ('l' :: 'o' :: 'o' :: 'k' :: 'u' :: 'p' :: '=' :: text.toList).takeWhile
      (· != '=') = lookupName := rfl
  have value : (('l' :: 'o' :: 'o' :: 'k' :: 'u' :: 'p' :: '=' :: text.toList).dropWhile
      (· != '=')).tail?.map String.ofList = some text := congrArg some String.ofList_toList
  rw [long, meetLong, name, value]
  simp only [if_true, settle, ready.settled]

theorem meetArgument_askingFor {s : State} (ready : s.Open) (pc : Address) :
    meetArgument (askingFor pc) s = .ok (s.withLookups [pc]) := by
  rw [askingFor, meetArgument_lookup ready]
  simp only [addLookup, Address.read_toText, State.withLookups, ready.settled]

theorem meetAll_askingFor (lookups : List Address) {s : State} (ready : s.Open) :
    meetAll (lookups.map askingFor) s = .ok (s.withLookups lookups) := by
  induction lookups generalizing s with
  | nil =>
    rw [List.map_nil, meetAll, settle, ready.settled, State.withLookups, List.append_nil]
  | cons pc rest ih =>
    have next : (s.withLookups [pc]).Open := ⟨ready.settled, ready.optionsOver⟩
    rw [List.map_cons, meetAll, meetArgument_askingFor ready pc]
    dsimp only
    rw [ih next]
    simp only [State.withLookups, List.append_assoc, List.singleton_append]

theorem meetAll_flag {isSet : Bool} {text : String} {s t : State} (rest : List String)
    (met : isSet = true → meetArgument text s = .ok t) (unmet : isSet = false → t = s) :
    meetAll ((if isSet then [text] else []) ++ rest) s = meetAll rest t := by
  cases isSet with
  | true => simp only [if_true, List.singleton_append, meetAll, met rfl]
  | false => simp only [Bool.false_eq_true, if_false, List.nil_append, unmet rfl]

def State.ofOptions (options : Options) : State := ⟨⟨options, [], 0⟩, .none, false⟩

end Arguments

open Arguments in
theorem parse_asking (options : Options) (lookups : List Address) :
    Arguments.parse (asking options lookups) = .ok ⟨options, lookups, 0⟩ := by
  obtain ⟨print, delay, archive⟩ := options
  have printed : print = true → meetArgument "--print-stub-code" State.start =
      .ok (.ofOptions ⟨print, false, false⟩) := by
    rintro rfl
    rfl
  have delayed : delay = true → meetArgument "--delay-compiler-stubs"
      (.ofOptions ⟨print, false, false⟩) = .ok (.ofOptions ⟨print, delay, false⟩) := by
    rintro rfl
    rfl
  have archived : archive = true → meetArgument "--archive"
      (.ofOptions ⟨print, delay, false⟩) = .ok (.ofOptions ⟨print, delay, archive⟩) := by
    rintro rfl
    rfl
  rw [Arguments.parse, asking, List.append_assoc, List.append_assoc,
    meetAll_flag _ printed (by rintro rfl; rfl), meetAll_flag _ delayed (by rintro rfl; rfl),
    meetAll_flag _ archived (by rintro rfl; rfl), meetAll_askingFor lookups ⟨rfl, rfl⟩]
  rfl

end RuntimeStubs.CommandLine
