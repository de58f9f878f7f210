import RuntimeStubs.Log.Diagnostic
import RuntimeStubs.Pattern

/-! Which diagnostics are kept.

A filter is a list of directives, each of which sets the highest rank kept for the targets that
begin with its name. The directive with the longest such name decides. Of the messages of what is
kept, a pattern may select some. `Filter.parse` reads the usual notation, such as
`warn,stubcode::core=trace/fence`, and returns what it could not read. -/

set_option autoImplicit false

namespace RuntimeStubs

structure Directive where
  /-- Applies to every target if there is none. -/
  target : Option String
  /-- The highest rank that is kept; nothing is kept at zero. -/
  limit : Nat
  deriving DecidableEq, Repr

def Directive.applies (d : Directive) (target : String) : Bool :=
  d.target.all fun name => name.toList.isPrefixOf target.toList

structure Filter where
  /-- Shorter names come first. -/
  directives : List Directive
  /-- Messages in which this does not occur are dropped. -/
  pattern : Option Pattern.Expression
  deriving DecidableEq, Repr

namespace Filter

def upTo (limit : Nat) : Filter := ⟨[⟨none, limit⟩], none⟩

def limit (filter : Filter) (target : String) : Nat :=
  match filter.directives.reverse.find? fun d => d.applies target with
  | some d => d.limit
  | none => 0

def enabled (filter : Filter) (level : Level) (source : Source) : Bool :=
  level.rank ≤ filter.limit source.target

def keeps (filter : Filter) (d : Diagnostic) : Bool :=
  filter.enabled d.level d.source &&
    filter.pattern.all fun e => e.occursIn d.message.toList

@[simp] theorem enabled_upTo (limit : Nat) (level : Level) (source : Source) :
    (upTo limit).enabled level source = decide (level.rank ≤ limit) := by
  simp [upTo, enabled, Filter.limit, Directive.applies]

@[simp] theorem keeps_upTo (limit : Nat) (d : Diagnostic) :
    (upTo limit).keeps d = decide (d.level.rank ≤ limit) := by
  simp only [keeps, enabled_upTo]
  simp [upTo]

def limitOfName? (word : String) : Option Nat :=
  let word := String.ofList (word.toList.map Char.toUpper)
  if word = "OFF" then some 0
  else (Level.all.find? fun level => level.name == word).map Level.rank

def fields (separator : Char) (cs : List Char) : List (List Char) :=
  match cs with
  | [] => [[]]
  | c :: rest =>
    if c = separator then [] :: fields separator rest
    else
      match fields separator rest with
      | first :: others => (c :: first) :: others
      | [] => [[c]]

/-- A level alone, a target alone, or a target, an equality sign and a level. What is not a
directive is returned as it stands in the message about it. -/
def directive (part : List Char) : Except String Directive :=
  match fields '=' part with
  | [single] =>
    match limitOfName? (String.ofList single) with
    | some limit => .ok ⟨none, limit⟩
    | none => .ok ⟨some (String.ofList single), Level.trace.rank⟩
  | [target, level] =>
    let level := Text.trim level
    if level.isEmpty then .ok ⟨some (String.ofList target), Level.trace.rank⟩
    else
      match limitOfName? (String.ofList level) with
      | some limit => .ok ⟨some (String.ofList target), limit⟩
      | none => .error ("invalid logging spec '" ++ String.ofList level ++ "'")
  | _ => .error ("invalid logging spec '" ++ String.ofList part ++ "'")

/-- A later directive replaces an earlier one for the same target. -/
def insert (d : Directive) (directives : List Directive) : List Directive :=
  if directives.any fun e => e.target == d.target then
    directives.map fun e => if e.target == d.target then d else e
  else directives ++ [d]

def nameSize (d : Directive) : Nat := (d.target.map String.utf8ByteSize).getD 0

/-- The pattern behind the stroke, if there is a stroke. A pattern that cannot be used is left out,
and the message says why. -/
def patternOf : List (List Char) → Option Pattern.Expression × List String
  | [] => (none, [])
  | text :: _ =>
    match Pattern.compile (String.ofList text) with
    | .ok e => (some e, [])
    | .error rejection => (none, ["invalid regex filter - " ++ rejection.message])

/-- Without a directive only errors are kept. -/
def ofDirectives (directives : List Directive) (pattern : Option Pattern.Expression) : Filter :=
  if directives.isEmpty then ⟨[⟨none, Level.error.rank⟩], pattern⟩
  else ⟨Sorting.sort (fun a b => nameSize a ≤ nameSize b) directives, pattern⟩

/-- Directives separated by commas, then optionally a stroke and a pattern. -/
def parse (text : String) : Filter × List String :=
  match fields '/' text.toList with
  | [] => (ofDirectives [] none, [])
  | parts@(directives :: rest) =>
    if 2 < parts.length then
      (ofDirectives [] none, ["invalid logging spec '" ++ text ++ "' (too many '/'s)"])
    else
      let words := ((fields ',' directives).map Text.trim).filter fun part => !part.isEmpty
      let read := words.map directive
      let faults := read.filterMap fun d => match d with
        | .error reason => some reason
        | .ok _ => none
      let (pattern, flaws) := patternOf rest
      (ofDirectives (read.foldl (fun all d => d.toOption.elim all (insert · all)) []) pattern,
        faults ++ flaws)

end Filter

end RuntimeStubs
