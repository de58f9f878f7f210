import RuntimeStubs.Archive.Snapshot
import RuntimeStubs.Bootstrap.Worker
import RuntimeStubs.Code.StubBody
import RuntimeStubs.CommandLine.Arguments
import RuntimeStubs.Statistics

/-! What the program does with an invocation.

It runs the four phases over the stubs' own code and reports statistics. With archives, it then
restores every archive from its snapshot and hydrates a second bootstrap from them. At the end it
tells which stub each look-up address lies in. Delayed compiler stubs are generated by a second
worker beside the final phase; how the two take turns is a parameter, which may differ between the
two bootstraps. -/

set_option autoImplicit false

namespace RuntimeStubs.CommandLine

def codeBase : Nat := 0x7f1000000000

/-- The distance between the buffers of two phases, more than the code of any phase. -/
def phaseStride : Nat := 0x100000

def phaseBase (kind : Phase) : Address := ⟨UInt64.ofNat (codeBase + phaseStride * kind.number)⟩

def task (stub : Stub) : Task CodeBuffer := ⟨stub, stub.extraEntries, stub.emitBody⟩

abbrev Archives := Phase → Option Archive

def Archives.put (kind : Phase) (archive : Option Archive) (archives : Archives) : Archives :=
  fun other => if other = kind then archive else archives other

def worker (kind : Phase) (archives : Archives) : Worker CodeBuffer Unit :=
  Worker.create kind
    (Generator.create (CodeBuffer.forPhase kind (phaseBase kind)) Hooks.standard ()
      (archives kind) .logging false)
    (kind.stubs.map task)

structure Site where
  shared : BootstrapState
  archives : Archives

def outcome (w : Worker CodeBuffer Unit) : Except Fault Unit :=
  match w.fault? with
  | some fault => .error fault
  | none => .ok ()

def runPhase (kind : Phase) : Action Site Unit := fun site =>
  match (worker kind site.archives).run site.shared with
  | (w, shared) =>
    (outcome w, ⟨shared, Archives.put kind w.generator.archive site.archives⟩)

/-- How a worker for the final phase and one for the delayed compiler phase come to their ends
beside each other. -/
abbrev Alongside :=
  Worker CodeBuffer Unit → Worker CodeBuffer Unit → BootstrapState →
    (Worker CodeBuffer Unit × Worker CodeBuffer Unit) × BootstrapState

def runDelayed (alongside : Alongside) : Action Site Unit := fun site =>
  match alongside (worker .final site.archives) (worker .compiler site.archives) site.shared with
  | ((final, compiler), shared) =>
    let result := match outcome final with
      | .ok _ => outcome compiler
      | .error fault => .error fault
    (result, ⟨shared, Archives.put .compiler compiler.generator.archive
      (Archives.put .final final.generator.archive site.archives)⟩)

def runPhases (delayed : Bool) (alongside : Alongside) : Action Site Unit := do
  runPhase .initial
  runPhase .continuation
  if delayed then runDelayed alongside
  else do
    runPhase .compiler
    runPhase .final

structure Console where
  out : String
  log : Log

namespace Console

def print (text : String) : Action Console Unit :=
  Action.modify fun c => { c with out := c.out ++ text }

def report (d : Diagnostic) : Action Console Unit :=
  Action.modify fun c => { c with log := c.log.report d }

end Console

def bootstrap (options : Options) (alongside : Alongside) (archives : Archives) :
    Action Console (Registry × Archives) := fun c =>
  match runPhases options.delayCompilerStubs alongside
      ⟨⟨Bootstrap.create options.delayCompilerStubs options.printStubCode, Registry.empty, c.log⟩,
        archives⟩ with
  | (.ok _, site) =>
    (.ok (site.shared.registry, site.archives), { c with log := site.shared.log })
  | (.error fault, site) => (.error fault, { c with log := site.shared.log })

/-- Restores the archives of the given phases from their snapshots, as a later run would. -/
def restore (archives : Archives) : List Phase → Action Console Archives
  | [] => return fun _ => none
  | kind :: rest =>
    match archives kind with
    | none => restore archives rest
    | some archive => do
      Console.report (.archiveRestored archive.kind archive.storedCount archive.addresses.length)
      let restored ← Action.ofExcept (Archive.ofSnapshot archive.snapshot)
      let others ← restore archives rest
      return Archives.put restored.kind (some restored) others

def lookupLine (registry : Registry) (pc : Address) : String :=
  match registry.find? pc with
  | some d => pc.toText ++ ": " ++ d.toText
  | none => pc.toText ++ ": not in any stub"

def rehydrate (options : Options) (alongside : Alongside) (archives : Archives) :
    Action Console Registry := do
  let restored ← restore archives Phase.all
  let (registry, _) ← bootstrap options alongside restored
  let statistics ← Action.ofExcept (Fault.ofAborting (Statistics.collect registry))
  Console.print ("After hydration:\n" ++ statistics.toText ++ "\n")
  if statistics.generated ≠ 0 then Console.report (.regenerated statistics.generated)
  return registry

def execute (options : Options) (alongside alongsideAgain : Alongside) (lookups : List Address) :
    Action Console Unit := do
  Console.report (.optionsChosen options)
  let fresh : Archives := fun kind =>
    if options.archiveStubs then some (Archive.create kind) else none
  let (first, archives) ← bootstrap options alongside fresh
  let statistics ← Action.ofExcept (Fault.ofAborting (Statistics.collect first))
  Console.print (statistics.toText ++ "\n")
  let registry ←
    if options.archiveStubs then rehydrate options alongsideAgain archives else pure first
  Console.print (String.join (lookups.map fun pc => lookupLine registry pc ++ "\n"))

structure Output where
  exit : Nat
  out : String
  err : String
  deriving DecidableEq, Repr

def usageLine : String := "Usage: stubgen [OPTIONS]\n"

def helpText : String :=
  "Generate, archive and look up runtime stubs\n" ++
  "\n" ++
  usageLine ++
  "\n" ++
  "Options:\n" ++
  "      --print-stub-code       Disassemble every freshly generated stub\n" ++
  "      --delay-compiler-stubs  Generate compiler stubs on a worker thread after the eager phases\n" ++
  "      --archive               Archive every phase and hydrate a second bootstrap from the archives\n" ++
  "      --lookup <PC>           Report the stub containing each address (hex, 0x prefix optional)\n" ++
  "  -v, --verbose...            Increase log verbosity (-v info, -vv debug, -vvv trace)\n" ++
  "  -h, --help                  Print help\n" ++
  "  -V, --version               Print version\n"

def versionText : String := "stubgen 0.1.0\n"

/-- What the error stream, which is no terminal, shows of a mistake in the arguments. -/
def usageErrorText (fault : UsageFault) : String :=
  Text.plain ("error: " ++ fault.message ++ "\n\n" ++
    (if fault.showsUsage then usageLine ++ "\n" else "") ++
    "For more information, try '" ++ Text.emphasised "--help" ++ "'.\n")

/-- A report on the error stream. The further lines of its message are indented. -/
def errorText (d : Diagnostic) : String :=
  let message := d.message.toList.flatMap fun c =>
    if c = '\n' then '\n' :: List.replicate 4 ' ' else [c]
  "[" ++ Text.padRight 5 d.level.name ++ " " ++ d.source.target ++ "] " ++ String.ofList message ++
    "\n"

/-- The variable that selects the reports, in place of the verbosity. -/
def logVariable : String := "RUST_LOG"

/-- More verbose invocations keep more than warnings. -/
def verbosityLimit (verbosity : Nat) : Nat := min (Level.warn.rank + verbosity) Level.trace.rank

def chosenFilter (verbosity : Nat) (lookup : String → Option String) : Filter × List String :=
  match lookup logVariable with
  | some text => Filter.parse text
  | none => (Filter.upTo (verbosityLimit verbosity), [])

/-- Runs the program with its arguments in an environment. The final phase and a delayed compiler
phase are carried through as given, for each bootstrap on its own. -/
def runAlongside (alongside alongsideAgain : Alongside) (arguments : List String)
    (lookup : String → Option String) : Output :=
  match Arguments.parse arguments with
  | .error .help => ⟨0, helpText, ""⟩
  | .error .version => ⟨0, versionText, ""⟩
  | .error (.mistake fault) => ⟨2, "", usageErrorText fault⟩
  | .ok invocation =>
    let (filter, complaints) := chosenFilter invocation.verbosity lookup
    let options := (Options.ofEnvironment lookup).union invocation.options
    let warnings := String.join (complaints.map fun c => "warning: " ++ c ++ ", ignoring it\n")
    match execute options alongside alongsideAgain invocation.lookups ⟨"", Log.create filter⟩ with
    | (.ok _, c) => ⟨0, c.out, warnings ++ String.join (c.log.records.map errorText)⟩
    | (.error fault, c) =>
      let log := c.log.report (.failed fault)
      ⟨1, c.out, warnings ++ String.join (log.records.map errorText) ++ "Error: " ++
        fault.message ++ "\n"⟩

def run (schedule : List Bool) : List String → (String → Option String) → Output :=
  runAlongside (Worker.interleave schedule) (Worker.interleave schedule)

end RuntimeStubs.CommandLine
