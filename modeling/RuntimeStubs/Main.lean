import RuntimeStubs.CommandLine.Program

/-! The program: its arguments and the variables it looks at go in, its texts and exit code come
out. -/

set_option autoImplicit false

namespace RuntimeStubs

def readEnvironment : List String → IO (List (String × String))
  | [] => return []
  | name :: rest => do
    let value ← IO.getEnv name
    let others ← readEnvironment rest
    match value with
    | some value => return (name, value) :: others
    | none => return others

end RuntimeStubs

open RuntimeStubs in
def main (arguments : List String) : IO UInt32 := do
  let environment ← readEnvironment [Options.printVariable, Options.delayVariable,
    Options.archiveVariable, CommandLine.logVariable]
  let output := CommandLine.run [] arguments fun name => environment.lookup name
  (← IO.getStdout).putStr output.out
  (← IO.getStderr).putStr output.err
  return UInt32.ofNat output.exit
