import RuntimeStubs.Text

/-! Options of stub generation, read from the environment. -/

set_option autoImplicit false

namespace RuntimeStubs

structure Options where
  printStubCode : Bool
  delayCompilerStubs : Bool
  archiveStubs : Bool
  deriving DecidableEq, Repr, Inhabited

namespace Options

/-- A flag is set by `1`, `true`, `yes` or `on`, in any case and with blanks around it. -/
def isSet (value : String) : Bool :=
  let word := String.ofList ((Text.trim value.toList).map Char.toLower)
  word == "1" || word == "true" || word == "yes" || word == "on"

def printVariable : String := "STUBGEN_PRINT_STUB_CODE"

def delayVariable : String := "STUBGEN_DELAY_COMPILER_STUBS"

def archiveVariable : String := "STUBGEN_ARCHIVE_STUBS"

/-- A variable that is not in the environment leaves its option off. -/
def ofEnvironment (lookup : String → Option String) : Options where
  printStubCode := (lookup printVariable).any isSet
  delayCompilerStubs := (lookup delayVariable).any isSet
  archiveStubs := (lookup archiveVariable).any isSet

def union (first second : Options) : Options where
  printStubCode := first.printStubCode || second.printStubCode
  delayCompilerStubs := first.delayCompilerStubs || second.delayCompilerStubs
  archiveStubs := first.archiveStubs || second.archiveStubs

def toText (o : Options) : String :=
  "StubGenOptions \x7b print_stub_code: " ++ toString o.printStubCode ++
    ", delay_compiler_stubs: " ++ toString o.delayCompilerStubs ++
    ", archive_stubs: " ++ toString o.archiveStubs ++ " \x7d"

instance : ToString Options := ⟨toText⟩

end Options

end RuntimeStubs
