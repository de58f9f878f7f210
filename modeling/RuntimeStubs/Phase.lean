/-! The stages of bootstrap in which runtime stubs are produced. -/

set_option autoImplicit false

namespace RuntimeStubs

inductive Phase where
  | initial
  | continuation
  | compiler
  | final
  deriving DecidableEq, Repr, Inhabited

namespace Phase

def all : List Phase := [initial, continuation, compiler, final]

theorem mem_all (phase : Phase) : phase ∈ all := by cases phase <;> decide

def name : Phase → String
  | initial => "Initial"
  | continuation => "Continuation"
  | compiler => "Compiler"
  | final => "Final"

instance : ToString Phase := ⟨name⟩

def ofName? (text : String) : Option Phase := all.find? fun phase => phase.name == text

def number : Phase → Nat
  | initial => 0
  | continuation => 1
  | compiler => 2
  | final => 3

def codeSize : Phase → Nat
  | initial => 20000
  | continuation => 2000
  | compiler => 59000
  | final => 30000

/-- The phases that must be complete before a phase may start. The final phase does not wait for
compiler stubs that are produced later. -/
def requires (delayed : Bool) : Phase → List Phase
  | initial => []
  | continuation => [initial]
  | compiler => [initial, continuation]
  | final => if delayed then [initial, continuation] else [initial, continuation, compiler]

end Phase

end RuntimeStubs
