import RuntimeStubs.Log.Filter
import RuntimeStubs.Action

/-! The log: the diagnostics that pass its filter, in the order in which they were reported. -/

set_option autoImplicit false

namespace RuntimeStubs

structure Log where
  filter : Filter
  records : List Diagnostic
  deriving DecidableEq, Repr

namespace Log

def create (filter : Filter) : Log := ⟨filter, []⟩

def enabled (log : Log) (level : Level) (source : Source) : Bool :=
  log.filter.enabled level source

def report (d : Diagnostic) (log : Log) : Log :=
  if log.filter.keeps d then { log with records := log.records ++ [d] } else log

@[simp] theorem filter_report (d : Diagnostic) (log : Log) :
    (log.report d).filter = log.filter := by
  unfold report
  split <;> rfl

theorem records_report (d : Diagnostic) (log : Log) :
    (log.report d).records = log.records ++ [d].filter log.filter.keeps := by
  unfold report
  split <;> simp_all

def describe (descriptor : Descriptor) (code : Option (List UInt8)) (listing : Bool) (log : Log) :
    Except Abort Unit × Log :=
  let log := log.report (.described descriptor)
  if listing then
    match code with
    | none => (.ok (), log.report (.codeUnavailable descriptor))
    | some bytes =>
      match disassemble bytes descriptor.start with
      | .error cause => (.error cause, log)
      | .ok lines => (.ok (), log.report (.listed descriptor lines))
  else (.ok (), log)

end Log

end RuntimeStubs
