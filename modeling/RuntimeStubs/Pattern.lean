import RuntimeStubs.Pattern.Footprint
import RuntimeStubs.Pattern.Meaning
import RuntimeStubs.Pattern.Reading
import RuntimeStubs.Pattern.Search

/-! Patterns that select messages.

`Pattern.compile` reads the text of a pattern and answers with the expression that it means, or with
the reason why it cannot be used. `Expression.occursIn` then looks for it in a message. -/

set_option autoImplicit false

namespace RuntimeStubs.Pattern

inductive Rejection where
  | flawed (pattern : List Char) (complaint : Complaint)
  | tooLarge
  | wordsUnavailable
  deriving DecidableEq, Repr

def Rejection.message : Rejection → String
  | flawed pattern complaint => complaint.report pattern
  | tooLarge => s!"Compiled regex exceeds size limit of {Footprint.limit} bytes."
  | wordsUnavailable => "error building NFA"

/-- The expression that the text of a pattern means. Words made of letters of any script cannot be
told apart. -/
def compile (text : String) : Except Rejection Expression :=
  match (do (← Tree.read text.toList).meaning .initial) with
  | .error complaint => .error (.flawed text.toList complaint)
  | .ok (e, _) =>
    if !e.fits then .error .tooLarge
    else if e.needsUnicodeWords then .error .wordsUnavailable
    else .ok e

end RuntimeStubs.Pattern
