import RuntimeStubs.Proofs.Log.Loudness
import RuntimeStubs.Scenario.Run

/-! Settings of a scenario that only concern what is reported.

Two scenarios may differ in which of their sessions list code (`Command.Louder`). A scenario without
any such session is a common ground for all scenarios that differ in nothing else. The answers of a
scenario mention the setting in one place: hooks that keep their calls also keep what they were told
about it. -/

set_option autoImplicit false

namespace RuntimeStubs.Scenario

def HookCall.plain : HookCall → HookCall
  | .prolog d => .prolog d
  | .epilog d _ code => .epilog d false code

mutual

/-- The answer, without what hooks that keep their calls were told about listings. -/
def Answer.plain : Answer → Answer
  | .session fault steps state events calls pc =>
    .session fault (plainAll steps) state events (calls.map (List.map HookCall.plain)) pc
  | answer => answer

def Answer.plainAll : List (Except Fault Answer) → List (Except Fault Answer)
  | [] => []
  | .ok answer :: rest => .ok answer.plain :: plainAll rest
  | .error fault :: rest => .error fault :: plainAll rest

end

@[simp] theorem Answer.plainAll_cons (result : Except Fault Answer)
    (rest : List (Except Fault Answer)) :
    plainAll (result :: rest) = result.map plain :: plainAll rest := by
  cases result <;> rfl

mutual

/-- The second command is the first, with more sessions that list code if that is allowed. -/
inductive Command.Louder (allowed : Prop) : Command → Command → Prop
  | operation (operation : Operation) :
    Command.Louder allowed (.operation operation) (.operation operation)
  | newBootstrap (registry : Nat) (delayed : Bool) {first second : Bool} :
    Switched allowed first second →
    Command.Louder allowed (.operation (.newBootstrap registry delayed first))
      (.operation (.newBootstrap registry delayed second))
  | phase (kind : Phase) (setup : Setup) {first second : List BodyStep} :
    BodyStep.AllLouder allowed first second →
    Command.Louder allowed (.phase kind setup first) (.phase kind setup second)
  | generator (registry : Nat) (setup : Setup) (hooks : HookKind) {listing other : Bool}
    {first second : List BodyStep} : Switched allowed listing other →
    BodyStep.AllLouder allowed first second →
    Command.Louder allowed (.generator registry setup hooks listing first)
      (.generator registry setup hooks other second)

inductive BodyStep.Louder (allowed : Prop) : BodyStep → BodyStep → Prop
  | session (operation : SessionOperation) :
    BodyStep.Louder allowed (.session operation) (.session operation)
  | outer {first second : Command} : Command.Louder allowed first second →
    BodyStep.Louder allowed (.outer first) (.outer second)

inductive BodyStep.AllLouder (allowed : Prop) : List BodyStep → List BodyStep → Prop
  | nil : BodyStep.AllLouder allowed [] []
  | cons {first second : BodyStep} {rest others : List BodyStep} :
    BodyStep.Louder allowed first second → BodyStep.AllLouder allowed rest others →
    BodyStep.AllLouder allowed (first :: rest) (second :: others)

end

mutual

def Command.unlisted : Command → Command
  | .operation (.newBootstrap registry delayed _) =>
    .operation (.newBootstrap registry delayed false)
  | .operation operation => .operation operation
  | .phase kind setup body => .phase kind setup (BodyStep.unlistedAll body)
  | .generator registry setup hooks _ body =>
    .generator registry setup hooks false (BodyStep.unlistedAll body)

def BodyStep.unlisted : BodyStep → BodyStep
  | .session operation => .session operation
  | .outer command => .outer command.unlisted

def BodyStep.unlistedAll : List BodyStep → List BodyStep
  | [] => []
  | step :: rest => step.unlisted :: BodyStep.unlistedAll rest

end

mutual

theorem Command.louder_unlisted : ∀ command : Command, command.unlisted.Louder True command
  | .operation operation => by
    cases operation <;>
      first
      | exact .newBootstrap _ _ (switched_off _)
      | exact .operation _
  | .phase kind setup body => .phase kind setup (BodyStep.louder_unlistedAll body)
  | .generator registry setup hooks listing body =>
    .generator registry setup hooks (switched_off listing) (BodyStep.louder_unlistedAll body)

theorem BodyStep.louder_unlisted : ∀ step : BodyStep, step.unlisted.Louder True step
  | .session operation => .session operation
  | .outer command => .outer command.louder_unlisted

theorem BodyStep.louder_unlistedAll :
    ∀ body : List BodyStep, BodyStep.AllLouder True (BodyStep.unlistedAll body) body
  | [] => .nil
  | step :: rest => .cons step.louder_unlisted (BodyStep.louder_unlistedAll rest)

end

mutual

theorem Command.Louder.refl : ∀ command : Command, command.Louder False command
  | .operation operation => .operation operation
  | .phase kind setup body => .phase kind setup (BodyStep.allLouder_refl body)
  | .generator registry setup hooks _ body =>
    .generator registry setup hooks (.inl rfl) (BodyStep.allLouder_refl body)

theorem BodyStep.Louder.refl : ∀ step : BodyStep, step.Louder False step
  | .session operation => .session operation
  | .outer command => .outer (Command.Louder.refl command)

theorem BodyStep.allLouder_refl : ∀ body : List BodyStep, BodyStep.AllLouder False body body
  | [] => .nil
  | step :: rest => .cons (BodyStep.Louder.refl step) (BodyStep.allLouder_refl rest)

end

end RuntimeStubs.Scenario
