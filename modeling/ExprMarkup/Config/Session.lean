import ExprMarkup.Config

namespace ExprMarkup.Config

/-- What a program does with the configuration in force. A block gives back the one before it, in whatever
way it ends. A thread begins with the default and leaves its caller's alone. -/
inductive Step (α : Type)
  /-- Uses the configuration in force. -/
  | use (action : Option Config → α)
  | set (config : Option Config)
  | reset
  /-- Ends all steps up to the nearest enclosing `attempt`. -/
  | raise
  | block (config : Option Config) (body : List (Step α))
  | attempt (body : List (Step α))
  | thread (body : List (Step α))

/-- What some steps leave behind: the configuration in force, the results of the actions in order, and
whether an exception is under way. -/
structure Outcome (α : Type) where
  current : Option Config
  results : List α
  raised : Bool

mutual

def Step.run {α : Type} (current : Option Config) : Step α → Outcome α
  | .use action => ⟨current, [action current], false⟩
  | .set config => ⟨config, [], false⟩
  | .reset => ⟨some default, [], false⟩
  | .raise => ⟨current, [], true⟩
  | .block config body =>
    let inner := runSteps config body
    ⟨current, inner.results, inner.raised⟩
  | .attempt body =>
    let inner := runSteps current body
    ⟨inner.current, inner.results, false⟩
  | .thread body =>
    let inner := runSteps (some default) body
    ⟨current, inner.results, false⟩

def runSteps {α : Type} (current : Option Config) : List (Step α) → Outcome α
  | [] => ⟨current, [], false⟩
  | step :: rest =>
    let first := step.run current
    if first.raised then first
    else
      let later := runSteps first.current rest
      ⟨later.current, first.results ++ later.results, later.raised⟩

end

end ExprMarkup.Config
