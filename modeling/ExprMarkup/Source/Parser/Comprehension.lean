import ExprMarkup.Source.Parser.Reader

namespace ExprMarkup.Source

/-- What can take an item: names, attributes and subscripts, and sequences of targets, among which one
may be starred. -/
def Expr.isTarget : Expr Span → Bool
  | .name _ _ => true
  | .subscript _ _ _ => true
  | .other kind _ _ => kind == "Attribute"
  | .sequence _ items _ => allTargets items
  | _ => false
where
  allTargets : List (Expr Span) → Bool
    | [] => true
    | .starred value _ :: rest => Expr.isTarget value && allTargets rest
    | e :: rest => Expr.isTarget e && allTargets rest

namespace Rules

open Reader

def target (g : Rules) : Reader (Expr Span) := do
  if ← atMark "*" then
    let e ← g.starred .primary
    match e with
    | .starred value _ => if value.isTarget then return e else fail
    | _ => fail
  else
    let e ← g.read .primary
    if e.isTarget then return e else fail

def atClause : Reader Bool := do
  return (← atWord "for") || (← atWord "async")

/-- One clause, if there is one: the expressions in it. -/
def clause? (g : Rules) : Reader (Option (List (Expr Span))) := do
  if ← atClause then
    let _ ← skipWord "async"
    word "for"
    let targets ← items (atWord "in") g.target g.limit []
    word "in"
    let source ← g.read .disjunction
    let condition? : Reader (Option (Expr Span)) := do
      if ← skipWord "if" then return some (← g.read .disjunction) else return none
    let conditions ← collect condition? g.limit []
    return some (targets ++ source :: conditions)
  else return none

/-- All clauses; there is at least one. -/
def clauses (g : Rules) : Reader (List (Expr Span)) := do
  if ← atClause then
    let all ← collect g.clause? g.limit []
    return all.flatten
  else fail

end Rules

end ExprMarkup.Source
