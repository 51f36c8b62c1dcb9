import ExprMarkup.Source.Parser.Comprehension

namespace ExprMarkup.Source.Rules

open Reader

/-- An item of a list of expressions that may be starred. -/
def starExpression (g : Rules) : Reader (Expr Span) := do
  if ← atMark "*" then g.starred .bitwiseOr else g.read .expression

def yieldExpr (g : Rules) : Reader (Expr Span) := do
  let first ← here
  word "yield"
  if ← skipWord "from" then
    let e ← g.read .expression
    return .other "YieldFrom" [e] (← spanFrom first)
  else if ← atMark ")" then return .other "Yield" [] (← spanFrom first)
  else
    let start ← here
    let e ← g.starExpression
    let value ← if ← atMark "," then g.tupleFrom start e (atMark ")") g.starExpression else pure e
    return .other "Yield" [value] (← spanFrom first)

/-- After a first item: clauses make it a comprehension of the given kind. -/
def comprehension (g : Rules) (kind closing : String) (first : Position) (parts : List (Expr Span)) :
    Reader (Expr Span) := do
  if parts.any isStarred then fail
  else
    let more ← g.clauses
    mark closing
    return .other kind (parts ++ more) (← spanFrom first)

/-- A group is the expression in it, a comma makes a tuple. The opening bracket has been taken, and `first`
is its place. -/
def parenthesized (g : Rules) (first : Position) : Reader (Expr Span) := do
  if ← skipMark ")" then return .sequence true [] (← spanFrom first)
  else if ← atWord "yield" then
    let e ← g.yieldExpr
    mark ")"
    return e
  else
    let e ← g.element
    if ← atClause then g.comprehension "GeneratorExp" ")" first [e]
    else if ← skipMark "," then
      let all ← if ← atMark ")" then pure [e] else items (atMark ")") g.element g.limit [e]
      mark ")"
      return .sequence true all (← spanFrom first)
    else if isStarred e then fail
    else
      mark ")"
      return e

def list (g : Rules) (first : Position) : Reader (Expr Span) := do
  if ← skipMark "]" then return .sequence false [] (← spanFrom first)
  else
    let e ← g.element
    if ← atClause then g.comprehension "ListComp" "]" first [e]
    else
      let all ←
        if ← skipMark "," then
          if ← atMark "]" then pure [e] else items (atMark "]") g.element g.limit [e]
        else pure [e]
      mark "]"
      return .sequence false all (← spanFrom first)

/-- A key with its value, or a mapping to be spread. -/
def member (g : Rules) : Reader (List (Expr Span)) := do
  if ← skipMark "**" then return [← g.read .bitwiseOr]
  else
    let key ← g.read .expression
    mark ":"
    let value ← g.read .expression
    return [key, value]

def closeDict (g : Rules) (first : Position) (parts : List (Expr Span)) : Reader (Expr Span) := do
  let more ←
    if ← skipMark "," then
      if ← atMark r"}" then pure [] else items (atMark r"}") g.member g.limit []
    else pure []
  mark r"}"
  return .other "Dict" (parts ++ more.flatten) (← spanFrom first)

def closeSet (g : Rules) (first : Position) (e : Expr Span) : Reader (Expr Span) := do
  if ← atClause then g.comprehension "SetComp" r"}" first [e]
  else
    let all ←
      if ← skipMark "," then
        if ← atMark r"}" then pure [e] else items (atMark r"}") g.element g.limit [e]
      else pure [e]
    mark r"}"
    return .other "Set" all (← spanFrom first)

def braces (g : Rules) (first : Position) : Reader (Expr Span) := do
  if ← skipMark r"}" then return .other "Dict" [] (← spanFrom first)
  else if ← atMark "**" then
    let parts ← g.member
    g.closeDict first parts
  else if (← atMark "*") || (← atNameBefore ":=") then
    let e ← g.element
    g.closeSet first e
  else
    let e ← g.read .expression
    if ← skipMark ":" then
      let value ← g.read .expression
      if ← atClause then g.comprehension "DictComp" r"}" first [e, value]
      else g.closeDict first [e, value]
    else g.closeSet first e

end ExprMarkup.Source.Rules
