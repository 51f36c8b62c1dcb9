import ExprMarkup.Source.Parser.Reader

namespace ExprMarkup.Source

/-- The parameters read so far. A slash ends those that are positional only, a star begins those that are
named only, and two stars take the rest. -/
structure Parameters where
  hasPlain : Bool
  hasDefault : Bool
  hasSlash : Bool
  hasStar : Bool
  /-- A bare star still needs a parameter behind it. -/
  isPending : Bool
  /-- Nothing may follow. -/
  isComplete : Bool
  /-- The defaults, in reverse. -/
  defaults : List (Expr Span)

def Parameters.none : Parameters := ⟨false, false, false, false, false, false, []⟩

namespace Rules

open Reader

def parameter (g : Rules) (p : Parameters) : Reader Parameters := do
  if p.isComplete then fail
  else if ← skipMark "/" then
    if p.hasPlain && !p.hasSlash && !p.hasStar then return { p with hasSlash := true } else fail
  else if ← skipMark "*" then
    if p.hasStar then fail
    else if ← atMark "," then return { p with hasStar := true, isPending := true }
    else
      let _ ← name
      return { p with hasStar := true }
  else if ← skipMark "**" then
    if p.isPending then fail
    else
      let _ ← name
      return { p with isComplete := true }
  else
    let _ ← name
    let p := { p with isPending := false, hasPlain := p.hasPlain || !p.hasStar }
    if ← skipMark "=" then
      let e ← g.read .expression
      return { p with hasDefault := p.hasDefault || !p.hasStar, defaults := e :: p.defaults }
    else if p.hasDefault && !p.hasStar then fail
    else return p

def lambda (g : Rules) : Reader (Expr Span) := do
  let first ← here
  word "lambda"
  let p ←
    if ← atMark ":" then pure Parameters.none
    else steps (atMark ":") g.parameter g.limit Parameters.none
  if p.isPending then fail
  else
    mark ":"
    let body ← g.read .expression
    return .other "Lambda" (p.defaults.reverse ++ [body]) (← spanFrom first)

end Rules

end ExprMarkup.Source
