import ExprMarkup.Source.Parser.Comprehension

namespace ExprMarkup.Source

/-- The arguments read so far, in reverse. Positional ones come before keywords, a starred one also after
them, but none after a spread mapping. -/
structure Arguments where
  args : List (Expr Span)
  keywords : List (Option Value × Expr Span)
  /-- A mapping has been spread. -/
  spread : Bool

namespace Rules

open Reader

def argument (g : Rules) (a : Arguments) : Reader Arguments := do
  if ← atMark "*" then
    if a.spread then fail
    else
      let e ← g.starred .expression
      return { a with args := e :: a.args }
  else if ← skipMark "**" then
    let e ← g.read .expression
    return { a with keywords := (none, e) :: a.keywords, spread := true }
  else if ← atNameBefore "=" then
    let id ← name
    mark "="
    let e ← g.read .expression
    return { a with keywords := (some (.text id), e) :: a.keywords }
  else if a.keywords.isEmpty then
    let e ← g.named
    return { a with args := e :: a.args }
  else fail

/-- The rest of a call from its opening bracket on. -/
def callRest (g : Rules) (first : Position) (head : Expr Span) : Reader (Expr Span) := do
  let opening ← here
  mark "("
  if ← skipMark ")" then return .call head [] [] (← spanFrom first)
  else
    let a ← g.argument ⟨[], [], false⟩
    let isPlain := a.keywords.isEmpty && !a.args.any isStarred
    if isPlain && (← atClause) then
      let more ← g.clauses
      mark ")"
      let span ← spanFrom opening
      return .call head [.other "GeneratorExp" (a.args ++ more) span] [] (← spanFrom first)
    else
      let a ←
        if ← skipMark "," then
          if ← atMark ")" then pure a else steps (atMark ")") g.argument g.limit a
        else pure a
      mark ")"
      return .call head a.args.reverse a.keywords.reverse (← spanFrom first)

/-- A bound of a slice, unless the slice goes on or ends here. -/
def bound (g : Rules) : Reader (List (Expr Span)) := do
  if (← atMark ":") || (← atMark ",") || (← atMark "]") then return []
  else return [← g.read .expression]

/-- A slice from its first colon on. -/
def sliceRest (g : Rules) (first : Position) (lower : List (Expr Span)) : Reader (Expr Span) := do
  mark ":"
  let upper ← g.bound
  let step ← if ← skipMark ":" then g.bound else pure []
  return .other "Slice" (lower ++ upper ++ step) (← spanFrom first)

def slice (g : Rules) : Reader (Expr Span) := do
  let first ← here
  if ← atMark "*" then g.starred .expression
  else if ← atMark ":" then g.sliceRest first []
  else if ← atNameBefore ":=" then g.named
  else
    let e ← g.read .expression
    if ← atMark ":" then g.sliceRest first [e] else return e

/-- What stands between the brackets of a subscript; a comma or a star makes a tuple. -/
def index (g : Rules) : Reader (Expr Span) := do
  let first ← here
  let e ← g.slice
  if ← atMark "," then g.tupleFrom first e (atMark "]") g.slice
  else if isStarred e then return .sequence true [e] (← spanFrom first)
  else return e

def subscriptRest (g : Rules) (first : Position) (value : Expr Span) : Reader (Expr Span) := do
  mark "["
  let e ← g.index
  mark "]"
  return .subscript value e (← spanFrom first)

end Rules

end ExprMarkup.Source
