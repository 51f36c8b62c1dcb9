import ExprMarkup.Source.Token

namespace ExprMarkup.Source

/-- The tokens that are left, and the place where the last one ended, for the spans of expressions. -/
structure Cursor where
  last : Position
  rest : List Token

abbrev Reader (α : Type) := StateT Cursor Option α

namespace Reader

variable {α σ : Type}

def fail : Reader α := fun _ => none

def peek : Reader (Option Token) := fun c => some (c.rest.head?, c)

/-- Where the next token begins. -/
def here : Reader Position := fun c =>
  match c.rest with
  | t :: _ => some (t.span.first, c)
  | [] => some (c.last, c)

def next : Reader Token := fun c =>
  match c.rest with
  | t :: rest => some (t, ⟨t.span.last, rest⟩)
  | [] => none

/-- From a place to the end of the last token. -/
def spanFrom (first : Position) : Reader Span := fun c => some (⟨first, c.last⟩, c)

def isMark (m : String) : Token → Bool
  | .mark t _ => t == m
  | _ => false

def isWord (w : String) : Token → Bool
  | .word t _ => t == w
  | _ => false

def atToken (p : Token → Bool) : Reader Bool := do
  return (← peek).any p

def atMark (m : String) : Reader Bool := atToken (isMark m)

def atWord (w : String) : Reader Bool := atToken (isWord w)

/-- Takes the next token if it is as wanted, and says whether it was. -/
def skip (p : Token → Bool) : Reader Bool := do
  if ← atToken p then
    let _ ← next
    return true
  else return false

def skipMark (m : String) : Reader Bool := skip (isMark m)

def skipWord (w : String) : Reader Bool := skip (isWord w)

def mark (m : String) : Reader Unit := do
  if ← skipMark m then return else fail

def word (w : String) : Reader Unit := do
  if ← skipWord w then return else fail

def name : Reader String := do
  match ← next with
  | .name text _ => return text
  | _ => fail

/-- A name comes next, and this mark after it. -/
def atNameBefore (m : String) : Reader Bool := fun c =>
  match c.rest with
  | .name _ _ :: .mark t _ :: _ => some (t == m, c)
  | _ => some (false, c)

/-- Reads while there is something to read. -/
def collect (read : Reader (Option α)) : Nat → List α → Reader (List α)
  | 0, found => return found.reverse
  | n + 1, found => do
    match ← read with
    | some a => collect read n (a :: found)
    | none => return found.reverse

/-- Extends what is there while it can be extended. -/
def extend (more : α → Reader (Option α)) : Nat → α → Reader α
  | 0, a => return a
  | n + 1, a => do
    match ← more a with
    | some b => extend more n b
    | none => return a

/-- Steps with commas between them, and perhaps one after the last; `closed` says that no further
step comes. -/
def steps (closed : Reader Bool) (step : σ → Reader σ) : Nat → σ → Reader σ
  | 0, s => return s
  | n + 1, s => do
    let s ← step s
    if ← skipMark "," then
      if ← closed then return s else steps closed step n s
    else return s

/-- Items with commas between them. -/
def items (closed : Reader Bool) (item : Reader α) (limit : Nat) (found : List α) :
    Reader (List α) := do
  let all ← steps closed (fun found => do return (← item) :: found) limit found.reverse
  return all.reverse

end Reader

/-- What can be asked for in the middle of an expression. -/
inductive Goal
  | expression
  | disjunction
  | inversion
  | bitwiseOr
  | factor
  | primary
  deriving DecidableEq

/-- How the parts of an expression are read, and the bound on repetitions. -/
structure Rules where
  limit : Nat
  read : Goal → Reader (Expr Span)

namespace Rules

open Reader

/-- A name with a value assigned to it, or any expression. -/
def named (g : Rules) : Reader (Expr Span) := do
  if ← atNameBefore ":=" then
    let first ← here
    let id ← name
    let target : Expr Span := .name (.text id) (← spanFrom first)
    mark ":="
    let value ← g.read .expression
    return .other "NamedExpr" [target, value] (← spanFrom first)
  else g.read .expression

/-- What follows a star, read as `goal`. -/
def starred (g : Rules) (goal : Goal) : Reader (Expr Span) := do
  let first ← here
  mark "*"
  let value ← g.read goal
  return .starred value (← spanFrom first)

/-- An item of a list, set or tuple. -/
def element (g : Rules) : Reader (Expr Span) := do
  if ← atMark "*" then g.starred .bitwiseOr else g.named

def isStarred : Expr Span → Bool
  | .starred _ _ => true
  | _ => false

/-- A tuple whose first item has been read, without parentheses around it. -/
def tupleFrom (g : Rules) (first : Position) (item : Expr Span) (closed : Reader Bool)
    (read : Reader (Expr Span)) : Reader (Expr Span) := do
  mark ","
  let all ← if ← closed then pure [item] else items closed read g.limit [item]
  return .sequence true all (← spanFrom first)

end Rules

end ExprMarkup.Source
