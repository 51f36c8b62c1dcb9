import ExprMarkup.Decimal.Writing
import ExprMarkup.Text.Quoted
import ExprMarkup.Value

namespace ExprMarkup.Json

/-- Why a value cannot be printed. -/
inductive Unprintable
  | noForm
  /-- An integer with more digits than an integer may have. -/
  | digitLimit
  deriving DecidableEq

def unitEscape (n : Nat) : List Char := '\\' :: 'u' :: Text.hexDigits 4 n

def escapeChar (c : Char) : List Char :=
  if c == '"' || c == '\\' then ['\\', c]
  else if c == '\n' then ['\\', 'n']
  else if c == '\r' then ['\\', 'r']
  else if c == '\t' then ['\\', 't']
  else if c == '\x08' then ['\\', 'b']
  else if c == '\x0c' then ['\\', 'f']
  else if 0x20 ≤ c.toNat && c.toNat < 0x7F then [c]
  else if c.toNat < 0x10000 then unitEscape c.toNat
  else
    let n := c.toNat - 0x10000
    unitEscape (0xD800 + n / 0x400) ++ unitEscape (0xDC00 + n % 0x400)

def printText (text : String) : List Char := '"' :: text.toList.flatMap escapeChar ++ ['"']

def printFloat (x : Float) : List Char :=
  if x.isNaN then ['N', 'a', 'N']
  else if x.isInf then
    if Decimal.isNegative x then '-' :: "Infinity".toList else "Infinity".toList
  else Decimal.floatChars true x

def printScalar : Scalar → Except Unprintable (List Char)
  | .absent => .ok "null".toList
  | .bool true => .ok "true".toList
  | .bool false => .ok "false".toList
  | .int n => if Decimal.withinLimit n then .ok (Decimal.intChars n) else .error .digitLimit
  | .float x => .ok (printFloat x)
  | .text s => .ok (printText s)

/-- Where an item begins: on a new line, or right where it is. -/
def lineBreak (indent : Option Nat) (level : Nat) : List Char :=
  match indent with
  | some width => '\n' :: List.replicate (width * level) ' '
  | none => []

def separator (indent : Option Nat) (level : Nat) : List Char :=
  match indent with
  | some _ => ',' :: lineBreak indent level
  | none => [',', ' ']

def joinChars (separator : List Char) : List (List Char) → List Char
  | [] => []
  | [s] => s
  | s :: rest => s ++ separator ++ joinChars separator rest

/-- Printed items between two brackets. -/
def enclose (indent : Option Nat) (level : Nat) (opening closing : Char) (items : List (List Char)) :
    List Char :=
  if items.isEmpty then [opening, closing]
  else opening :: lineBreak indent (level + 1) ++ joinChars (separator indent (level + 1)) items ++
    lineBreak indent level ++ [closing]

/-- The first failure of a list, or all of its results. -/
def allOk {ε α : Type} : List (Except ε α) → Except ε (List α)
  | [] => .ok []
  | .ok a :: rest => (allOk rest).map (a :: ·)
  | .error e :: _ => .error e

/-- Members in the order of their keys. -/
def sortMembers {α : Type} (members : List (String × α)) : List (String × α) :=
  members.mergeSort fun a b => a.1 ≤ b.1

def printMember (member : String × Except Unprintable (List Char)) : Except Unprintable (List Char) :=
  member.2.map fun text => printText member.1 ++ ':' :: ' ' :: text

mutual

/-- The members of an object are sorted by key. With an indentation every item stands on a line of its
own. -/
def printValue (indent : Option Nat) (level : Nat) : Value → Except Unprintable (List Char)
  | .scalar s => printScalar s
  | .list items => do return enclose indent level '[' ']' (← printItems indent (level + 1) items)
  | .tuple items => do return enclose indent level '[' ']' (← printItems indent (level + 1) items)
  | .dict entries => do
    let members := sortMembers (printEntries indent (level + 1) entries)
    return enclose indent level '{' '}' (← allOk (members.map printMember))
  | _ => .error .noForm

def printItems (indent : Option Nat) (level : Nat) :
    List Value → Except Unprintable (List (List Char))
  | [] => .ok []
  | v :: rest => do
    let first ← printValue indent level v
    return first :: (← printItems indent level rest)

def printEntries (indent : Option Nat) (level : Nat) :
    List (String × Value) → List (String × Except Unprintable (List Char))
  | [] => []
  | (key, v) :: rest => (key, printValue indent level v) :: printEntries indent level rest

end

def print (indent : Option Nat) (v : Value) : Except Unprintable String :=
  (printValue indent 0 v).map String.ofList

end ExprMarkup.Json
