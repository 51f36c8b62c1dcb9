import ExprMarkup.Source.Lexer
import ExprMarkup.Source.Parser.Arguments
import ExprMarkup.Source.Parser.Display
import ExprMarkup.Source.Parser.Lambda

namespace ExprMarkup.Source

namespace Rules

open Reader

/-- The literal at the front, if there is one. -/
def quoted? : Reader (Option Token) := do
  match ← peek with
  | some (.text _ _) | some (.bytes _) | some (.formatted _ _) => return some (← next)
  | _ => return none

def isBytes : Token → Bool
  | .bytes _ => true
  | _ => false

/-- The fields of a formatted literal. -/
def fieldsOf : Token → List (List Token)
  | .formatted fields _ => fields
  | _ => []

def isFormatted : Token → Bool
  | .formatted _ _ => true
  | _ => false

def contentOf : Token → String
  | .text content _ => content
  | _ => ""

/-- An expression that takes all tokens of a field. -/
def readField (g : Rules) (tokens : List Token) : Option (Expr Span) :=
  match (g.read .expression) ⟨⟨1, 0⟩, tokens⟩ with
  | some (e, c) => if c.rest.isEmpty then some e else none
  | none => none

/-- Literals side by side are one; bytes go with bytes only. -/
def joinQuoted (g : Rules) (pieces : List Token) (span : Span) : Option (Expr Span) :=
  if pieces.any isBytes then
    if pieces.all isBytes then some (.constant (.other "bytes") span) else none
  else if pieces.any isFormatted then do
    let parts ← (pieces.flatMap fieldsOf).mapM g.readField
    return .other "JoinedStr" parts span
  else some (.constant (.scalar (.text (joinTexts "" (pieces.map contentOf)))) span)

def quotedAtom (g : Rules) : Reader (Expr Span) := do
  let first ← here
  let pieces ← collect quoted? g.limit []
  match g.joinQuoted pieces (← spanFrom first) with
  | some e => return e
  | none => fail

/-- The words that are constants. -/
def constantWord? : String → Option Scalar
  | "None" => some .absent
  | "True" => some (.bool true)
  | "False" => some (.bool false)
  | _ => none

def atom (g : Rules) : Reader (Expr Span) := do
  match ← peek with
  | some (.name text span) =>
    let _ ← next
    return .name (.text text) span
  | some (.number value span) =>
    let _ ← next
    return .constant value span
  | some (.word w span) =>
    match constantWord? w with
    | some value =>
      let _ ← next
      return .constant (.scalar value) span
    | none => fail
  | some (.mark m span) =>
    let _ ← next
    if m == "(" then g.parenthesized span.first
    else if m == "[" then g.list span.first
    else if m == r"{" then g.braces span.first
    else if m == "..." then return .constant (.other "ellipsis") span
    else fail
  | some (.newline _) => fail
  | some _ => g.quotedAtom
  | none => fail

/-- What an expression that begins at `first` is followed by. -/
def trailer? (g : Rules) (first : Position) (e : Expr Span) : Reader (Option (Expr Span)) := do
  if ← atMark "(" then return some (← g.callRest first e)
  else if ← atMark "[" then return some (← g.subscriptRest first e)
  else if ← skipMark "." then
    let _ ← name
    return some (.other "Attribute" [e] (← spanFrom first))
  else return none

def primary (g : Rules) : Reader (Expr Span) := do
  let first ← here
  let e ← g.atom
  extend (g.trailer? first) g.limit e

def awaited (g : Rules) : Reader (Expr Span) := do
  let first ← here
  if ← skipWord "await" then
    let e ← g.primary
    return .other "Await" [e] (← spanFrom first)
  else g.primary

def power (g : Rules) : Reader (Expr Span) := do
  let first ← here
  let base ← g.awaited
  if ← skipMark "**" then
    let exponent ← g.read .factor
    return .binary .pow base exponent (← spanFrom first)
  else return base

def signs : List (String × UnaryOp) := [("+", .pos), ("-", .neg), ("~", .invert)]

/-- Takes a mark of a table and gives what stands beside it. -/
def markOf? {α : Type} (table : List (String × α)) : Reader (Option α) := do
  match ← peek with
  | some (.mark m _) =>
    match table.find? fun e => e.1 == m with
    | some e =>
      let _ ← next
      return some e.2
    | none => return none
  | _ => return none

def factor (g : Rules) : Reader (Expr Span) := do
  let first ← here
  match ← markOf? signs with
  | some op =>
    let operand ← g.read .factor
    return .unary op operand (← spanFrom first)
  | none => g.power

/-- One more operator and operand behind an expression that begins at `first`. -/
def operation? (table : List (String × BinaryOp)) (operand : Reader (Expr Span)) (first : Position)
    (left : Expr Span) : Reader (Option (Expr Span)) := do
  match ← markOf? table with
  | some op =>
    let right ← operand
    return some (.binary op left right (← spanFrom first))
  | none => return none

/-- Operands with operators of one strength between them. -/
def operations (g : Rules) (table : List (String × BinaryOp)) (operand : Reader (Expr Span)) :
    Reader (Expr Span) := do
  let first ← here
  let e ← operand
  extend (operation? table operand first) g.limit e

def term (g : Rules) : Reader (Expr Span) :=
  g.operations [("*", .mul), ("/", .truediv), ("//", .floordiv), ("%", .mod), ("@", .matmul)] g.factor

def sum (g : Rules) : Reader (Expr Span) := g.operations [("+", .add), ("-", .sub)] g.term

def shift (g : Rules) : Reader (Expr Span) :=
  g.operations [("<<", .other "LShift"), (">>", .other "RShift")] g.sum

def bitwiseAnd (g : Rules) : Reader (Expr Span) := g.operations [("&", .other "BitAnd")] g.shift

def bitwiseXor (g : Rules) : Reader (Expr Span) := g.operations [("^", .other "BitXor")] g.bitwiseAnd

def bitwiseOr (g : Rules) : Reader (Expr Span) := g.operations [("|", .other "BitOr")] g.bitwiseXor

def comparisons : List (String × CompareOp) :=
  [("==", .eq), ("!=", .ne), ("<", .lt), ("<=", .le), (">", .gt), (">=", .ge)]

/-- A comparison sign, or the words `in`, `not in`, `is`, `is not`. -/
def compareOp? : Reader (Option CompareOp) := do
  if ← skipWord "in" then return some (.other "In")
  else if ← skipWord "not" then
    word "in"
    return some (.other "NotIn")
  else if ← skipWord "is" then
    if ← skipWord "not" then return some (.other "IsNot") else return some (.other "Is")
  else markOf? comparisons

def comparison (g : Rules) : Reader (Expr Span) := do
  let first ← here
  let left ← g.bitwiseOr
  let compared? : Reader (Option (CompareOp × Expr Span)) := do
    match ← compareOp? with
    | some op => return some (op, ← g.bitwiseOr)
    | none => return none
  let rest ← collect compared? g.limit []
  if rest.isEmpty then return left else return .compare left rest (← spanFrom first)

def inversion (g : Rules) : Reader (Expr Span) := do
  let first ← here
  if ← skipWord "not" then
    let operand ← g.read .inversion
    return .unary (.other "Not") operand (← spanFrom first)
  else g.comparison

/-- Operands with a word between them. -/
def connected (g : Rules) (w : String) (operand : Reader (Expr Span)) : Reader (Expr Span) := do
  let first ← here
  let e ← operand
  let next? : Reader (Option (Expr Span)) := do
    if ← skipWord w then return some (← operand) else return none
  let rest ← collect next? g.limit []
  if rest.isEmpty then return e else return .other "BoolOp" (e :: rest) (← spanFrom first)

def conjunction (g : Rules) : Reader (Expr Span) := g.connected "and" g.inversion

def disjunction (g : Rules) : Reader (Expr Span) := g.connected "or" g.conjunction

def expression (g : Rules) : Reader (Expr Span) := do
  let first ← here
  if ← atWord "lambda" then g.lambda
  else
    let e ← g.disjunction
    if ← skipWord "if" then
      let condition ← g.read .disjunction
      word "else"
      let other ← g.read .expression
      return .other "IfExp" [condition, e, other] (← spanFrom first)
    else return e

/-- Reads as a goal says. Each time that a part is asked for some token has been taken, so fuel for
every token is enough. -/
def readGoal (limit : Nat) : Nat → Goal → Reader (Expr Span)
  | 0, _ => fail
  | fuel + 1, goal =>
    let g : Rules := ⟨limit, readGoal limit fuel⟩
    match goal with
    | .expression => g.expression
    | .disjunction => g.disjunction
    | .inversion => g.inversion
    | .bitwiseOr => g.bitwiseOr
    | .factor => g.factor
    | .primary => g.primary

/-- The end of the text, or of the last line that is not blank. -/
def atEnd : Reader Bool := do
  match ← peek with
  | none => return true
  | some (.newline _) => return true
  | some _ => return false

/-- A whole text: one expression, or several with commas, which make a tuple. -/
def whole (g : Rules) : Reader (Expr Span) := do
  let first ← here
  let e ← g.read .expression
  let e ← if ← atMark "," then g.tupleFrom first e atEnd (g.read .expression) else pure e
  let isNewline : Token → Bool
    | .newline _ => true
    | _ => false
  let _ ← skip isNewline
  match ← peek with
  | none => return e
  | some _ => fail

end Rules

/-- Line ends are written in three ways, and all count as one. -/
def unifyLines : List Char → List Char
  | '\r' :: '\n' :: rest => '\n' :: unifyLines rest
  | '\r' :: rest => '\n' :: unifyLines rest
  | c :: rest => c :: unifyLines rest
  | [] => []

/-- The expression that a text is, or nothing if it is none. -/
def parse? (text : List Char) : Option (Expr Span) := do
  let text := unifyLines text
  let tokens ← Lexer.tokens text
  let limit := text.length + 2
  let g : Rules := ⟨limit, Rules.readGoal limit limit⟩
  let (e, _) ← g.whole ⟨⟨1, 0⟩, tokens⟩
  return e

end ExprMarkup.Source
