import ExprMarkup.Source.Parser
import ExprMarkup.Text.Blank
import ExprMarkup.Tree

namespace ExprMarkup

namespace Source

/-- The name of an operator as a call. -/
def BinaryOp.head? : BinaryOp → Option String
  | .add => some "add"
  | .sub => some "sub"
  | .mul => some "mul"
  | .truediv => some "truediv"
  | .floordiv => some "floordiv"
  | .mod => some "mod"
  | .pow => some "pow"
  | .matmul => some "matmul"
  | .other _ => none

def BinaryOp.kind : BinaryOp → String
  | .add => "Add"
  | .sub => "Sub"
  | .mul => "Mult"
  | .truediv => "Div"
  | .floordiv => "FloorDiv"
  | .mod => "Mod"
  | .pow => "Pow"
  | .matmul => "MatMult"
  | .other kind => kind

def UnaryOp.head? : UnaryOp → Option String
  | .neg => some "neg"
  | .pos => some "pos"
  | .invert => some "invert"
  | .other _ => none

def UnaryOp.kind : UnaryOp → String
  | .neg => "USub"
  | .pos => "UAdd"
  | .invert => "Invert"
  | .other kind => kind

def CompareOp.head? : CompareOp → Option String
  | .eq => some "eq"
  | .ne => some "ne"
  | .lt => some "lt"
  | .le => some "le"
  | .gt => some "gt"
  | .ge => some "ge"
  | .other _ => none

def CompareOp.kind : CompareOp → String
  | .eq => "Eq"
  | .ne => "NotEq"
  | .lt => "Lt"
  | .le => "LtE"
  | .gt => "Gt"
  | .ge => "GtE"
  | .other kind => kind

/-- Binding strengths, from the loosest to the tightest. -/
def comparePrecedence : Nat := 1

def unaryPrecedence : Nat := 12

def atomPrecedence : Nat := 100

def BinaryOp.precedence : BinaryOp → Nat
  | .add | .sub => 10
  | .mul | .truediv | .floordiv | .mod | .matmul => 11
  | .pow => 13
  | .other _ => atomPrecedence

def Expr.precedence {π : Type} : Expr π → Nat
  | .binary op _ _ _ => op.precedence
  | .unary _ _ _ => unaryPrecedence
  | .compare _ _ _ => comparePrecedence
  | _ => atomPrecedence

/-- Whether the left operand of an operator needs parentheses. A power groups to the right. -/
def BinaryOp.groupsLeft {π : Type} (op : BinaryOp) (left : Expr π) : Bool :=
  if op = .pow then left.precedence ≤ op.precedence else left.precedence < op.precedence

/-- Whether the right operand needs parentheses. An exponent is written raised and needs none. -/
def BinaryOp.groupsRight {π : Type} (op : BinaryOp) (right : Expr π) : Bool :=
  if op = .pow then false else right.precedence ≤ op.precedence

end Source

namespace Capture

open Source

/-- The head of the call that stands for a pair of parentheses. -/
def group : String := "group"

/-- Wraps a tree in a group, at the tree's own location. -/
def wrap (grouped : Bool) (t : Tree) : Tree :=
  if grouped then .call group [t] [] t.location else t

/-- The scalars of a list of constants. -/
def constants? {π : Type} : List (Expr π) → Option (List Scalar)
  | [] => some []
  | .constant (.scalar s) _ :: rest => (constants? rest).map (s :: ·)
  | _ :: _ => none

def refuse {α : Type} (why : Malformation) (location : Location) : Except Failure α :=
  .error (.malformed why (some location))

mutual

/-- The tree of an expression; `locate` gives the location of a place. Parentheses leave no trace in an
expression, so an operand that binds more loosely than its operator is wrapped in a call of `group`. -/
def capture {π : Type} (locate : π → Except Fault Location) : Expr π → Except Failure Tree
  | .constant value place => do
    let l ← (locate place).mapError .fault
    match value with
    | .scalar s => return .literal (.scalar s) (some l)
    | .other kind => refuse (.unsupportedLiteral kind) l
  | .name id place => do
    let l ← (locate place).mapError .fault
    Tree.newSymbol id (some l)
  | .sequence _ items place => do
    let l ← (locate place).mapError .fault
    match constants? items with
    | some ss => return .literal (.sequence ss) (some l)
    | none => refuse .sequenceNotConstant l
  | .call head args keywords place => do
    let l ← (locate place).mapError .fault
    match head with
    | .name id _ =>
      let args ← captureArgs locate l args
      let named ← captureKeywords locate l keywords
      Tree.build id (args.map .node) (named.map fun e => (e.1, .node e.2)) (some l)
    | _ => refuse (.headNotName head.kind) l
  | .binary op left right place => do
    let l ← (locate place).mapError .fault
    match op.head? with
    | some head =>
      let a ← capture locate left
      let b ← capture locate right
      return .call head [wrap (op.groupsLeft left) a, wrap (op.groupsRight right) b] [] (some l)
    | none => refuse (.unsupportedOperator op.kind) l
  | .unary op operand place => do
    let l ← (locate place).mapError .fault
    match op.head? with
    | some head =>
      let a ← capture locate operand
      return .call head [wrap (operand.precedence < unaryPrecedence) a] [] (some l)
    | none => refuse (.unsupportedOperator op.kind) l
  | .compare left rest place => do
    let l ← (locate place).mapError .fault
    match rest with
    | [(op, right)] =>
      match op.head? with
      | some head =>
        let a ← capture locate left
        let b ← capture locate right
        return .call head [wrap (left.precedence ≤ comparePrecedence) a,
          wrap (right.precedence ≤ comparePrecedence) b] [] (some l)
      | none => refuse (.unsupportedComparison op.kind) l
    | _ => refuse .chainedComparison l
  | .subscript value index place => do
    let l ← (locate place).mapError .fault
    let a ← capture locate value
    let b ← capture locate index
    return .call "getitem" [wrap (value.precedence < atomPrecedence) a, b] [] (some l)
  | .starred _ place => do
    let l ← (locate place).mapError .fault
    refuse (.unsupportedSyntax "Starred") l
  | .other kind _ place => do
    let l ← (locate place).mapError .fault
    refuse (.unsupportedSyntax kind) l
  | .defect fault place => do
    let _ ← (locate place).mapError .fault
    throw (.fault fault)

/-- Positional arguments. A starred one is refused at the location of the call. -/
def captureArgs {π : Type} (locate : π → Except Fault Location) (l : Location) :
    List (Expr π) → Except Failure (List Tree)
  | [] => .ok []
  | .starred _ _ :: _ => refuse .starArgument l
  | e :: rest => do
    let first ← capture locate e
    return first :: (← captureArgs locate l rest)

/-- Keywords. One without a name is refused at the location of the call. -/
def captureKeywords {π : Type} (locate : π → Except Fault Location) (l : Location) :
    List (Option Value × Expr π) → Except Failure (List (Value × Tree))
  | [] => .ok []
  | (none, _) :: _ => refuse .doubleStarArgument l
  | (some name, e) :: rest => do
    let first ← capture locate e
    return (name, first) :: (← captureKeywords locate l rest)

end

/-- What a parser has to say about a text that is no expression. -/
structure Complaint where
  message : String
  line : Option Int
  column : Option Int

/-- The location of a complaint, if it names a line. A column that is missing or zero counts as the
first. -/
def Complaint.location? (c : Complaint) (file : Option String) : Option Location :=
  c.line.map fun line =>
    let column := match c.column with
      | none | some 0 => 1
      | some n => n
    .point file line column

/-- How a parser gives up on a text before it knows whether the text is an expression. -/
inductive Surrender
  | recursion
  | memory

/-- What the surroundings decide that capturing runs in. The grammar of texts is `parse?`, but the words
and the place of a complaint, the texts on which the parser gives up, and the expressions that need more
of the stack than there is are left to the host. -/
structure Host where
  complaint : List Char → Complaint
  surrender? : List Char → Option Surrender
  overflows : {π : Type} → Expr π → Bool

/-- A host with room for everything, which puts the blame on the end of a text of one line. -/
def Host.ample : Host where
  complaint text := ⟨"invalid syntax", some 1, some (text.length + 1)⟩
  surrender? _ := none
  overflows _ := false

/-- Captures an expression, unless it overflows the stack. -/
def captureWithin {π : Type} (host : Host) (locate : π → Except Fault Location) (e : Expr π) :
    Except Failure Tree :=
  if host.overflows e then .error (.malformed .sourceTooDeep none) else capture locate e

def hasNull (text : List Char) : Bool := text.contains '\x00'

/-- Captures a text of a file. Blanks at the ends of the text do not count. -/
def ofText (host : Host) (text : String) (file : Option String) : Except Failure Tree :=
  let body := Text.strip text.toList
  if hasNull (file.getD "").toList || hasNull body then .error (.fault .nullCharacter)
  else match host.surrender? body with
    | some .recursion => .error (.malformed .sourceTooDeep none)
    | some .memory => .error (.fault .outOfMemory)
    | none =>
      match parse? body with
      | some e => captureWithin host (fun s => .ok (s.location file)) e
      | none =>
        let complaint := host.complaint body
        .error (.malformed (.invalidSource complaint.message) (complaint.location? file))

/-- A code point of a text: a character, or one of the surrogates, counted from U+D800, that stands
alone and has no encoding. -/
inductive CodePoint
  | char (c : Char)
  | surrogate (index : Fin 2048)
  deriving DecidableEq

def codePoints (text : String) : List CodePoint := text.toList.map .char

/-- The text of code points that are all characters. -/
def CodePoint.chars? : List CodePoint → Option (List Char)
  | [] => some []
  | .char c :: rest => (chars? rest).map (c :: ·)
  | .surrogate _ :: _ => none

/-- Captures a text that may have lone surrogates in it, which no parser takes. -/
def ofCodePoints (host : Host) (text : List CodePoint) (file : Option String) : Except Failure Tree :=
  match CodePoint.chars? text with
  | some chars => ofText host (String.ofList chars) file
  | none =>
    if hasNull (file.getD "").toList then .error (.fault .nullCharacter)
    else .error (.fault .notEncodable)

end Capture

end ExprMarkup
