import ExprMarkup.Capture

namespace ExprMarkup.Capture

open Source

/-- A syntax object that was put together by hand: it has a class, and any fields at all. Where a part is
missing that is needed, capturing breaks down when it gets there. -/
inductive Assembled
  | object (kind : String) (fields : List (String × Assembled))
  | list (items : List Assembled)
  | value (v : Value)
  deriving Inhabited

/-- Where an object stands, as far as it says so. -/
abbrev Place := Except Fault Location

namespace Assembled

def kind : Assembled → String
  | .object kind _ => kind
  | .list _ => "list"
  | .value v => v.kind

mutual

/-- An object is no plain value; a list of values is. -/
def plain? : Assembled → Option Value
  | .object _ _ => none
  | .list items => (plainItems? items).map .list
  | .value v => some v

def plainItems? : List Assembled → Option (List Value)
  | [] => some []
  | a :: rest => do
    let first ← plain? a
    return first :: (← plainItems? rest)

end

def field? (fields : List (String × Assembled)) (name : String) : Option Assembled :=
  (fields.find? fun e => e.1 == name).map Prod.snd

/-- A field that may be left out; nothing then stands in for it. No object stands for a value. -/
def optional (fields : List (String × Assembled)) (name : String) : Except Fault Value :=
  match field? fields name with
  | none => .ok .absent
  | some a => match a.plain? with
    | some v => .ok v
    | none => .error .wrongPart

/-- Columns are counted from one. -/
def addOne : Value → Except Fault Value
  | .scalar (.int n) => .ok (.int (n + 1))
  | .scalar (.bool b) => .ok (.int (if b then 2 else 1))
  | .scalar (.float x) => .ok (.float (x + 1.0))
  | .complex re im => .ok (.complex (re + 1.0) im)
  | _ => .error .wrongPart

def isAbsent : Value → Bool
  | .scalar .absent => true
  | _ => false

/-- The location that the fields give. An object without a line stands nowhere; one with a line has a
column too. -/
def place (file : Option String) (fields : List (String × Assembled)) : Place := do
  let line ← optional fields "lineno"
  if isAbsent line then return Location.unknown
  else if (field? fields "col_offset").isNone then throw .missingPart
  else
    let column ← addOne (← optional fields "col_offset")
    let endColumn ← optional fields "end_col_offset"
    let endColumn ← if isAbsent endColumn then pure endColumn else addOne endColumn
    return ⟨line, column, ← optional fields "end_lineno", endColumn, Location.fileValue file⟩

/-- An element of a list: as an expression, and as a keyword. -/
structure Item where
  /-- The class of the element. -/
  kind : String
  expr : Expr Place
  keyword : Option Value × Expr Place
  /-- A constant that lacks its value. -/
  isHollow : Bool

/-- A field: as one element, and as the elements of a list, if it is one. -/
structure Part where
  item : Item
  items : Option (List Item)

def nowhere : Place := .ok Location.unknown

def missing : Expr Place := .defect .missingPart nowhere

/-- A keyword that cannot be taken. -/
def noKeyword : Option Value × Expr Place := (some .absent, missing)

/-- A value among expressions is an expression of no known kind. -/
def valueItem (kind : String) : Item := ⟨kind, .other kind [] nowhere, noKeyword, false⟩

/-- The elements of a value that has any. -/
def valueItems? : Value → Option (List Item)
  | .list vs | .tuple vs => some (vs.map fun v => valueItem v.kind)
  | .scalar (.text s) => some (s.toList.map fun _ => valueItem "str")
  | .dict entries => some (entries.map fun _ => valueItem "str")
  | .bytes data => some (data.map fun _ => valueItem "int")
  | _ => none

/-- Lists and tuples can be taken apart; texts and the like cannot. -/
def isListLike (kind : String) : Bool := kind == "list" || kind == "tuple"

def part? (parts : List (String × Part)) (name : String) : Option Part :=
  (parts.find? fun e => e.1 == name).map Prod.snd

def binaryOp : String → BinaryOp
  | "Add" => .add
  | "Sub" => .sub
  | "Mult" => .mul
  | "Div" => .truediv
  | "FloorDiv" => .floordiv
  | "Mod" => .mod
  | "Pow" => .pow
  | "MatMult" => .matmul
  | kind => .other kind

def unaryOp : String → UnaryOp
  | "USub" => .neg
  | "UAdd" => .pos
  | "Invert" => .invert
  | kind => .other kind

def compareOp : String → CompareOp
  | "Eq" => .eq
  | "NotEq" => .ne
  | "Lt" => .lt
  | "LtE" => .le
  | "Gt" => .gt
  | "GtE" => .ge
  | kind => .other kind

/-- The value of a constant. -/
def constant : Assembled → Constant
  | .value (.scalar s) => .scalar s
  | a => .other a.kind

/-- The first element that is no scalar constant decides: one that lacks its value breaks off. -/
def sequence (isTuple : Bool) (items : List Item) (p : Place) : Expr Place :=
  let isScalar (i : Item) : Bool := match i.expr with
    | .constant (.scalar _) _ => true
    | _ => false
  match items.find? fun i => !isScalar i with
  | some i => if i.isHollow then .defect .missingPart p
    else .sequence isTuple (items.map Item.expr) p
  | none => .sequence isTuple (items.map Item.expr) p

/-- The elements of a part that has to be gone through. -/
def elements (part : Option Part) : Except Fault (List Item) :=
  match part with
  | none => .error .missingPart
  | some p => match p.items with
    | some items => .ok items
    | none => .error .wrongPart

/-- A call; what is missing comes to light in the order in which its parts are taken. -/
def call (fields : List (String × Assembled)) (parts : List (String × Part)) (p : Place) :
    Expr Place :=
  match field? fields "func" with
  | some (.object "Name" nameFields) =>
    let id := (field? nameFields "id").bind plain?
    let args : List (Expr Place) := match elements (part? parts "args") with
      | .ok items => items.map Item.expr
      | .error f => [.defect f nowhere]
    let keywords : List (Option Value × Expr Place) := match elements (part? parts "keywords") with
      | .ok items => items.map Item.keyword
      | .error f => [(some .absent, .defect f nowhere)]
    let last := if id.isSome then [] else [noKeyword]
    .call (.name (id.getD .absent) nowhere) args (keywords ++ last) p
  | some head => .call (.other head.kind [] nowhere) [] [] p
  | none => .defect .missingPart p

/-- A comparison of just one sign and one operand is taken, any other counts as a chain. -/
def comparison (parts : List (String × Part)) (p : Place) : Expr Place :=
  let chain : Expr Place := .compare missing [] p
  match part? parts "left", part? parts "ops", part? parts "comparators" with
  | some left, some ops, some comparators =>
    match ops.items, comparators.items with
    | some [op], some [right] =>
      if isListLike ops.item.kind && isListLike comparators.item.kind then
        .compare left.item.expr [(compareOp op.kind, right.expr)] p
      else chain
    | _, _ => chain
  | _, _, _ => chain

/-- An object as an expression. -/
def shape (file : Option String) (kind : String) (fields : List (String × Assembled))
    (parts : List (String × Part)) : Expr Place :=
  let p := place file fields
  let useless : Expr Place := .other kind [] p
  match kind with
  | "Constant" =>
    match field? fields "value" with
    | some v => .constant (constant v) p
    | none => useless
  | "Name" =>
    match (field? fields "id").bind plain? with
    | some id => .name id p
    | none => useless
  | "List" | "Tuple" =>
    match part? parts "elts" with
    | none => useless
    | some elts => match elts.items with
      | some items => sequence (kind == "Tuple") items p
      | none => .defect .wrongPart p
  | "Call" => call fields parts p
  | "BinOp" =>
    match part? parts "left", field? fields "op", part? parts "right" with
    | some left, some op, some right =>
      .binary (binaryOp op.kind) left.item.expr right.item.expr p
    | _, _, _ => useless
  | "UnaryOp" =>
    match field? fields "op", part? parts "operand" with
    | some op, some operand => .unary (unaryOp op.kind) operand.item.expr p
    | _, _ => useless
  | "Compare" => comparison parts p
  | "Subscript" =>
    match part? parts "value", part? parts "slice" with
    | some base, some index => .subscript base.item.expr index.item.expr p
    | _, _ => useless
  | "Starred" => .starred missing p
  | _ => useless

/-- An object as a keyword: its name, which only a keyword may leave out, and its value. -/
def asKeyword (kind : String) (fields : List (String × Assembled)) (parts : List (String × Part)) :
    Option Value × Expr Place :=
  let content : Expr Place := match part? parts "value" with
    | some part => part.item.expr
    | none => missing
  match field? fields "arg" with
  | none => if kind == "keyword" then (none, missing) else noKeyword
  | some arg =>
    match plain? arg with
    | some name => if isAbsent name then (none, missing) else (some name, content)
    | none => noKeyword

mutual

def item (file : Option String) : Assembled → Item
  | .object kind fields =>
    let parts := partsOf file fields
    { kind := kind
      expr := shape file kind fields parts
      keyword := asKeyword kind fields parts
      isHollow := kind == "Constant" && (field? fields "value").isNone }
  | .list _ => valueItem "list"
  | .value v => valueItem v.kind

def partsOf (file : Option String) : List (String × Assembled) → List (String × Part)
  | [] => []
  | (name, a) :: rest => (name, ⟨item file a, itemsOf? file a⟩) :: partsOf file rest

def itemsOf? (file : Option String) : Assembled → Option (List Item)
  | .object _ _ => none
  | .list items => some (itemsOfAll file items)
  | .value v => valueItems? v

def itemsOfAll (file : Option String) : List Assembled → List Item
  | [] => []
  | a :: rest => item file a :: itemsOfAll file rest

end

/-- The classes of expressions. -/
def expressionKinds : List String :=
  ["BoolOp", "NamedExpr", "BinOp", "UnaryOp", "Lambda", "IfExp", "Dict", "Set", "ListComp", "SetComp",
   "DictComp", "GeneratorExp", "Await", "Yield", "YieldFrom", "Compare", "Call", "FormattedValue",
   "JoinedStr", "Constant", "Attribute", "Subscript", "Starred", "Name", "List", "Tuple", "Slice", "expr"]

/-- Captures an object if it is an expression. -/
def captureExpression (host : Host) (file : Option String) (a : Assembled) : Except Failure Tree :=
  let refused : Except Failure Tree := .error (.malformed (.notExpression a.kind) none)
  match a with
  | .object kind _ =>
    if expressionKinds.contains kind then captureWithin host id (item file a).expr else refused
  | _ => refused

/-- Captures what was put together: an expression, one wrapper around it apart, or a text. -/
def captureAny (host : Host) (file : Option String) : Assembled → Except Failure Tree
  | .value (.scalar (.text s)) => ofText host s file
  | .object "Expression" fields =>
    match field? fields "body" with
    | some body => captureExpression host file body
    | none => .error (.fault .missingPart)
  | a => captureExpression host file a

end Assembled

end ExprMarkup.Capture
