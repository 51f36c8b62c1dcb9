import ExprMarkup.Location
import ExprMarkup.Error

namespace ExprMarkup.Source

/-- A place in a text: lines count from one, columns count bytes from zero. -/
structure Position where
  line : Nat
  column : Nat
  deriving Inhabited, DecidableEq

structure Span where
  first : Position
  last : Position
  deriving Inhabited, DecidableEq

/-- The location of a span, whose columns count from one. -/
def Span.location (file : Option String) (s : Span) : Location where
  line := .int s.first.line
  column := .int (s.first.column + 1)
  endLine := .int s.last.line
  endColumn := .int (s.last.column + 1)
  file := Location.fileValue file

/-- What a constant stands for: a scalar, or something of another kind. -/
inductive Constant
  | scalar (value : Scalar)
  | other (kind : String)
  deriving DecidableEq

/-- Operators with two operands. Those that have no name as a call are told apart by their kind. -/
inductive BinaryOp
  | add | sub | mul | truediv | floordiv | mod | pow | matmul
  | other (kind : String)
  deriving DecidableEq

inductive UnaryOp
  | neg | pos | invert
  | other (kind : String)
  deriving DecidableEq

inductive CompareOp
  | eq | ne | lt | le | gt | ge
  | other (kind : String)
  deriving DecidableEq

/-- Expressions as they are written. Those read from text have spans for places, those put together by hand
whatever they were given. -/
inductive Expr (π : Type)
  | constant (value : Constant) (place : π)
  | name (id : Value) (place : π)
  /-- A list, or a tuple. -/
  | sequence (isTuple : Bool) (items : List (Expr π)) (place : π)
  /-- Keywords are names with values; one without a name spreads a mapping. -/
  | call (head : Expr π) (args : List (Expr π)) (keywords : List (Option Value × Expr π)) (place : π)
  | binary (op : BinaryOp) (left right : Expr π) (place : π)
  | unary (op : UnaryOp) (operand : Expr π) (place : π)
  | compare (left : Expr π) (rest : List (CompareOp × Expr π)) (place : π)
  | subscript (value index : Expr π) (place : π)
  | starred (value : Expr π) (place : π)
  /-- Any other expression, by its kind and the expressions in it. -/
  | other (kind : String) (parts : List (Expr π)) (place : π)
  /-- An expression that lacks something without which it cannot be taken. -/
  | defect (fault : Fault) (place : π)
  deriving Inhabited

namespace Expr

variable {π : Type}

/-- The name of an expression's kind. -/
def kind : Expr π → String
  | .constant _ _ => "Constant"
  | .name _ _ => "Name"
  | .sequence true _ _ => "Tuple"
  | .sequence false _ _ => "List"
  | .call _ _ _ _ => "Call"
  | .binary _ _ _ _ => "BinOp"
  | .unary _ _ _ => "UnaryOp"
  | .compare _ _ _ => "Compare"
  | .subscript _ _ _ => "Subscript"
  | .starred _ _ => "Starred"
  | .other kind _ _ => kind
  | .defect _ _ => "defect"

/-- What holds of an expression if it holds of the expressions in it holds of all expressions. -/
@[induction_eliminator]
theorem induction {motive : Expr π → Prop}
    (constant : ∀ value p, motive (.constant value p))
    (name : ∀ id p, motive (.name id p))
    (sequence : ∀ isTuple items p, (∀ e ∈ items, motive e) → motive (.sequence isTuple items p))
    (call : ∀ head args keywords p, motive head → (∀ e ∈ args, motive e) →
      (∀ k ∈ keywords, motive k.2) → motive (.call head args keywords p))
    (binary : ∀ op left right p, motive left → motive right → motive (.binary op left right p))
    (unary : ∀ op operand p, motive operand → motive (.unary op operand p))
    (compare : ∀ left rest p, motive left → (∀ c ∈ rest, motive c.2) →
      motive (.compare left rest p))
    (subscript : ∀ value index p, motive value → motive index → motive (.subscript value index p))
    (starred : ∀ value p, motive value → motive (.starred value p))
    (other : ∀ kind parts p, (∀ e ∈ parts, motive e) → motive (.other kind parts p))
    (defect : ∀ fault p, motive (.defect fault p)) (e : Expr π) : motive e := by
  refine @Expr.rec π motive (fun items => ∀ e ∈ items, motive e)
    (fun keywords => ∀ k ∈ keywords, motive k.2) (fun rest => ∀ c ∈ rest, motive c.2)
    (fun k => motive k.2) (fun c => motive c.2) constant name sequence call binary unary compare
    subscript starred other defect ?_ ?_ ?_ ?_ ?_ ?_ (fun _ _ h => h) (fun _ _ h => h) e
  · simp
  · intro first rest hfirst hrest
    rw [List.forall_mem_cons]
    exact ⟨hfirst, hrest⟩
  · simp
  · intro first rest hfirst hrest
    rw [List.forall_mem_cons]
    exact ⟨hfirst, hrest⟩
  · simp
  · intro first rest hfirst hrest
    rw [List.forall_mem_cons]
    exact ⟨hfirst, hrest⟩

end Expr

end ExprMarkup.Source
