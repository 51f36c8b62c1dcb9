import ExprMarkup.Value

namespace ExprMarkup

/-- A real number, as an integer or as a float. -/
inductive Number
  | int (n : Int)
  | float (x : Float)
  deriving DecidableEq

namespace Number

/-- The integer that a float stands for, if it is a whole number. -/
def wholeValue? (x : Float) : Option Int :=
  if x.isNaN || x.isInf then none
  else
    let b := Decimal.Binary.ofBits x.toBits
    let size : Option Nat :=
      if b.significand % Decimal.power 2 (-b.exponent) = 0 then
        some (b.significand * Decimal.power 2 b.exponent / Decimal.power 2 (-b.exponent))
      else none
    size.map fun n => if Decimal.isNegative x then -(n : Int) else n

/-- Two NaN are equal only if they are known to be one object. -/
def equal (sharedNaN : Bool) : Number → Number → Bool
  | .int a, .int b => a == b
  | .float x, .float y => x == y || (sharedNaN && x.isNaN && y.isNaN)
  | .int a, .float y => wholeValue? y == some a
  | .float x, .int b => wholeValue? x == some b

end Number

def Scalar.number? : Scalar → Option Number
  | .bool b => some (.int (if b then 1 else 0))
  | .int n => some (.int n)
  | .float x => some (.float x)
  | _ => none

namespace Scalar

def equal (a b : Scalar) (sharedNaN : Bool := false) : Bool :=
  match a.number?, b.number? with
  | some x, some y => x.equal sharedNaN y
  | none, none => a == b
  | _, _ => false

def allEqual (sharedNaN : Bool) : List Scalar → List Scalar → Bool
  | [], [] => true
  | a :: as, b :: bs => a.equal b sharedNaN && allEqual sharedNaN as bs
  | _, _ => false

end Scalar

def Literal.equal (sharedNaN : Bool) : Literal → Literal → Bool
  | .scalar a, .scalar b => a.equal b sharedNaN
  | .sequence as, .sequence bs => Scalar.allEqual sharedNaN as bs
  | _, _ => false

namespace Value

def equalComplex (re im : Float) : Value → Bool
  | .complex re' im' => re == re' && im == im'
  | .scalar s => im == 0 && match s.number? with
    | some n => n.equal false (.float re)
    | none => false
  | _ => false

mutual

/-- Numbers are equal when they are the same number, whatever their kind, and NaN equals nothing.
Dictionaries are compared key by key whatever their order. -/
def equal : Value → Value → Bool
  | .scalar a, .scalar b => a.equal b
  | .complex re im, v => equalComplex re im v
  | .scalar a, .complex re im => equalComplex re im (.scalar a)
  | .ellipsis, .ellipsis => true
  | .bytes a, .bytes b => a == b
  | .tuple as, .tuple bs => allEqual as bs
  | .list as, .list bs => allEqual as bs
  | .dict as, .dict bs => as.length == bs.length && sameEntries as bs
  | .safe a, .safe b => a == b
  | .raw a, .raw b => a == b
  | _, _ => false

def allEqual : List Value → List Value → Bool
  | [], [] => true
  | a :: as, b :: bs => a.equal b && allEqual as bs
  | _, _ => false

/-- Each entry of the first dictionary has an equal one in the second. -/
def sameEntries : List (String × Value) → List (String × Value) → Bool
  | [], _ => true
  | (key, a) :: rest, bs =>
    (match bs.find? (fun entry => entry.1 == key) with
      | some entry => a.equal entry.2
      | none => false) && sameEntries rest bs

end

end Value

end ExprMarkup
