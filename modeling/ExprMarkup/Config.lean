import ExprMarkup.Value.Equality

namespace ExprMarkup

namespace Number

/-- Whether a whole number is above this one. NaN is below nothing. -/
def below (x : Number) (n : Nat) : Bool :=
  match x with
  | .int m => m < n
  | .float y => y < Float.ofNat n

end Number

/-- How deep an expression may nest, and what joins the arguments of an unknown function. -/
structure Config where
  maxDepth : Scalar := .int 200
  separator : Value := .text ", "
  isPositive : (maxDepth.number?.any fun x => !x.below 1) = true := by decide

namespace Config

def default : Config := {}

instance : Inhabited Config := ⟨default⟩

/-- Why there is no such configuration. -/
inductive Refusal
  | depthNotNumber
  | depthNotPositive (depth : Value)

def Refusal.message? : Refusal → Option String
  | .depthNotNumber => none
  | .depthNotPositive depth => some ("max_depth must be positive, got " ++ depth.display)

def make (maxDepth separator : Value) : Except Refusal Config :=
  match maxDepth with
  | .scalar s =>
    if h : (s.number?.any fun x => !x.below 1) = true then .ok ⟨s, separator, h⟩
    else if s.number?.isSome then .error (.depthNotPositive maxDepth)
    else .error .depthNotNumber
  | _ => .error .depthNotNumber

/-- A configuration from the entries of a dictionary. Keys that mean nothing are passed over. -/
def ofEntries (entries : List (String × Value)) : Except Refusal Config :=
  let get (key : String) (preset : Value) : Value :=
    match entries.find? fun e => e.1 == key with
    | some e => e.2
    | none => preset
  make (get "max_depth" (.int 200)) (get "fallback_separator" (.text ", "))

/-- A node at this depth is too deep. -/
def isExceededBy (c : Config) (depth : Nat) : Bool :=
  match c.maxDepth.number? with
  | some x => x.below depth
  | none => false

def equal (a b : Config) : Bool :=
  a.maxDepth.equal b.maxDepth && a.separator.equal b.separator

end Config

end ExprMarkup
