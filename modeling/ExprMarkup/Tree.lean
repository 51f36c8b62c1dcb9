import ExprMarkup.Error
import ExprMarkup.Table
import ExprMarkup.Text.Identifier
import ExprMarkup.Value.Pairs

namespace ExprMarkup

/-- A tree. `bare` is a node of no known kind. -/
inductive Tree
  | literal (value : Literal) (location : Option Location)
  | symbol (name : String) (location : Option Location)
  | call (head : String) (args : List Tree) (named : List (String × Tree)) (location : Option Location)
  | bare (location : Option Location)
  deriving Inhabited

/-- What is offered as an argument: a tree, or a value that is none. -/
inductive Argument
  | node (tree : Tree)
  | other (value : Value)

namespace Tree

def location : Tree → Option Location
  | .literal _ l => l
  | .symbol _ l => l
  | .call _ _ _ l => l
  | .bare l => l

/-- All arguments of a call, the positional ones first. -/
def children : Tree → List Tree
  | .call _ args named _ => args ++ named.map Prod.snd
  | _ => []

/-- The named arguments of a call, each under its name. -/
def namedArgs : Tree → Table Tree
  | .call _ _ named _ => Table.ofList named
  | _ => Table.empty

/-- The scalars among the values. -/
def scalars? : List Value → Option (List Scalar)
  | [] => some []
  | .scalar s :: rest => (scalars? rest).map (s :: ·)
  | _ :: _ => none

/-- The constructors take any values and refuse those that make no tree. -/
def newLiteral (value : Value) (location : Option Location) : Except Failure Tree :=
  let refused : Except Failure Tree := .error (.malformed (.notLiteral value.kind) location)
  match value with
  | .scalar s => .ok (.literal (.scalar s) location)
  | .tuple items =>
    match scalars? items with
    | some ss => .ok (.literal (.sequence ss) location)
    | none => refused
  | _ => refused

/-- The text of a name that is an identifier. The message that refuses any other name shows it, and is
never made if the name cannot be shown. -/
def identifier (role : NameRole) (name : Value) (location : Option Location) :
    Except Failure String :=
  let refused : Except Failure String :=
    if name.isShowable then .error (.malformed (.notIdentifier role name) location)
    else .error (.fault .digitLimit)
  match name with
  | .scalar (.text s) => if Text.isIdentifier s then .ok s else refused
  | _ => refused

def newSymbol (name : Value) (location : Option Location) : Except Failure Tree := do
  return .symbol (← identifier .symbolName name location) location

/-- Checks named arguments in order: the name, that it is new, and that its value is a tree. -/
def checkNamed (location : Option Location) (seen : List String) :
    List (Value × Argument) → Except Failure (List (String × Tree))
  | [] => .ok []
  | (name, value) :: rest => do
    let key ← identifier .namedArgument name location
    if seen.contains key then
      throw (.malformed (.duplicateName key) location)
    match value with
    | .other _ => throw (.malformed (.namedNotNode key) location)
    | .node tree => return (key, tree) :: (← checkNamed location (key :: seen) rest)

def checkArgs (location : Option Location) (head : String) :
    List Argument → Except Failure (List Tree)
  | [] => .ok []
  | .other _ :: _ => .error (.malformed (.argumentNotNode head) location)
  | .node tree :: rest => do return tree :: (← checkArgs location head rest)

/-- A call, if its head and names are identifiers, no name comes twice and all arguments are trees. -/
def newCall (head : Value) (args : List Argument) (named : List (Value × Argument))
    (location : Option Location) : Except Failure Tree := do
  let head ← identifier .callHead head location
  let named ← checkNamed location [] named
  let args ← checkArgs location head args
  return .call head args named location

/-- A call whose repeated names are folded. -/
def build (head : Value) (args : List Argument) (named : List (Value × Argument))
    (location : Option Location) : Except Failure Tree :=
  if named.all fun entry => entry.1.isHashable then
    newCall head args (Value.foldPairs named) location
  else .error (.fault .unhashableName)

/-- A call written with keywords, and without a location. A keyword is a text, and the words that
name the parameters of this constructor are taken. -/
def ofKeywords (head : Value) (args : List Argument) (named : List (Value × Argument)) :
    Except Failure Tree :=
  let free (name : Value) : Bool := match name with
    | .scalar (.text s) => !(["cls", "head"].contains s)
    | _ => false
  if named.all fun entry => free entry.1 then build head args named none
  else .error (.fault .reservedName)

/-- `head` applied `n` times around a tree. -/
def nest (head : Value) : Nat → Tree → Except Failure Tree
  | 0, inner => .ok inner
  | n + 1, inner => do nest head n (← ofKeywords head [.node inner] [])

mutual

/-- Trees are equal when they have the same form and equal values; locations do not count. -/
def equal (sharedNaN : Bool) : Tree → Tree → Bool
  | .literal a _, .literal b _ => Literal.equal sharedNaN a b
  | .symbol a _, .symbol b _ => a == b
  | .call h as ns _, .call h' as' ns' _ =>
    h == h' && allEqual sharedNaN as as' && namedEqual sharedNaN ns ns'
  | .bare _, .bare _ => true
  | _, _ => false

def allEqual (sharedNaN : Bool) : List Tree → List Tree → Bool
  | [], [] => true
  | a :: as, b :: bs => equal sharedNaN a b && allEqual sharedNaN as bs
  | _, _ => false

def namedEqual (sharedNaN : Bool) : List (String × Tree) → List (String × Tree) → Bool
  | [], [] => true
  | (n, a) :: as, (m, b) :: bs => n == m && equal sharedNaN a b && namedEqual sharedNaN as bs
  | _, _ => false

end

mutual

/-- Names are identifiers, and the named arguments of a call have different names. -/
def WellFormed : Tree → Prop
  | .literal _ _ => True
  | .symbol name _ => Text.isIdentifier name = true
  | .call head args named _ =>
    Text.isIdentifier head = true ∧ (named.map Prod.fst).Nodup ∧ AllWellFormed args ∧
      NamedWellFormed named
  | .bare _ => True

def AllWellFormed : List Tree → Prop
  | [] => True
  | t :: rest => t.WellFormed ∧ AllWellFormed rest

def NamedWellFormed : List (String × Tree) → Prop
  | [] => True
  | (name, t) :: rest => Text.isIdentifier name = true ∧ t.WellFormed ∧ NamedWellFormed rest

end

theorem allWellFormed_iff (args : List Tree) : AllWellFormed args ↔ ∀ t ∈ args, t.WellFormed := by
  induction args with
  | nil => simp [AllWellFormed]
  | cons t rest ih => simp [AllWellFormed, ih]

theorem namedWellFormed_iff (named : List (String × Tree)) :
    NamedWellFormed named ↔ ∀ e ∈ named, Text.isIdentifier e.1 = true ∧ e.2.WellFormed := by
  induction named with
  | nil => simp [NamedWellFormed]
  | cons e rest ih =>
    obtain ⟨name, t⟩ := e
    simp [NamedWellFormed, ih, and_assoc]

/-- What holds of a call if it holds of its arguments holds of all trees. -/
@[induction_eliminator]
theorem induction {motive : Tree → Prop}
    (literal : ∀ value location, motive (.literal value location))
    (symbol : ∀ name location, motive (.symbol name location))
    (call : ∀ head args named location, (∀ t ∈ args, motive t) → (∀ e ∈ named, motive e.2) →
      motive (.call head args named location))
    (bare : ∀ location, motive (.bare location)) (t : Tree) : motive t := by
  refine @Tree.rec motive (fun args => ∀ t ∈ args, motive t) (fun named => ∀ e ∈ named, motive e.2)
    (fun e => motive e.2) literal symbol call bare ?_ ?_ ?_ ?_ (fun _ _ h => h) t
  · simp
  · intro first rest hfirst hrest
    rw [List.forall_mem_cons]
    exact ⟨hfirst, hrest⟩
  · simp
  · intro first rest hfirst hrest
    rw [List.forall_mem_cons]
    exact ⟨hfirst, hrest⟩

end Tree

end ExprMarkup
