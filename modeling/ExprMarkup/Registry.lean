import ExprMarkup.Renderer
import ExprMarkup.Table
import ExprMarkup.Text.Identifier
import ExprMarkup.Value.Pairs

namespace ExprMarkup

/-- The renderers of heads. Their names are identifiers, and a name is taken unless it may be replaced. -/
structure Registry where
  renderers : Table Renderer
  deriving Inhabited

namespace Registry

def find? (r : Registry) (name : String) : Option Renderer := r.renderers.find? name

def contains (r : Registry) (name : String) : Bool := r.renderers.contains name

def names (r : Registry) : List String := r.renderers.names

def size (r : Registry) : Nat := r.renderers.size

/-- Why a registration is refused. -/
inductive Refusal
  | nameNotText
  | notIdentifier (name : String)
  | notRenderer (name : String)
  | nameTaken (name : String)
  /-- A name in a mapping cannot be a key. -/
  | unhashableName
  deriving DecidableEq

/-- Refusals that are breakdowns have no message. -/
def Refusal.message? : Refusal → Option String
  | .nameNotText => none
  | .notIdentifier name => some ("Renderer name must be an identifier, got " ++ Text.quoted name)
  | .notRenderer name => some ("Renderer for " ++ Text.quoted name ++ " is not callable")
  | .nameTaken name => some ("Renderer '" ++ name ++ "' already registered")
  | .unhashableName => none

/-- Registrations made so far. -/
structure Builder where
  renderers : Table Renderer
  deriving Inhabited

namespace Builder

def empty : Builder := ⟨Table.empty⟩

def ofRegistry (r : Registry) : Builder := ⟨r.renderers⟩

def build (b : Builder) : Registry := ⟨b.renderers⟩

def size (b : Builder) : Nat := b.renderers.size

def contains (b : Builder) (name : String) : Bool := b.renderers.contains name

/-- Registers a renderer under a name; `none` is something that is no renderer. -/
def register (b : Builder) (name : Value) (renderer : Option Renderer) (replace : Bool := false) :
    Except Refusal Builder :=
  match name with
  | .scalar (.text s) =>
    if !Text.isIdentifier s then .error (.notIdentifier s)
    else match renderer with
      | none => .error (.notRenderer s)
      | some r =>
        if b.renderers.contains s && !replace then .error (.nameTaken s)
        else .ok ⟨b.renderers.put s r⟩
  | _ => .error .nameNotText

/-- The tag of an element: the given one, or else the name. -/
def tagFor (name : Value) (tag : Option String) : String :=
  match tag with
  | some t => if t = "" then name.display else t
  | none => name.display

def container (b : Builder) (name : Value) (tag : Option String := none) (replace : Bool := false) :
    Except Refusal Builder :=
  b.register name (some (.container (tagFor name tag))) replace

def leaf (b : Builder) (name : Value) (tag : Option String := none) (selfClosing : Bool := true)
    (replace : Bool := false) : Except Refusal Builder :=
  b.register name (some (.leaf (tagFor name tag) selfClosing)) replace

def operator (b : Builder) (name : Value) (template : Template) (replace : Bool := false) :
    Except Refusal Builder :=
  b.register name (some (.operator name.display template)) replace

/-- Registers items one by one and stops at the first refusal; what came before it stays. -/
def registerAll (b : Builder) : List (Value × Option Renderer) → Builder × Option Refusal
  | [] => (b, none)
  | (name, renderer) :: rest =>
    match b.register name renderer with
    | .ok b' => b'.registerAll rest
    | .error why => (b, some why)

/-- Registers the items of a mapping, in which a repeated name counts once. -/
def registerMapping (b : Builder) (items : List (Value × Option Renderer)) :
    Builder × Option Refusal :=
  if items.all fun item => item.1.isHashable then b.registerAll (Value.foldPairs items)
  else (b, some .unhashableName)

end Builder

end Registry

end ExprMarkup
