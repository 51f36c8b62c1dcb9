import ExprMarkup.Attribute
import ExprMarkup.Template

namespace ExprMarkup

/-- A renderer makes one fragment from the rendered children and named values of a call. These are safe
already, so only the values of attributes are escaped again. -/
inductive Renderer
  /-- An element around its children. -/
  | container (tag : String)
  /-- An element without content. -/
  | leaf (tag : String) (selfClosing : Bool)
  /-- A mathematical operator with positional arguments only. -/
  | operator (name : String) (template : Template)
  /-- A function of an unknown name, its arguments joined by a separator. -/
  | mathFallback (head : String) (separator : Value)
  /-- Any other function from rendered arguments. -/
  | custom (label : String) (run : List Rendered → List (String × Rendered) → Except Error Fragment)

namespace Renderer

def label : Renderer → String
  | .container tag => "container_" ++ tag
  | .leaf tag _ => "leaf_" ++ tag
  | .operator name _ => "operator_" ++ name
  | .mathFallback head _ => "fallback_" ++ head
  | .custom label _ => label

def element (tag attributes body : String) : String :=
  "<" ++ tag ++ attributes ++ ">" ++ body ++ "</" ++ tag ++ ">"

def runContainer (tag : String) (children : List Rendered) (attributes : List (String × Rendered)) :
    Except Error Fragment := do
  let written ← Attribute.writeAll attributes
  return ⟨element tag written (Rendered.concat children).text⟩

def runLeaf (tag : String) (selfClosing : Bool) (children : List Rendered)
    (attributes : List (String × Rendered)) : Except Error Fragment := do
  if !children.isEmpty then
    throw ⟨.structural tag .voidElement, none⟩
  let written ← Attribute.writeAll attributes
  return ⟨"<" ++ tag ++ written ++ (if selfClosing then " />" else ">")⟩

/-- Each child as one value, counting positions from one. -/
def singles (name : String) (position : Nat) : List Rendered → Except Error (List Fragment)
  | [] => .ok []
  | child :: rest => do
    match child with
    | .many (_ :: _ :: more) =>
      throw ⟨.structural name (.multipleValues position (more.length + 2)), none⟩
    | _ => return child.asFragment :: (← singles name (position + 1) rest)

/-- The arguments of an operator, if it can take them: slots take one value each, a list takes the
elements of its children. -/
def operands (name : String) (template : Template) (children : List Rendered) :
    Except Error (List Fragment) :=
  match template with
  | .slots pieces => do
    let args ← singles name 1 children
    if (args.length : Int) = Template.arity pieces then return args
    else throw ⟨.structural name (.wrongCount (Template.arity pieces) args.length), none⟩
  | .variadic _ _ _ least =>
    let args := Rendered.flatten children
    if (args.length : Int) < least then
      throw ⟨.structural name (.tooFew least args.length), none⟩
    else return args

def runOperator (name : String) (template : Template) (children : List Rendered)
    (attributes : List (String × Rendered)) : Except Failure Fragment := do
  if !attributes.isEmpty then
    throw (.error ⟨.structural name (.namedArguments (attributes.map Prod.fst)), none⟩)
  let args ← (operands name template children).mapError .error
  let text ← (template.fill args).mapError .fault
  return ⟨text⟩

/-- Joins fragments by any value as a separator. One fragment needs no separator; else it has to be
text, except that bytes join no fragments to no bytes. -/
def joinBy (separator : Value) (parts : List Fragment) : Except Fault String :=
  match parts, separator with
  | [part], _ => .ok part.text
  | _, .scalar (.text s) => .ok (joinTexts s (parts.map Fragment.text))
  | [], .bytes _ => .ok (Value.bytes []).shown
  | _, .bytes _ => .error .separatorMismatch
  | _, _ => .error .separatorNotText

/-- A text joins any fragments. -/
theorem joinBy_text (separator : String) (parts : List Fragment) :
    joinBy (.text separator) parts = .ok (joinTexts separator (parts.map Fragment.text)) := by
  cases parts with
  | nil => rfl
  | cons first rest => cases rest <;> rfl

def runMathFallback (head : String) (separator : Value) (children : List Rendered)
    (attributes : List (String × Rendered)) : Except Fault Fragment := do
  let joined ← joinBy separator (Rendered.flatten (children ++ attributes.map Prod.snd))
  return ⟨r"\mathrm{" ++ head ++ r"}(" ++ joined ++ ")"⟩

def run (r : Renderer) (children : List Rendered) (attributes : List (String × Rendered)) :
    Except Failure Fragment :=
  match r with
  | .container tag => (runContainer tag children attributes).mapError .error
  | .leaf tag selfClosing => (runLeaf tag selfClosing children attributes).mapError .error
  | .operator name template => runOperator name template children attributes
  | .mathFallback head separator =>
    (runMathFallback head separator children attributes).mapError .fault
  | .custom _ run => (run children attributes).mapError .error

/-- What a renderer fails with if some of its arguments have no text. Whatever it finds wrong before
it comes to need a text that is missing counts first: elements write their attributes in order and
then their children, operators look at all arguments beforehand. -/
def failure (r : Renderer) (children : List (Option Rendered))
    (attributes : List (String × Option Rendered)) : Failure :=
  let blank (value : Option Rendered) : Rendered := value.getD (.one Fragment.empty)
  let blanked (named : List (String × Option Rendered)) : List (String × Rendered) :=
    named.map fun e => (e.1, blank e.2)
  let attempt : Except Failure Fragment := match r with
    | .container _ | .leaf _ _ =>
      r.run (children.map blank) (blanked (attributes.takeWhile fun e => e.2.isSome))
    | .operator _ _ | .custom _ _ => r.run (children.map blank) (blanked attributes)
    | .mathFallback _ _ => .error (.fault .notFragment)
  match attempt with
  | .error e => e
  | .ok _ => .fault .notFragment

end Renderer

end ExprMarkup
