import ExprMarkup.Registry

namespace ExprMarkup

/-- What a name is bound to. Only a fragment is of use in symbol position, and only a renderer in head
position. -/
inductive Binding
  | fragment (f : Fragment)
  | renderer (r : Renderer)
  /-- A text of which it is not known that it is safe. -/
  | text (s : String)

structure Layer where
  name : String
  entries : Table Binding
  callable : Bool

/-- Layers of bindings, the first one wins. A name in head position is looked up in the callable layers
only, a name in symbol position in the others only. -/
structure Scope where
  layers : List Layer

namespace Scope

/-- The first binding of a name among the layers that `p` admits. -/
def first? (p : Layer → Bool) (name : String) : List Layer → Option (Layer × Binding)
  | [] => none
  | layer :: rest =>
    if p layer then
      match layer.entries.find? name with
      | some b => some (layer, b)
      | none => first? p name rest
    else first? p name rest

/-- What a name stands for in symbol position. -/
def resolve (s : Scope) (name : String) : Option Binding :=
  (first? (fun layer => !layer.callable) name s.layers).map Prod.snd

/-- What a name stands for in head position. -/
def resolveCall (s : Scope) (name : String) : Option Binding :=
  (first? (fun layer => layer.callable) name s.layers).map Prod.snd

/-- The first binding of a name in any layer, with the name of that layer. -/
def lookup (s : Scope) (name : String) : Option (String × Binding) :=
  (first? (fun _ => true) name s.layers).map fun found => (found.1.name, found.2)

/-- The first layer of a name. -/
def layer? (s : Scope) (name : String) : Option Layer := s.layers.find? fun l => l.name == name

end Scope

end ExprMarkup
