import ExprMarkup.Config
import ExprMarkup.Scope
import ExprMarkup.Tree.Walk

namespace ExprMarkup

/-- The scope of one expression: the operators, the known symbols, and the symbols of the expression
itself, each of which stands for its escaped name. -/
def Scope.build (root : Tree) (operators symbols : Table Binding) (escaper : Text.Escaper) : Scope :=
  let own := root.symbols.map fun name => (name, Binding.fragment ⟨escaper name⟩)
  ⟨[⟨"operators", operators, true⟩, ⟨"symbols", symbols, false⟩,
    ⟨"ambient", Table.ofList own, false⟩]⟩

/-- What the engine needs to know of a target notation. -/
structure Dialect where
  name : String
  escaper : Text.Escaper
  operators : Registry
  symbols : Table Fragment
  /-- The renderer of a head that the registry lacks. -/
  fallback : String → Config → Renderer

namespace Dialect

/-- Texts that are output already. -/
def knownSymbols (texts : List (String × String)) : Table Fragment :=
  Table.ofList (texts.map fun e => (e.1, ⟨e.2⟩))

def scopeFor (d : Dialect) (root : Tree) : Scope :=
  Scope.build root (d.operators.renderers.map .renderer) (d.symbols.map .fragment) d.escaper

end Dialect

end ExprMarkup
