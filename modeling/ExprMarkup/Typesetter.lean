import ExprMarkup.Capture.Assembled
import ExprMarkup.Dialect.Html
import ExprMarkup.Dialect.Latex
import ExprMarkup.Interpret

namespace ExprMarkup

/-- Expressions in all of their forms: texts, syntax objects, and trees. -/
inductive Expression
  | text (source : List Capture.CodePoint)
  | assembled (object : Capture.Assembled)
  | tree (root : Tree)

/-- The tree of an expression. A file name is for the locations in it. -/
def Expression.capture (host : Capture.Host) (file : Option String) : Expression → Except Failure Tree
  | .text source => Capture.ofCodePoints host source file
  | .assembled object => object.captureAny host file
  | .tree root => .ok root

/-- A dialect and a configuration, each of which may be left open: an open dialect is that of HTML,
and for an open configuration the one in force counts. -/
structure Typesetter where
  dialect : Option Dialect
  config : Option Config

namespace Typesetter

/-- The name of the dialect, which an open one does not have. -/
def name (t : Typesetter) : Except Fault String :=
  match t.dialect with
  | some d => .ok d.name
  | none => .error .noDialect

/-- Renders an expression; `current` is the configuration in force, if there is one. -/
def render (t : Typesetter) (host : Capture.Host) (current : Option Config) (file : Option String)
    (e : Expression) : Run String := do
  let root ← Run.ofExcept (e.capture host file)
  let config ← Interpret.settle t.config current
  Interpret.renderText (t.dialect.getD Dialect.html) config root

def html (config : Option Config) : Typesetter := ⟨some Dialect.html, config⟩

def latex (config : Option Config) : Typesetter := ⟨some Dialect.latex, config⟩

end Typesetter

end ExprMarkup
