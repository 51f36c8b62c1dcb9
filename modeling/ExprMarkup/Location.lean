import ExprMarkup.Value.Equality

namespace ExprMarkup

/-- Where a node stands in its text, counted from one. A location that comes with a document may hold any
values, so its fields do. -/
structure Location where
  line : Value
  column : Value
  endLine : Value := .absent
  endColumn : Value := .absent
  file : Value := .absent
  deriving Inhabited

namespace Location

/-- The location of a node that was made up, and stands nowhere. -/
def unknown : Location := ⟨.int 0, .int 0, .absent, .absent, .absent⟩

/-- The name of a file as part of a location. -/
def fileValue : Option String → Value
  | some name => .text name
  | none => .absent

/-- A point of a text, where a line and a column are all that is known. -/
def point (file : Option String) (line column : Int) : Location :=
  { line := .int line, column := .int column, file := fileValue file }

/-- `file:line:column`, without the file where there is none. -/
def text (l : Location) : String :=
  if l.file.isTruthy then
    l.file.display ++ ":" ++ l.line.display ++ ":" ++ l.column.display
  else l.line.display ++ ":" ++ l.column.display

def equal (a b : Location) : Bool :=
  a.line.equal b.line && a.column.equal b.column && a.endLine.equal b.endLine &&
    a.endColumn.equal b.endColumn && a.file.equal b.file

end Location

end ExprMarkup
