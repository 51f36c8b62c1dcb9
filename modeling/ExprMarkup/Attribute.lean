import ExprMarkup.Fragment

namespace ExprMarkup.Attribute

def nameChars (name : List Char) : List Char :=
  let body := if 1 < name.length && name.getLast? == some '_' then name.dropLast else name
  body.map fun c => if c == '_' then '-' else c

/-- The attribute's name: one final underscore is dropped, the others become hyphens. -/
def attributeName (name : String) : String := String.ofList (nameChars name.toList)

def quotedValue (name : String) (f : Fragment) : String :=
  attributeName name ++ "='" ++ Text.escapeAttribute f.text ++ "'"

/-- One attribute as text: the value is escaped once more for the quotes around it, an absent one leaves
the bare name, and several values are refused. -/
def write (name : String) : Rendered → Except Error String
  | .one f => .ok (quotedValue name f)
  | .many [] => .ok (attributeName name)
  | .many [f] => .ok (quotedValue name f)
  | .many fs =>
    .error ⟨.attribute (attributeName name) (.severalValues fs.length), none⟩

/-- Attributes in order, with a space before each. -/
def writeAll : List (String × Rendered) → Except Error String
  | [] => .ok ""
  | (name, value) :: rest => do
    let first ← write name value
    return " " ++ first ++ (← writeAll rest)

end ExprMarkup.Attribute
