import ExprMarkup.Decimal.Writing
import ExprMarkup.Text.Quoted

namespace ExprMarkup

/-- What a literal may hold on its own. -/
inductive Scalar
  | absent
  | bool (b : Bool)
  | int (n : Int)
  | float (x : Float)
  | text (s : String)
  deriving Inhabited, DecidableEq

/-- A literal is a scalar or a flat sequence of scalars. Its texts are plain: none of them has a safe form
of its own. -/
inductive Literal
  | scalar (value : Scalar)
  | sequence (items : List Scalar)
  deriving Inhabited, DecidableEq

/-- Any value. `safe` is text that is valid output already, `raw` is text still to be escaped, and
`markup` is an object that knows its own safe form. -/
inductive Value
  | scalar (value : Scalar)
  | complex (re im : Float)
  | ellipsis
  | bytes (data : List UInt8)
  | tuple (items : List Value)
  | list (items : List Value)
  | dict (entries : List (String × Value))
  | safe (text : String)
  | raw (text : String)
  | markup (text : String)
  deriving Inhabited

namespace Scalar

def kind : Scalar → String
  | .absent => "NoneType"
  | .bool _ => "bool"
  | .int _ => "int"
  | .float _ => "float"
  | .text _ => "str"

/-- How a message shows a scalar. -/
def shown : Scalar → String
  | .absent => "None"
  | .bool true => "True"
  | .bool false => "False"
  | .int n => Decimal.intText n
  | .float x => Decimal.floatText x
  | .text s => Text.quoted s

/-- Whether a scalar can be shown: an integer beyond the digit limit cannot. -/
def isShowable : Scalar → Bool
  | .int n => Decimal.withinLimit n
  | _ => true

def isTruthy : Scalar → Bool
  | .absent => false
  | .bool b => b
  | .int n => n != 0
  | .float x => x != 0
  | .text s => s != ""

end Scalar

namespace Literal

def toValue : Literal → Value
  | .scalar s => .scalar s
  | .sequence items => .tuple (items.map .scalar)

def scalars : Literal → List Scalar
  | .scalar s => [s]
  | .sequence items => items

end Literal

namespace Value

abbrev absent : Value := .scalar .absent
abbrev bool (b : Bool) : Value := .scalar (.bool b)
abbrev int (n : Int) : Value := .scalar (.int n)
abbrev float (x : Float) : Value := .scalar (.float x)
abbrev text (s : String) : Value := .scalar (.text s)

def kind : Value → String
  | .scalar s => s.kind
  | .complex _ _ => "complex"
  | .ellipsis => "ellipsis"
  | .bytes _ => "bytes"
  | .tuple _ => "tuple"
  | .list _ => "list"
  | .dict _ => "dict"
  | .safe _ => "SafeFragment"
  | .raw _ => "RawText"
  | .markup _ => "Markup"

def isTruthy : Value → Bool
  | .scalar s => s.isTruthy
  | .complex re im => re != 0 || im != 0
  | .ellipsis => true
  | .bytes data => !data.isEmpty
  | .tuple items => !items.isEmpty
  | .list items => !items.isEmpty
  | .dict entries => !entries.isEmpty
  | .safe t => t != ""
  | .raw _ => true
  | .markup _ => true

def commaSeparated : List String → String
  | [] => ""
  | [s] => s
  | s :: rest => s ++ ", " ++ commaSeparated rest

mutual

/-- How a message shows a value: text is quoted, and a tuple of one has a comma. -/
def shown : Value → String
  | .scalar s => s.shown
  | .complex re im => Decimal.complexText re im
  | .ellipsis => "Ellipsis"
  | .bytes data => Text.quotedBytes data
  | .tuple [v] => "(" ++ v.shown ++ ",)"
  | .tuple items => "(" ++ commaSeparated (shownItems items) ++ ")"
  | .list items => "[" ++ commaSeparated (shownItems items) ++ "]"
  | .dict entries => r"{" ++ commaSeparated (shownEntries entries) ++ r"}"
  | .safe t => "SafeFragment(text=" ++ Text.quoted t ++ ")"
  | .raw t => "RawText(text=" ++ Text.quoted t ++ ")"
  | .markup t => "Markup(" ++ Text.quoted t ++ ")"

def shownItems : List Value → List String
  | [] => []
  | v :: rest => v.shown :: shownItems rest

def shownEntries : List (String × Value) → List String
  | [] => []
  | (key, v) :: rest => (Text.quoted key ++ ": " ++ v.shown) :: shownEntries rest

end

/-- A value set into running text: text and safe text stand as they are. -/
def display : Value → String
  | .scalar (.text s) => s
  | .safe t => t
  | v => v.shown

mutual

/-- Whether a message can show a value. -/
def isShowable : Value → Bool
  | .scalar s => s.isShowable
  | .tuple items => allShowable items
  | .list items => allShowable items
  | .dict entries => entriesShowable entries
  | _ => true

def allShowable : List Value → Bool
  | [] => true
  | v :: rest => v.isShowable && allShowable rest

def entriesShowable : List (String × Value) → Bool
  | [] => true
  | (_, v) :: rest => v.isShowable && entriesShowable rest

end

mutual

/-- Lists and dictionaries change, so they and what contains them cannot be keys. -/
def isHashable : Value → Bool
  | .list _ => false
  | .dict _ => false
  | .tuple items => allHashable items
  | _ => true

def allHashable : List Value → Bool
  | [] => true
  | v :: rest => v.isHashable && allHashable rest

end

end Value

end ExprMarkup
