import ExprMarkup.Source.Expr

namespace ExprMarkup.Source

inductive Token
  | name (text : String) (span : Span)
  /-- A word that is no name. -/
  | word (text : String) (span : Span)
  | number (value : Constant) (span : Span)
  | text (content : String) (span : Span)
  | bytes (span : Span)
  /-- A text with expressions in it, each given by its tokens. -/
  | formatted (fields : List (List Token)) (span : Span)
  /-- An operator or a delimiter. -/
  | mark (text : String) (span : Span)
  /-- The end of a line outside of all brackets. -/
  | newline (span : Span)
  deriving Inhabited

namespace Token

def span : Token → Span
  | .name _ s => s
  | .word _ s => s
  | .number _ s => s
  | .text _ s => s
  | .bytes s => s
  | .formatted _ s => s
  | .mark _ s => s
  | .newline s => s

end Token

end ExprMarkup.Source
