namespace ExprMarkup.Text

abbrev Escaper := String → String

/-- Writes each character as `special` says, or as itself. -/
def escapeChars (special : Char → Option (List Char)) (text : List Char) : List Char :=
  text.flatMap fun c => (special c).getD [c]

def escapeWith (special : Char → Option (List Char)) (text : String) : String :=
  String.ofList (escapeChars special text.toList)

/-- In element content the ampersand and the angle brackets are special; quotes are not. -/
def htmlSpecial : Char → Option (List Char)
  | '&' => some ['&', 'a', 'm', 'p', ';']
  | '<' => some ['&', 'l', 't', ';']
  | '>' => some ['&', 'g', 't', ';']
  | _ => none

/-- Inside a quoted attribute value quotes and line ends are special. The ampersand is not: the
value has passed through the escaper of content. -/
def attributeSpecial : Char → Option (List Char)
  | '\'' => some ['&', '#', '3', '9', ';']
  | '"' => some ['&', 'q', 'u', 'o', 't', ';']
  | '\r' => some ['&', '#', '1', '3', ';']
  | '\n' => some ['&', '#', '1', '0', ';']
  | _ => none

/-- The characters that LaTeX reads as markup. The braces of a written backslash are not escaped
again, since every character of the text is replaced once. -/
def latexSpecial : Char → Option (List Char)
  | '\\' => some ['\\', 'b', 'a', 'c', 'k', 's', 'l', 'a', 's', 'h', '{', '}']
  | '$' => some ['\\', '$']
  | '%' => some ['\\', '%']
  | '&' => some ['\\', '&']
  | '#' => some ['\\', '#']
  | '{' => some ['\\', '{']
  | '}' => some ['\\', '}']
  | _ => none

def escapeHtml : Escaper := escapeWith htmlSpecial

def escapeAttribute : Escaper := escapeWith attributeSpecial

def escapeLatex : Escaper := escapeWith latexSpecial

@[simp] theorem escapeChars_nil (special : Char → Option (List Char)) : escapeChars special [] = [] := rfl

@[simp] theorem escapeChars_cons (special : Char → Option (List Char)) (c : Char) (text : List Char) :
    escapeChars special (c :: text) = (special c).getD [c] ++ escapeChars special text := rfl

@[simp] theorem escapeChars_append (special : Char → Option (List Char)) (a b : List Char) :
    escapeChars special (a ++ b) = escapeChars special a ++ escapeChars special b := by
  simp [escapeChars]

@[simp] theorem toList_escapeWith (special : Char → Option (List Char)) (text : String) :
    (escapeWith special text).toList = escapeChars special text.toList := by
  simp [escapeWith]

/-- A text without special characters is its own escaped text. -/
theorem escapeChars_eq_self {special : Char → Option (List Char)} {text : List Char}
    (h : ∀ c ∈ text, special c = none) : escapeChars special text = text := by
  induction text with
  | nil => rfl
  | cons c rest ih =>
    have hrest := ih fun d hd => h d (by simp [hd])
    simp [h c (by simp), hrest]

end ExprMarkup.Text
