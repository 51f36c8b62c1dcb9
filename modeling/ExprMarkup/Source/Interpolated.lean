import ExprMarkup.Source.Quotation

namespace ExprMarkup.Source.Interpolated

/-- Whether the current character lies in a quoted literal: in none, or in one that ends with one or
three of the given quote characters. -/
inductive InQuotes
  | no
  | short (quote : Char)
  | long (quote : Char)

def closes (opening closing : Char) : Bool :=
  (opening == '(' && closing == ')') || (opening == '[' && closing == ']') ||
    (opening == '{' && closing == '}')

/-- The deepest nesting of brackets. -/
def bracketLimit : Nat := 200

/-- A comparison that begins with a character which could end an expression. -/
def isComparison (c next : Char) : Bool :=
  next == '=' && (c == '!' || c == '=' || c == '<' || c == '>')

/-- The text of an expression up to the character that ends it, and the rest from that character on.
Backslashes and comments are refused, brackets have to match, and the text must not end first. -/
def spanExpression (quotes : InQuotes) (brackets : List Char) :
    List Char → Option (List Char × List Char)
  | [] => none
  | c :: rest =>
    let goOn (quotes : InQuotes) (brackets : List Char) : Option (List Char × List Char) := do
      let (body, after) ← spanExpression quotes brackets rest
      return (c :: body, after)
    if c == '\\' then none
    else match quotes with
    | .short q => if c == q then goOn .no brackets else goOn quotes brackets
    | .long q =>
      match rest with
      | a :: b :: after =>
        if c == q && a == q && b == q then do
          let (body, after) ← spanExpression .no brackets after
          return (c :: a :: b :: body, after)
        else goOn quotes brackets
      | _ => goOn quotes brackets
    | .no =>
      if c == '\'' || c == '"' then
        match rest with
        | a :: b :: after =>
          if a == c && b == c then do
            let (body, after) ← spanExpression (.long c) brackets after
            return (c :: a :: b :: body, after)
          else goOn (.short c) brackets
        | _ => goOn (.short c) brackets
      else if c == '(' || c == '[' || c == '{' then
        if bracketLimit ≤ brackets.length then none else goOn .no (c :: brackets)
      else if c == '#' then none
      else if brackets.isEmpty && (c == '!' || c == ':' || c == '}' || c == '=' || c == '<' || c == '>')
      then
        match rest with
        | next :: after =>
          if isComparison c next then do
            let (body, after) ← spanExpression .no brackets after
            return (c :: next :: body, after)
          else if c == '<' || c == '>' then goOn .no brackets
          else some ([], c :: rest)
        | [] => if c == '<' || c == '>' then none else some ([], [c])
      else if c == ')' || c == ']' || c == '}' then
        match brackets with
        | [] => none
        | opening :: outer => if closes opening c then goOn .no outer else none
      else goOn .no brackets

/-- Blanks do not make an expression. -/
def isEmptyExpression (text : List Char) : Bool :=
  text.all fun c => c == ' ' || c == '\t' || c == '\n' || c == '\x0c'

def isSpace (c : Char) : Bool := c == ' ' || ('\t' ≤ c && c ≤ '\r')

/-- What a plain stretch ends with. -/
inductive Stop
  | ended
  | doubled
  | brace (c : Char)

/-- A plain stretch: its text, what ends it, and the rest. A brace that ends it belongs to the rest,
the second of two doubled braces to neither. The name in a named escape is passed over. -/
def spanPlain (isRaw nested : Bool) : Nat → List Char → Option (List Char × Stop × List Char)
  | 0, _ => some ([], .ended, [])
  | fuel + 1, text =>
    let put (chars : List Char) (after : List Char) : Option (List Char × Stop × List Char) := do
      let (body, stop, rest) ← spanPlain isRaw nested fuel after
      return (chars ++ body, stop, rest)
    let brace (chars : List Char) (c : Char) (after : List Char) :
        Option (List Char × Stop × List Char) :=
      if nested then some (chars, .brace c, c :: after)
      else match after with
        | d :: more =>
          if d == c then some (chars ++ [c], .doubled, more)
          else if c == '}' then none
          else some (chars, .brace c, c :: after)
        | [] => if c == '}' then none else some (chars, .brace c, [c])
    match text with
    | [] => some ([], .ended, [])
    | c :: rest =>
      if c == '\\' && !isRaw then
        match rest with
        | [] => some ([c], .ended, [])
        | 'N' :: after =>
          match after with
          | '{' :: named =>
            let name := named.takeWhile (· != '}')
            put (c :: 'N' :: '{' :: name ++ (named.drop name.length).take 1)
              (named.drop (name.length + 1))
          | d :: more => put [c, 'N', d] more
          | [] => some ([c, 'N'], .ended, [])
        | d :: after => if d == '{' || d == '}' then brace [c] d after else put [c, d] after
      else if c == '{' || c == '}' then brace [] c rest
      else put [c] rest

/-- The fields of a body, or of a format in a field: the texts of their expressions in order, and the
rest. A body ends with the text, a format before a closing brace. Doubled braces stand for braces, outside
of formats, and formats nest once. -/
def fields (isRaw : Bool) : Nat → Nat → List Char → Option (List (List Char) × List Char)
  | 0, _, _ => none
  | fuel + 1, level, text => do
    let (plain, stop, rest) ← spanPlain isRaw (0 < level) text.length text
    let _ ← Quotation.bodyText isRaw plain
    match stop with
    | .ended => if level = 0 then return ([], []) else none
    | .doubled => fields isRaw fuel level rest
    | .brace c =>
      if c == '}' then
        if level = 0 then none else return ([], rest)
      else if 2 ≤ level then none
      else
        let (expression, rest) ← spanExpression .no [] (rest.drop 1)
        if isEmptyExpression expression then none
        else
          let rest := match rest with
            | '=' :: r => r.dropWhile isSpace
            | r => r
          let rest ← match rest with
            | '!' :: kind :: r => if kind == 's' || kind == 'r' || kind == 'a' then some r else none
            | ['!'] => none
            | r => some r
          let (inner, rest) ← match rest with
            | ':' :: r => fields isRaw fuel (level + 1) r
            | r => some ([], r)
          match rest with
          | '}' :: r =>
            let (more, rest) ← fields isRaw fuel level r
            return (expression :: (inner ++ more), rest)
          | _ => none

/-- The texts of all expressions in a body. -/
def expressions (isRaw : Bool) (body : List Char) : Option (List (List Char)) :=
  (fields isRaw (body.length + 1) 0 body).map Prod.fst

end ExprMarkup.Source.Interpolated
