import ExprMarkup.Source.Interpolated
import ExprMarkup.Source.Number
import ExprMarkup.Source.Token
import ExprMarkup.Text.Identifier
import ExprMarkup.Text.Normalization

namespace ExprMarkup.Source

/-- The place behind some text that begins here. -/
def Position.after (p : Position) : List Char → Position
  | [] => p
  | '\n' :: rest => Position.after ⟨p.line + 1, 0⟩ rest
  | c :: rest => Position.after ⟨p.line, p.column + c.utf8Size⟩ rest

namespace Lexer

/-- Operators and delimiters, longer ones before their beginnings. Some of them are part of no
expression. -/
def marks : List (List Char) :=
  ["**=".toList, "//=".toList, ">>=".toList, "<<=".toList, "...".toList,
   "!=".toList, "%=".toList, "&=".toList, "**".toList, "*=".toList, "+=".toList, "-=".toList,
   "->".toList, "/=".toList, "//".toList, ":=".toList, "<<".toList, "<=".toList, "<>".toList,
   "==".toList, ">=".toList, ">>".toList, "@=".toList, "^=".toList, "|=".toList,
   "(".toList, ")".toList, "[".toList, "]".toList, ":".toList, ",".toList, ";".toList, "+".toList,
   "-".toList, "*".toList, "/".toList, "|".toList, "&".toList, "<".toList, ">".toList, "=".toList,
   ".".toList, "%".toList, ['{'], ['}'], "~".toList, "^".toList, "@".toList]

/-- Where the splitting stands. -/
structure State where
  place : Position
  /-- The brackets that are open, the innermost first. -/
  brackets : List Char
  /-- Nothing but blanks came in this line yet. -/
  fresh : Bool
  /-- The line begins with blanks. -/
  indented : Bool
  /-- The line continues one that begins with blanks. -/
  continued : Bool

def State.start : State := ⟨⟨1, 0⟩, [], true, false, false⟩

/-- The state after a blank or a continued line. -/
def State.skip (s : State) (chars : List Char) : State := { s with place := s.place.after chars }

/-- A token may begin here unless its line is indented. -/
def State.admitsToken (s : State) : Bool :=
  !(s.fresh && s.brackets.isEmpty && (s.indented || s.continued))

/-- The state after a token. -/
def State.pass (s : State) (lexeme : List Char) : State :=
  { s with place := s.place.after lexeme, fresh := false }

/-- The brackets that are open after a mark. -/
def openBrackets (brackets : List Char) (mark : List Char) : Option (List Char) :=
  match mark with
  | [c] =>
    if c == '(' || c == '[' || c == '{' then
      if Interpolated.bracketLimit ≤ brackets.length then none else some (c :: brackets)
    else if c == ')' || c == ']' || c == '}' then
      match brackets with
      | [] => none
      | opening :: outer => if Interpolated.closes opening c then some outer else none
    else some brackets
  | _ => some brackets

/-- A word as a token, if its characters make a name. -/
def wordToken (lexeme : List Char) (span : Span) : Option Token :=
  let text := String.ofList lexeme
  if Text.isKeyword text then some (.word text span)
  else if Text.isIdentifierChars lexeme then some (.name (Text.normalizeName text) span)
  else none

/-- All tokens of a text, behind those found before, which are given in reverse. The fuel bounds the
number of characters. -/
def scan : Nat → State → List Token → List Char → Option (List Token)
  | 0, _, _, _ => none
  | fuel + 1, s, found, text =>
    match text with
    | [] => if s.brackets.isEmpty then some found.reverse else none
    | c :: rest =>
      if c == ' ' || c == '\t' then scan fuel { s.skip [c] with indented := s.fresh } found rest
      else if c == '\x0c' then scan fuel { s.skip [c] with indented := false } found rest
      else if c == '\\' then
        match rest with
        | '\n' :: d :: more =>
          scan fuel { s.skip [c, '\n'] with continued := s.continued || (s.fresh && s.indented) } found
            (d :: more)
        | _ => none
      else if c == '#' then
        scan fuel (s.skip (text.takeWhile (· != '\n'))) found (text.dropWhile (· != '\n'))
      else if c == '\n' then
        let next : State := ⟨s.place.after [c], s.brackets, true, false, false⟩
        if s.fresh || !s.brackets.isEmpty then scan fuel next found rest
        else scan fuel next (.newline ⟨s.place, s.place⟩ :: found) rest
      else if !s.admitsToken then none
      else
        let spanOf (lexeme : List Char) : Span := ⟨s.place, s.place.after lexeme⟩
        match Quotation.opening? text with
        | some (manner, letters, quoted) =>
          match Quotation.spanQuoted quoted with
          | none => none
          | some (body, literal, after) =>
            let lexeme := letters ++ literal
            let token : Option Token :=
              if manner.isFormatted then do
                let texts ← Interpolated.expressions manner.isRaw body
                let parts ← texts.mapM fun e => scan fuel State.start [] ('(' :: e ++ [')'])
                return .formatted parts (spanOf lexeme)
              else if manner.isBytes then
                if Quotation.isBytesBody manner.isRaw body then some (.bytes (spanOf lexeme)) else none
              else (Quotation.bodyText manner.isRaw body).map fun content =>
                .text (String.ofList content) (spanOf lexeme)
            match token with
            | none => none
            | some t => scan fuel (s.pass lexeme) (t :: found) after
        | none =>
          if isWordStart c then
            let lexeme := text.takeWhile isWordChar
            match wordToken lexeme (spanOf lexeme) with
            | none => none
            | some t => scan fuel (s.pass lexeme) (t :: found) (text.dropWhile isWordChar)
          else if Decimal.isDigit c || (c == '.' && rest.head?.any Decimal.isDigit) then
            match Number.scan text with
            | none => none
            | some n =>
              scan fuel (s.pass n.lexeme) (.number n.value (spanOf n.lexeme) :: found) n.rest
          else
            match marks.find? fun m => Number.startsWith m text with
            | none => none
            | some lexeme =>
              match openBrackets s.brackets lexeme with
              | none => none
              | some brackets =>
                scan fuel { s.pass lexeme with brackets := brackets }
                  (.mark (String.ofList lexeme) (spanOf lexeme) :: found) (text.drop lexeme.length)

/-- The tokens of a text, or nothing if it cannot be split. Inside brackets the ends of lines mean nothing;
outside, a line that holds more than a comment must not be indented. -/
def tokens (text : List Char) : Option (List Token) := scan (text.length + 1) State.start [] text

end Lexer

end ExprMarkup.Source
