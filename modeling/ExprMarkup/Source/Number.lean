import ExprMarkup.Decimal.Reading
import ExprMarkup.Decimal.Writing
import ExprMarkup.Source.Expr
import ExprMarkup.Text.CodeTable

namespace ExprMarkup.Source

/-- Characters that continue a word as far as the splitting into tokens is concerned. -/
def isWordChar (c : Char) : Bool := c.isAlphanum || c == '_' || 128 ≤ c.toNat

def isWordStart (c : Char) : Bool := c.isAlpha || c == '_' || 128 ≤ c.toNat

namespace Number

/-- The longest run of digits with single underscores between them or in front, and the rest. -/
def spanGroups (isDigit : Char → Bool) : List Char → List Char × List Char
  | '_' :: d :: rest =>
    if isDigit d then
      let (more, rest) := spanGroups isDigit rest
      ('_' :: d :: more, rest)
    else ([], '_' :: d :: rest)
  | c :: rest =>
    if isDigit c then
      let (more, rest) := spanGroups isDigit rest
      (c :: more, rest)
    else ([], c :: rest)
  | [] => ([], [])

def withoutUnderscores (text : List Char) : List Char := text.filter (· != '_')

def baseValue (base : Nat) (text : List Char) : Nat :=
  (withoutUnderscores text).foldl (fun n c => base * n + (Text.CodeTable.hexDigit? c).getD 0) 0

def startsWith : List Char → List Char → Bool
  | [], _ => true
  | c :: word, d :: text => c == d && startsWith word text
  | _ :: _, [] => false

/-- Words that may follow a number without a blank. -/
def followers : List (List Char) :=
  ["and".toList, "else".toList, "for".toList, "or".toList, "not".toList]

/-- A number may end before this text: no word follows, or one of those that may. -/
def mayEnd (rest : List Char) : Bool :=
  match rest with
  | [] => true
  | c :: _ =>
    !isWordChar c ||
      (followers.any fun word =>
        startsWith word rest && !(rest.drop word.length).head?.any isWordChar) ||
      ["if".toList, "in".toList, "is".toList].any fun word => startsWith word rest

/-- A number literal in front of a text: its value, its characters, and the rest. -/
structure Scanned where
  value : Constant
  lexeme : List Char
  rest : List Char

def finish (value : Constant) (lexeme rest : List Char) : Option Scanned :=
  if mayEnd rest then some ⟨value, lexeme, rest⟩ else none

/-- What follows `0x` and the like. -/
def scanBase (base : Nat) (isDigit : Char → Bool) (lead rest : List Char) : Option Scanned :=
  let (digits, after) := spanGroups isDigit rest
  if digits.isEmpty then none
  else finish (.scalar (.int (baseValue base digits))) (lead ++ digits) after

/-- A point, and the digits after it. -/
def spanPoint : List Char → List Char × List Char
  | '.' :: rest =>
    match rest with
    | d :: _ =>
      if Decimal.isDigit d then
        let (digits, after) := spanGroups Decimal.isDigit rest
        ('.' :: digits, after)
      else (['.'], rest)
    | [] => (['.'], [])
  | rest => ([], rest)

/-- An exponent; a sign needs a digit after it, while a bare `e` is left to what follows. -/
def spanPower (text : List Char) : Option (List Char × List Char) :=
  match text with
  | [] => some ([], [])
  | e :: rest =>
    if e == 'e' || e == 'E' then
      let (sign, body) := match rest with
        | '+' :: r => (['+'], r)
        | '-' :: r => (['-'], r)
        | r => ([], r)
      if body.head?.any Decimal.isDigit then
        let (digits, after) := spanGroups Decimal.isDigit body
        some (e :: sign ++ digits, after)
      else if sign.isEmpty then some ([], text)
      else none
    else some ([], text)

def floatValue (lexeme : List Char) : Float :=
  (Decimal.unsignedFloat? (withoutUnderscores lexeme)).getD 0.0

/-- A decimal whole number begins with zero only if it is zero. -/
def hasLeadingZero (whole : List Char) : Bool :=
  whole.head? == some '0' && whole.any fun c => c != '0' && c != '_'

def wholeValue (whole rest : List Char) : Option Constant :=
  let digits := withoutUnderscores whole
  if hasLeadingZero whole then
    if rest.head? == some 'e' then some (.scalar (.float (floatValue whole))) else none
  else if whole.head? != some '0' && Decimal.digitLimit < digits.length then none
  else some (.scalar (.int (Decimal.digitsValue digits)))

/-- A decimal number, whole or not, real or imaginary. -/
def scanDecimal (text : List Char) : Option Scanned := do
  let (whole, rest) := spanGroups Decimal.isDigit text
  let (fraction, rest) := spanPoint rest
  let (power, rest) ← spanPower rest
  let lexeme := whole ++ fraction ++ power
  match rest with
  | 'j' :: after => finish (.other "complex") (lexeme ++ ['j']) after
  | 'J' :: after => finish (.other "complex") (lexeme ++ ['J']) after
  | _ =>
    if fraction.isEmpty && power.isEmpty then
      finish (← wholeValue whole rest) lexeme rest
    else finish (.scalar (.float (floatValue lexeme))) lexeme rest

/-- Scans a number from a text that begins with a digit, or with a point and a digit. A decimal whole
number has no more digits than the digit limit. -/
def scan (text : List Char) : Option Scanned :=
  match text with
  | '0' :: b :: rest =>
    if b == 'x' || b == 'X' then
      scanBase 16 (fun c => (Text.CodeTable.hexDigit? c).isSome) ['0', b] rest
    else if b == 'o' || b == 'O' then scanBase 8 (fun c => '0' ≤ c && c ≤ '7') ['0', b] rest
    else if b == 'b' || b == 'B' then scanBase 2 (fun c => c == '0' || c == '1') ['0', b] rest
    else scanDecimal text
  | _ => scanDecimal text

end Number

end ExprMarkup.Source
