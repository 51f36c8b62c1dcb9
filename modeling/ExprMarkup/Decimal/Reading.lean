namespace ExprMarkup.Decimal

def isDigit (c : Char) : Bool := '0' ≤ c && c ≤ '9'

/-- The longest run of digits at the front, and the rest. -/
def spanDigits (text : List Char) : List Char × List Char :=
  (text.takeWhile isDigit, text.dropWhile isDigit)

def digitsValue (digits : List Char) : Nat := Nat.ofDigitChars 10 digits 0

/-- The float nearest to `mantissa * 10 ^ exponent`. Far outside the range of floats the answer is
infinity or zero, and the power of ten is not computed. -/
def nearest (mantissa : Nat) (exponent : Int) : Float :=
  if mantissa = 0 then 0.0
  else
    let lead : Int := (Nat.toDigits 10 mantissa).length + exponent
    if 400 < lead then 1.0 / 0.0
    else if lead < -400 then 0.0
    else if exponent < 0 then Float.ofScientific mantissa true exponent.natAbs
    else Float.ofScientific mantissa false exponent.natAbs

/-- The parts of an unsigned decimal: whole digits, fraction digits, exponent. -/
structure Parts where
  whole : List Char
  fraction : List Char
  exponent : Int

def Parts.value (p : Parts) : Float :=
  nearest (digitsValue (p.whole ++ p.fraction)) (p.exponent - p.fraction.length)

/-- Reads `e`, an optional sign and at least one digit. -/
def spanExponent? : List Char → Option (Int × List Char)
  | [] => none
  | c :: rest =>
    if c == 'e' || c == 'E' then
      let (negative, rest) := match rest with
        | '-' :: r => (true, r)
        | '+' :: r => (false, r)
        | r => (false, r)
      let (digits, rest) := spanDigits rest
      if digits.isEmpty then none
      else some ((if negative then -(digitsValue digits : Int) else digitsValue digits), rest)
    else none

/-- The longest number such as `12`, `1.5`, `.5`, `1.` or `1e-7` at the front, and the rest. -/
def spanFloat? (text : List Char) : Option (Float × List Char) :=
  let (whole, rest) := spanDigits text
  let (fraction, rest) := match rest with
    | '.' :: r => spanDigits r
    | r => ([], r)
  if whole.isEmpty && fraction.isEmpty then none
  else match spanExponent? rest with
    | some (e, rest) => some (Parts.value ⟨whole, fraction, e⟩, rest)
    | none => some (Parts.value ⟨whole, fraction, 0⟩, rest)

/-- A whole text that is such a number. -/
def unsignedFloat? (text : List Char) : Option Float :=
  match spanFloat? text with
  | some (x, []) => some x
  | _ => none

end ExprMarkup.Decimal
