import ExprMarkup.Text.Printable

namespace ExprMarkup.Text

def hexDigit (n : Nat) : Char :=
  if n < 10 then Char.ofNat (48 + n) else Char.ofNat (87 + n)

/-- The last `width` hexadecimal digits of a number. -/
def hexDigits : Nat → Nat → List Char
  | 0, _ => []
  | width + 1, n => hexDigits width (n / 16) ++ [hexDigit (n % 16)]

def quoteFor (text : List Char) : Char :=
  if text.contains '\'' && !text.contains '"' then '"' else '\''

/-- An escape of two, four or eight digits, the shortest that holds the code point. -/
def numericEscape (n : Nat) : List Char :=
  if n < 0x100 then '\\' :: 'x' :: hexDigits 2 n
  else if n < 0x10000 then '\\' :: 'u' :: hexDigits 4 n
  else '\\' :: 'U' :: hexDigits 8 n

def quoteChar (quote c : Char) : List Char :=
  if c == quote || c == '\\' then ['\\', c]
  else if c == '\n' then ['\\', 'n']
  else if c == '\r' then ['\\', 'r']
  else if c == '\t' then ['\\', 't']
  else if isPrintable c then [c]
  else numericEscape c.toNat

def quotedChars (text : List Char) : List Char :=
  let quote := quoteFor text
  quote :: text.flatMap (quoteChar quote) ++ [quote]

/-- Text as messages show it: in apostrophes, or in double quotes if it has apostrophes and no double
quote. -/
def quoted (text : String) : String := String.ofList (quotedChars text.toList)

/-- Bytes are shown as quoted text after a `b`; those outside printable ASCII are escaped. -/
def quotedBytes (data : List UInt8) : String :=
  let chars := data.map fun b => Char.ofNat b.toNat
  let quote := quoteFor chars
  let write (c : Char) : List Char :=
    if 128 ≤ c.toNat then numericEscape c.toNat else quoteChar quote c
  String.ofList ('b' :: quote :: chars.flatMap write ++ [quote])

end ExprMarkup.Text
