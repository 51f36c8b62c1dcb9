import ExprMarkup.Decimal.Reading
import ExprMarkup.Decimal.Writing
import ExprMarkup.Table
import ExprMarkup.Text.CodeTable
import ExprMarkup.Value

namespace ExprMarkup.Json

inductive Trouble
  | malformed
  /-- An integer with more digits than an integer may have. -/
  | digitLimit
  deriving DecidableEq

def isBlank (c : Char) : Bool := c == ' ' || c == '\t' || c == '\n' || c == '\r'

def skipBlanks (text : List Char) : List Char := text.dropWhile isBlank

/-- Four hexadecimal digits. -/
def codeUnit? (a b c d : Char) : Option Nat := do
  let a ← Text.CodeTable.hexDigit? a
  let b ← Text.CodeTable.hexDigit? b
  let c ← Text.CodeTable.hexDigit? c
  let d ← Text.CodeTable.hexDigit? d
  return ((a * 16 + b) * 16 + c) * 16 + d

def plainEscape? : Char → Option Char
  | '"' => some '"'
  | '\\' => some '\\'
  | '/' => some '/'
  | 'b' => some '\x08'
  | 'f' => some '\x0c'
  | 'n' => some '\n'
  | 'r' => some '\r'
  | 't' => some '\t'
  | _ => none

/-- Reads what follows an opening quote, up to the closing one. Escapes of four digits give units of
sixteen bits; other characters give their code points. Control characters have to be escaped. -/
def readUnits : List Char → Option (List Nat × List Char)
  | [] => none
  | '"' :: rest => some ([], rest)
  | '\\' :: 'u' :: a :: b :: c :: d :: rest => do
    let unit ← codeUnit? a b c d
    let (units, rest) ← readUnits rest
    return (unit :: units, rest)
  | '\\' :: c :: rest => do
    let e ← plainEscape? c
    let (units, rest) ← readUnits rest
    return (e.toNat :: units, rest)
  | c :: rest =>
    if c == '\\' || c.toNat < 0x20 then none
    else do
      let (units, rest) ← readUnits rest
      return (c.toNat :: units, rest)

def isHighSurrogate (n : Nat) : Bool := 0xD800 ≤ n && n < 0xDC00

def isLowSurrogate (n : Nat) : Bool := 0xDC00 ≤ n && n < 0xE000

/-- A unit on its own as a character. A surrogate without its partner is no character, and the
replacement character stands in for it. -/
def unitChar (n : Nat) : Char :=
  if isHighSurrogate n || isLowSurrogate n then '\ufffd' else Char.ofNat n

/-- Units as characters; two surrogates that belong together are one character. -/
def joinUnits : List Nat → List Char
  | [] => []
  | [n] => [unitChar n]
  | a :: b :: rest =>
    if isHighSurrogate a && isLowSurrogate b then
      Char.ofNat (0x10000 + (a - 0xD800) * 0x400 + (b - 0xDC00)) :: joinUnits rest
    else unitChar a :: joinUnits (b :: rest)

def readText (text : List Char) : Except Trouble (String × List Char) :=
  match readUnits text with
  | some (units, rest) => .ok (String.ofList (joinUnits units), rest)
  | none => .error .malformed

/-- The whole part of a number: zero, or digits that do not begin with zero. -/
def spanWhole (text : List Char) : List Char × List Char :=
  match text with
  | '0' :: rest => (['0'], rest)
  | _ => Decimal.spanDigits text

/-- A point and digits, if both are there. -/
def spanFraction (text : List Char) : List Char × List Char :=
  match text with
  | '.' :: rest =>
    let (digits, after) := Decimal.spanDigits rest
    if digits.isEmpty then ([], text) else (digits, after)
  | _ => ([], text)

def wholeNumber (negative : Bool) (digits : List Char) : Except Trouble Value :=
  if Decimal.digitLimit < digits.length then .error .digitLimit
  else
    let n := Decimal.digitsValue digits
    .ok (.int (if negative then -(n : Int) else n))

def readUnsigned (negative : Bool) (text : List Char) : Except Trouble (Value × List Char) :=
  let (whole, rest) := spanWhole text
  if whole.isEmpty then .error .malformed
  else
    let (fraction, rest) := spanFraction rest
    let signed (x : Float) : Value := .float (if negative then -x else x)
    match Decimal.spanExponent? rest with
    | some (e, after) => .ok (signed (Decimal.Parts.value ⟨whole, fraction, e⟩), after)
    | none =>
      if fraction.isEmpty then do return (← wholeNumber negative whole, rest)
      else .ok (signed (Decimal.Parts.value ⟨whole, fraction, 0⟩), rest)

/-- The names of values. -/
def names : List (List Char × Value) :=
  [("null".toList, .absent), ("true".toList, .bool true), ("false".toList, .bool false),
   ("NaN".toList, .float (0.0 / 0.0)), ("Infinity".toList, .float (1.0 / 0.0)),
   ("-Infinity".toList, .float (-1.0 / 0.0))]

/-- A name or a number. -/
def readPlain (text : List Char) : Except Trouble (Value × List Char) :=
  match names.findSome? fun e => (e.1.isPrefixOf? text).map fun rest => (e.2, rest) with
  | some found => .ok found
  | none => match text with
    | '-' :: rest => readUnsigned true rest
    | _ => readUnsigned false text

mutual

def readValue : Nat → List Char → Except Trouble (Value × List Char)
  | 0, _ => .error .malformed
  | fuel + 1, text =>
    match text with
    | '"' :: rest => do
      let (s, rest) ← readText rest
      return (.text s, rest)
    | '[' :: rest =>
      match skipBlanks rest with
      | ']' :: rest => .ok (.list [], rest)
      | rest => do
        let (items, rest) ← readItems fuel rest
        return (.list items, rest)
    | '{' :: rest =>
      match skipBlanks rest with
      | '}' :: rest => .ok (.dict [], rest)
      | rest => do
        let (entries, rest) ← readMembers fuel [] rest
        return (.dict entries, rest)
    | _ => readPlain text

/-- Reads items up to the closing bracket. -/
def readItems : Nat → List Char → Except Trouble (List Value × List Char)
  | 0, _ => .error .malformed
  | fuel + 1, text => do
    let (v, rest) ← readValue fuel text
    match skipBlanks rest with
    | ']' :: rest => return ([v], rest)
    | ',' :: rest =>
      let (items, rest) ← readItems fuel (skipBlanks rest)
      return (v :: items, rest)
    | _ => throw .malformed

/-- Reads members up to the closing brace, and adds them to those already read. -/
def readMembers : Nat → List (String × Value) → List Char →
    Except Trouble (List (String × Value) × List Char)
  | 0, _, _ => .error .malformed
  | fuel + 1, entries, text =>
    match text with
    | '"' :: rest => do
      let (key, rest) ← readText rest
      match skipBlanks rest with
      | ':' :: rest =>
        let (v, rest) ← readValue fuel (skipBlanks rest)
        let entries := Table.putEntry key v entries
        match skipBlanks rest with
        | '}' :: rest => return (entries, rest)
        | ',' :: rest => readMembers fuel entries (skipBlanks rest)
        | _ => throw .malformed
      | _ => throw .malformed
    | _ => .error .malformed

end

/-- Reads a whole text: one value, and blanks around it. Of members with the same key the last one counts,
and infinite numbers and NaN have names. -/
def read (text : String) : Except Trouble Value := do
  let chars := text.toList
  let (v, rest) ← readValue (chars.length + 1) (skipBlanks chars)
  if (skipBlanks rest).isEmpty then return v else throw .malformed

end ExprMarkup.Json
