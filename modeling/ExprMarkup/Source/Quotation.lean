import ExprMarkup.Text.CharacterName

namespace ExprMarkup.Source

/-- What the letters in front of a quote say. -/
structure Manner where
  isBytes : Bool
  isRaw : Bool
  isFormatted : Bool
  deriving DecidableEq

namespace Quotation

def manner? (letters : List Char) : Option Manner :=
  match String.ofList (letters.map Char.toLower) with
  | "" => some ⟨false, false, false⟩
  | "u" => some ⟨false, false, false⟩
  | "r" => some ⟨false, true, false⟩
  | "b" => some ⟨true, false, false⟩
  | "br" => some ⟨true, true, false⟩
  | "rb" => some ⟨true, true, false⟩
  | "f" => some ⟨false, false, true⟩
  | "fr" => some ⟨false, true, true⟩
  | "rf" => some ⟨false, true, true⟩
  | _ => none

def isQuote (c : Char) : Bool := c == '\'' || c == '"'

/-- The manner and its letters, if a quoted literal begins here, and the text from the quote on. -/
def opening? (text : List Char) : Option (Manner × List Char × List Char) :=
  match text with
  | [] => none
  | a :: rest =>
    if isQuote a then (manner? []).map fun m => (m, [], text)
    else match rest with
      | [] => none
      | b :: rest' =>
        if isQuote b then (manner? [a]).map fun m => (m, [a], rest)
        else match rest' with
          | c :: _ => if isQuote c then (manner? [a, b]).map fun m => (m, [a, b], rest') else none
          | [] => none

/-- The body of a literal that ends with a single quote character, and the text behind it. An end of
line has to be escaped. -/
def spanShort (quote : Char) : List Char → Option (List Char × List Char)
  | [] => none
  | '\\' :: c :: rest => do
    let (body, after) ← spanShort quote rest
    return ('\\' :: c :: body, after)
  | c :: rest =>
    if c == quote then some ([], rest)
    else if c == '\n' || c == '\\' then none
    else do
      let (body, after) ← spanShort quote rest
      return (c :: body, after)

/-- The body of a literal that ends with three quote characters, and the text behind it. -/
def spanLong (quote : Char) : List Char → Option (List Char × List Char)
  | [] => none
  | '\\' :: c :: rest => do
    let (body, after) ← spanLong quote rest
    return ('\\' :: c :: body, after)
  | c :: rest =>
    if c == quote && rest.take 2 == [quote, quote] then some ([], rest.drop 2)
    else do
      let (body, after) ← spanLong quote rest
      return (c :: body, after)

/-- A literal from its quote on: the body, all characters of the literal, and the rest. -/
def spanQuoted (text : List Char) : Option (List Char × List Char × List Char) :=
  match text with
  | [] => none
  | q :: rest =>
    if rest.take 2 == [q, q] then do
      let (body, after) ← spanLong q (rest.drop 2)
      return (body, [q, q, q] ++ body ++ [q, q, q], after)
    else do
      let (body, after) ← spanShort q rest
      return (body, q :: body ++ [q], after)

/-- The character of a code point. A surrogate is no character, and the replacement character stands
in for it; beyond the last code point there is nothing. -/
def charOf? (n : Nat) : Option Char :=
  if 0x10FFFF < n then none
  else if 0xD800 ≤ n && n < 0xE000 then some '\ufffd'
  else some (Char.ofNat n)

def hexValue? (digits : List Char) (width : Nat) : Option Nat :=
  if digits.length = width && digits.all fun c => (Text.CodeTable.hexDigit? c).isSome then
    some (Text.CodeTable.hexValue digits)
  else none

def isOctal (c : Char) : Bool := '0' ≤ c && c ≤ '7'

def octalValue (digits : List Char) : Nat := digits.foldl (fun n c => 8 * n + (c.toNat - 48)) 0

def plainEscape? : Char → Option Char
  | '\\' => some '\\'
  | '\'' => some '\''
  | '"' => some '"'
  | 'a' => some '\x07'
  | 'b' => some '\x08'
  | 'f' => some '\x0c'
  | 'n' => some '\n'
  | 'r' => some '\r'
  | 't' => some '\t'
  | 'v' => some '\x0b'
  | _ => none

/-- The characters of an escape, and the text behind it; `text` is what follows the backslash. An escape
that means nothing stands for itself, backslash and all. -/
def readEscape (text : List Char) : Option (List Char × List Char) :=
  match text with
  | [] => some (['\\'], [])
  | c :: rest =>
    let numeric (width : Nat) : Option (List Char × List Char) := do
      let n ← hexValue? (rest.take width) width
      let d ← charOf? n
      return ([d], rest.drop width)
    if c == '\n' then some ([], rest)
    else if isOctal c then
      let digits := (text.take 3).takeWhile isOctal
      some ([Char.ofNat (octalValue digits)], text.drop digits.length)
    else if c == 'x' then numeric 2
    else if c == 'u' then numeric 4
    else if c == 'U' then numeric 8
    else if c == 'N' then
      match rest with
      | '{' :: named => do
        let name := named.takeWhile (· != '}')
        if name.length = named.length then none
        else
          let d ← Text.CharacterName.ofName? name
          return ([d], named.drop (name.length + 1))
      | _ => none
    else match plainEscape? c with
      | some d => some ([d], rest)
      | none => some (['\\', c], rest)

/-- A body with its escapes read. The fuel bounds the number of characters. -/
def decode : Nat → List Char → Option (List Char)
  | 0, _ => some []
  | fuel + 1, text =>
    match text with
    | [] => some []
    | '\\' :: rest => do
      let (chars, after) ← readEscape rest
      return chars ++ (← decode fuel after)
    | c :: rest => do return c :: (← decode fuel rest)

/-- The text of a body. -/
def bodyText (isRaw : Bool) (body : List Char) : Option (List Char) :=
  if isRaw then some body else decode body.length body

/-- Bytes are written in ASCII, and a hexadecimal escape in them has two digits. -/
def isBytesBody (isRaw : Bool) (body : List Char) : Bool :=
  body.all (fun c => c.toNat < 128) && (isRaw || check body.length body)
where
  check : Nat → List Char → Bool
    | 0, _ => true
    | fuel + 1, text =>
      match text with
      | '\\' :: 'x' :: rest => (hexValue? (rest.take 2) 2).isSome && check fuel (rest.drop 2)
      | '\\' :: _ :: rest => check fuel rest
      | _ :: rest => check fuel rest
      | [] => true

end Quotation

end ExprMarkup.Source
