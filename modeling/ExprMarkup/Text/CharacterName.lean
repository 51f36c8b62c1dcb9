import ExprMarkup.Text.CharacterName.AfricanAmerican
import ExprMarkup.Text.CharacterName.Alias
import ExprMarkup.Text.CharacterName.Ancient
import ExprMarkup.Text.CharacterName.EastAsian
import ExprMarkup.Text.CharacterName.European
import ExprMarkup.Text.CharacterName.MiddleEastern
import ExprMarkup.Text.CharacterName.Notations
import ExprMarkup.Text.CharacterName.Pictographs
import ExprMarkup.Text.CharacterName.SouthAsian
import ExprMarkup.Text.CharacterName.SoutheastAsian
import ExprMarkup.Text.CharacterName.Symbols
import ExprMarkup.Text.CodeTable

namespace ExprMarkup.Text.CharacterName

/-- How far a table is read: the code point of the next name, and the words of the last one. -/
structure Mark where
  next : Nat
  words : List (List Char)

/-- Reads a row. A row `=41` says that the next name is that of the code point 41 in hexadecimal; without
one it is that of the code point after the last. Any other row is a name, which begins with the number of
leading words that it has in common with the name before it. -/
def Mark.read (m : Mark) : List Char → Mark × Option Nat
  | [] => (m, none)
  | '=' :: digits => (⟨CodeTable.hexValue digits, m.words⟩, none)
  | shared :: own =>
    let words := m.words.take (CodeTable.hexValue [shared]) ++ CodeTable.pieces (· == ' ') own
    (⟨m.next + 1, words⟩, some m.next)

/-- Goes through a table until a row has the wanted words. `row` holds the characters of the row in
hand, the last one first. -/
def search (wanted : List (List Char)) (m : Mark) (row : List Char) : List Char → Option Nat
  | [] => none
  | ',' :: rest =>
    match m.read row.reverse with
    | (after, some code) =>
      if after.words = wanted then some code else search wanted after [] rest
    | (after, none) => search wanted after [] rest
  | '\n' :: rest => search wanted m row rest
  | c :: rest => search wanted m (c :: row) rest

def tables : List String :=
  [european, symbols, aliases, pictographs, eastAsian, middleEastern, southAsian, southeastAsian,
   africanAmerican, notations, ancient]

/-- A character whose name is listed. -/
def listed? (name : List Char) : Option Char :=
  let words := CodeTable.pieces (· == ' ') name
  (tables.findSome? fun table => search words ⟨0, []⟩ [] table.toList).map Char.ofNat

def leadNames : Array String :=
  #["G", "GG", "N", "D", "DD", "R", "M", "B", "BB", "S", "SS", "", "J", "JJ", "C", "K", "T", "P", "H"]

def vowelNames : Array String :=
  #["A", "AE", "YA", "YAE", "EO", "E", "YEO", "YE", "O", "WA", "WAE", "OE", "YO", "U", "WEO", "WE",
    "WI", "YU", "EU", "YI", "I"]

def tailNames : Array String :=
  #["", "G", "GG", "GS", "N", "NJ", "NH", "D", "L", "LG", "LM", "LB", "LS", "LT", "LP", "LH", "M", "B",
    "BS", "S", "SS", "NG", "J", "C", "K", "T", "P", "H"]

/-- The syllables in the order of their code points: the lead varies slowest, the tail fastest. -/
def syllableName (index : Nat) : String :=
  leadNames.getD (index / 588) "" ++ vowelNames.getD (index / 28 % 21) "" ++
    tailNames.getD (index % 28) ""

/-- A Korean syllable is named by its lead, its vowel and its tail. -/
def syllableNamed? (name : List Char) : Option Char := do
  let parts ← "HANGUL SYLLABLE ".toList.isPrefixOf? name
  let index ← (List.range 11172).find? fun i => (syllableName i).toList == parts
  return Char.ofNat (0xAC00 + index)

/-- The code points of the unified ideographs. -/
def ideographs : CodeTable :=
  CodeTable.ofText "3400-4DBF 4E00-9FFF 20000-2A6DF 2A700-2B738 2B740-2B81D 2B820-2CEA1 2CEB0-2EBE0
    30000-3134A"

/-- A Chinese character is named by its code point: four or five digits, with capital letters. -/
def ideographNamed? (name : List Char) : Option Char := do
  let digits ← "CJK UNIFIED IDEOGRAPH-".toList.isPrefixOf? name
  let isCapital (c : Char) : Bool := (CodeTable.hexDigit? c).isSome && !c.isLower
  if (digits.length == 4 || digits.length == 5) && digits.all isCapital &&
      ideographs.contains (CodeTable.hexValue digits) then
    return Char.ofNat (CodeTable.hexValue digits)
  else none

/-- Families of characters whose names are the name of the family and the code point. -/
def families : List (String × CodeTable) :=
  [("CJK COMPATIBILITY IDEOGRAPH-", CodeTable.ofText "F900-FA6D FA70-FAD9 2F800-2FA1D"),
   ("KHITAN SMALL SCRIPT CHARACTER-", CodeTable.ofText "18B00-18CD5"),
   ("NUSHU CHARACTER-", CodeTable.ofText "1B170-1B2FB")]

/-- A member of a family; its code point has no zero in front. -/
def memberNamed? (name : List Char) : Option Char :=
  families.findSome? fun family => do
    let digits ← family.1.toList.isPrefixOf? name
    let isHex (c : Char) : Bool := (CodeTable.hexDigit? c).isSome
    if digits.length ≤ 5 && digits.head? != some '0' && digits.all isHex &&
        family.2.contains (CodeTable.hexValue digits) then
      return Char.ofNat (CodeTable.hexValue digits)
    else none

/-- The character of a name. The case of letters does not matter, except in the names of syllables
and unified ideographs. -/
def ofName? (name : List Char) : Option Char :=
  let capital := name.map Char.toUpper
  (syllableNamed? name).or ((ideographNamed? name).or ((memberNamed? capital).or (listed? capital)))

end ExprMarkup.Text.CharacterName
