namespace ExprMarkup.Text

/-- The code points from `first` to `last`, with the image of the first of them. -/
structure CodeRow where
  first : Nat
  last : Nat
  image : List Nat
  deriving Inhabited

/-- A range with an image of one code point maps its members in step. -/
def CodeRow.imageOf (row : CodeRow) (c : Nat) : List Nat :=
  match row.image with
  | [a] => [a + (c - row.first)]
  | image => image

/-- Code points with a property, in ascending order. A row of such a table is a code point or a range in
hexadecimal, with an image where the property has one: `41-5A`, `C0=41+300`, `1D400-1D419=41`. -/
abbrev CodeTable := Array CodeRow

namespace CodeTable

def hexDigit? (c : Char) : Option Nat :=
  if '0' ≤ c && c ≤ '9' then some (c.toNat - '0'.toNat)
  else if 'a' ≤ c && c ≤ 'f' then some (c.toNat - 'a'.toNat + 10)
  else if 'A' ≤ c && c ≤ 'F' then some (c.toNat - 'A'.toNat + 10)
  else none

def hexValue (digits : List Char) : Nat :=
  digits.foldl (fun n c => 16 * n + (hexDigit? c).getD 0) 0

/-- The pieces of a text between the characters that `p` accepts; empty pieces are kept. -/
def pieces (p : Char → Bool) : List Char → List (List Char)
  | [] => [[]]
  | c :: rest =>
    if p c then [] :: pieces p rest
    else match pieces p rest with
      | [] => [[c]]
      | piece :: more => (c :: piece) :: more

def words (text : String) : List (List Char) :=
  (pieces (fun c => c == ' ' || c == '\n') text.toList).filter fun w => !w.isEmpty

def readRow (word : List Char) : CodeRow :=
  let (range, image) := match pieces (· == '=') word with
    | [range, image] => (range, (pieces (· == '+') image).map hexValue)
    | _ => (word, [])
  match pieces (· == '-') range with
  | [a, b] => ⟨hexValue a, hexValue b, image⟩
  | _ => ⟨hexValue range, hexValue range, image⟩

def ofText (text : String) : CodeTable := ((words text).map readRow).toArray

/-- Two code points as one key: no code point reaches 2 ^ 21. -/
def pairKey (a b : Nat) : Nat := a * 0x200000 + b

/-- Reads rows of the form `41+300=C0`, keyed by both parts. -/
def ofPairs (text : String) : CodeTable :=
  ((words text).map fun word =>
    match pieces (fun c => c == '+' || c == '=') word with
    | [a, b, c] => ⟨pairKey (hexValue a) (hexValue b), pairKey (hexValue a) (hexValue b), [hexValue c]⟩
    | _ => ⟨0, 0, []⟩).toArray

/-- Binary search between the positions `lo` and `hi`. -/
def search (table : CodeTable) (c lo hi : Nat) : Option CodeRow :=
  if _ : lo < hi then
    let mid := lo + (hi - lo) / 2
    match table[mid]? with
    | none => none
    | some row =>
      if c < row.first then search table c lo mid
      else if row.last < c then search table c (mid + 1) hi
      else some row
  else none
termination_by hi - lo

def find? (table : CodeTable) (c : Nat) : Option CodeRow := search table c 0 table.size

def contains (table : CodeTable) (c : Nat) : Bool := (table.find? c).isSome

end CodeTable

end ExprMarkup.Text
