import ExprMarkup.Source.Expr

namespace ExprMarkup.Grammar

open Source

inductive Sign
  | plus | minus | star | slash | doubleSlash | percent | at | tilde | doubleStar
  | equal | notEqual | less | lessEqual | greater | greaterEqual
  deriving DecidableEq

/-- What a pair of delimiters encloses. -/
inductive Delimiter
  | group | exponent | index | arguments
  deriving DecidableEq

inductive Token
  | name (id : String)
  | literal (value : Literal)
  | sign (s : Sign)
  | opening (d : Delimiter)
  | closing (d : Delimiter)
  /-- Before each argument of a call, with the keyword if it has one. -/
  | argument (keyword : Option String)
  deriving DecidableEq

/-- Levels of the grammar, from the loosest to the tightest. -/
inductive Level
  | comparison | sum | term | factor | power | item | atom
  deriving DecidableEq

def Level.tighter : Level → Level
  | .comparison => .sum
  | .sum => .term
  | .term => .factor
  | .factor => .power
  | .power => .item
  | .item | .atom => .atom

def Level.rank : Level → Nat
  | .comparison => 0
  | .sum => 1
  | .term => 2
  | .factor => 3
  | .power => 4
  | .item => 5
  | .atom => 6

theorem Level.rank_le (k : Level) : k.rank ≤ 6 := by cases k <;> decide

theorem Level.rank_tighter {k : Level} (h : k ≠ .atom) : k.tighter.rank = k.rank + 1 := by
  cases k <;> simp_all [Level.rank, Level.tighter]

/-- The operator that a sign between two operands of a sum or of a term stands for. -/
def Sign.binary? : Level → Sign → Option BinaryOp
  | .sum, .plus => some .add
  | .sum, .minus => some .sub
  | .term, .star => some .mul
  | .term, .slash => some .truediv
  | .term, .doubleSlash => some .floordiv
  | .term, .percent => some .mod
  | .term, .at => some .matmul
  | _, _ => none

def Sign.unary? : Sign → Option UnaryOp
  | .plus => some .pos
  | .minus => some .neg
  | .tilde => some .invert
  | _ => none

def Sign.compare? : Sign → Option CompareOp
  | .equal => some .eq
  | .notEqual => some .ne
  | .less => some .lt
  | .lessEqual => some .le
  | .greater => some .gt
  | .greaterEqual => some .ge
  | _ => none

/-- The operator that a text begins with, and what follows it. -/
def leading? {α : Type} (operator? : Sign → Option α) : List Token → Option (α × List Token)
  | .sign s :: rest => (operator? s).map fun op => (op, rest)
  | _ => none

/-- The sign before an operand, at the level where one may stand. -/
def Level.before? : Level → List Token → Option (UnaryOp × List Token)
  | .factor, text => leading? Sign.unary? text
  | _, _ => none

def constant (s : Scalar) : Expr Unit := .constant (.scalar s) ()

def literal : Literal → Expr Unit
  | .scalar s => constant s
  | .sequence items => .sequence true (items.map constant) ()

mutual

/-- Reads an expression of a level, and no more than belongs to it. -/
def readAt (k : Level) (text : List Token) : Option (Expr Unit × List Token) :=
  if _ : k = .atom then readAtom text
  else match k.before? text with
    | some (op, rest) =>
      if _ : rest.length < text.length then do
        let (operand, rest) ← readAt k rest
        return (.unary op operand (), rest)
      else none
    | none => do
      let (e, rest) ← readAt k.tighter text
      if _ : rest.length ≤ text.length then readMore k e rest else none
termination_by (text.length, 7 - k.rank)
decreasing_by
  · have hrank := k.rank_le
    exact .right _ (by omega)
  · exact .left _ _ ‹_›
  · have hrank := k.rank_le
    have htighter := Level.rank_tighter ‹k ≠ .atom›
    exact .right _ (by omega)
  · have hrank := k.rank_le
    rcases Nat.lt_or_eq_of_le ‹rest.length ≤ text.length› with hlt | heq
    · exact .left _ _ hlt
    · rw [heq]
      exact .right _ (by omega)

/-- Goes on after a first operand. -/
def readMore (k : Level) (e : Expr Unit) (text : List Token) : Option (Expr Unit × List Token) :=
  match k with
  | .comparison =>
    match leading? Sign.compare? text with
    | some (op, rest) =>
      if _ : rest.length < text.length then do
        let (right, rest) ← readAt .sum rest
        return (.compare e [(op, right)] (), rest)
      else none
    | none => some (e, text)
  | .power =>
    match text with
    | .sign .doubleStar :: .opening .exponent :: rest => do
      let (exponent, rest) ← readEnclosed .exponent rest
      return (.binary .pow e exponent (), rest)
    | text => some (e, text)
  | .item =>
    match text with
    | .opening .index :: rest => do
      let (index, after) ← readEnclosed .index rest
      if _ : after.length ≤ rest.length then readMore .item (.subscript e index ()) after else none
    | text => some (e, text)
  | k =>
    match leading? (Sign.binary? k) text with
    | some (op, rest) =>
      if _ : rest.length < text.length then do
        let (right, after) ← readAt k.tighter rest
        if _ : after.length ≤ rest.length then readMore k (.binary op e right ()) after else none
      else none
    | none => some (e, text)
termination_by (text.length, 0)

def readEnclosed (d : Delimiter) (text : List Token) : Option (Expr Unit × List Token) := do
  let (e, rest) ← readAt .comparison text
  match rest with
  | .closing d' :: rest => if d' = d then some (e, rest) else none
  | _ => none
termination_by (text.length, 8)

def readAtom (text : List Token) : Option (Expr Unit × List Token) :=
  match text with
  | .literal value :: rest => some (literal value, rest)
  | .opening .group :: rest => readEnclosed .group rest
  | .name id :: .opening .arguments :: rest => do
    let ((args, keywords), rest) ← readArguments rest
    return (.call (.name (.text id) ()) args keywords (), rest)
  | .name id :: rest => some (.name (.text id) (), rest)
  | _ => none
termination_by (text.length, 0)

def readArguments (text : List Token) :
    Option ((List (Expr Unit) × List (Option Value × Expr Unit)) × List Token) :=
  match text with
  | .closing .arguments :: rest => some (([], []), rest)
  | .argument none :: rest => do
    let (e, after) ← readAt .comparison rest
    if _ : after.length ≤ rest.length then
      let ((args, keywords), after) ← readArguments after
      return ((e :: args, keywords), after)
    else none
  | .argument (some key) :: rest => do
    let (e, after) ← readAt .comparison rest
    if _ : after.length ≤ rest.length then
      let ((args, keywords), after) ← readArguments after
      return ((args, (some (.text key), e) :: keywords), after)
    else none
  | _ => none
termination_by (text.length, 0)

end

/-- Reads a whole list of tokens as one expression. -/
def read (text : List Token) : Option (Expr Unit) :=
  match readAt .comparison text with
  | some (e, []) => some e
  | _ => none

end ExprMarkup.Grammar
