import ExprMarkup.Text.Identifier

namespace ExprMarkup.Typeset

inductive Mark
  | plus | minus | times | over | modulo
  | equal | notEqual | less | lessEqual | greater | greaterEqual
  | positive | negative
  | raise | lower | close
  | floor | under | endFloor
  | openGroup | closeGroup
  | matmul | invert | comma | closeCall
  deriving DecidableEq

def Mark.text : Mark → String
  | .plus => " + "
  | .minus => " - "
  | .times => r" \cdot "
  | .over => " / "
  | .modulo => r" \bmod "
  | .equal => " = "
  | .notEqual => r" \neq "
  | .less => " < "
  | .lessEqual => r" \leq "
  | .greater => " > "
  | .greaterEqual => r" \geq "
  | .positive => "+"
  | .negative => "-"
  | .raise => r"^{"
  | .lower => r"_{"
  | .close => r"}"
  | .floor => r"\left\lfloor \frac{"
  | .under => r"}{"
  | .endFloor => r" \right\rfloor"
  | .openGroup => r"\left( "
  | .closeGroup => r" \right)"
  | .matmul => r"\mathrm{matmul}("
  | .invert => r"\mathrm{invert}("
  | .comma => ", "
  | .closeCall => ")"

/-- All marks. A brace closed and opened again stands before a closed brace, which it begins with. -/
def marks : List Mark :=
  [.plus, .minus, .times, .over, .modulo, .equal, .notEqual, .less, .lessEqual, .greater,
   .greaterEqual, .positive, .negative, .raise, .lower, .under, .close, .floor, .endFloor, .openGroup,
   .closeGroup, .matmul, .invert, .comma, .closeCall]

inductive Lexeme
  | name (id : String)
  | mark (m : Mark)
  deriving DecidableEq

def Lexeme.chars : Lexeme → List Char
  | .name id => id.toList
  | .mark m => m.text.toList

def write (ls : List Lexeme) : List Char := ls.flatMap Lexeme.chars

@[simp] theorem write_nil : write [] = [] := rfl

@[simp] theorem write_cons (l : Lexeme) (ls : List Lexeme) : write (l :: ls) = l.chars ++ write ls := rfl

@[simp] theorem write_append (ls ls' : List Lexeme) : write (ls ++ ls') = write ls ++ write ls' :=
  List.flatMap_append

def mark? (text : List Char) : Option Mark := marks.find? fun m => m.text.toList.isPrefixOf text

/-- The name that a text begins with. An underscore before a brace is the mark of an index. -/
def nameOf (text : List Char) : List Char :=
  if (text.dropWhile Text.isNameChar).head? = some '{' then (text.takeWhile Text.isNameChar).dropLast
  else text.takeWhile Text.isNameChar

def nextLexeme (text : List Char) : Lexeme × List Char :=
  match mark? text with
  | some m => (.mark m, text.drop m.text.toList.length)
  | none => (.name (String.ofList (nameOf text)), text.drop (nameOf text).length)

/-- What may follow a name: nothing, the mark of an index, or a character that is of no name and opens
no brace. -/
def EndsName (rest : List Char) : Prop :=
  (∀ c ∈ rest.head?, Text.isNameChar c = false ∧ c ≠ '{') ∨ ∃ more, rest = '_' :: '{' :: more

def StartsWithMark (ls : List Lexeme) : Prop := ∀ id, ls.head? ≠ some (.name id)

/-- Names are identifiers, and no name follows another directly. -/
def Proper : List Lexeme → Prop
  | [] => True
  | .name id :: rest => Text.isIdentifier id = true ∧ StartsWithMark rest ∧ Proper rest
  | .mark _ :: rest => Proper rest

theorem Proper.tail {l : Lexeme} {ls : List Lexeme} (h : Proper (l :: ls)) : Proper ls := by
  cases l with
  | name id => exact h.2.2
  | mark m => exact h

theorem endsName_write {ls : List Lexeme} (h : StartsWithMark ls) : EndsName (write ls) := by
  cases ls with
  | nil => exact .inl (by simp)
  | cons l rest =>
    cases l with
    | name id => exact absurd rfl (h id)
    | mark m =>
      cases m with
      | lower => exact .inr ⟨write rest, rfl⟩
      | _ => exact .inl (by simp [Lexeme.chars, Mark.text]; decide)

/-- No lexeme begins with an opening brace. -/
theorem head_write_ne_brace {ls : List Lexeme} (h : Proper ls) :
    (write ls).head? ≠ some '{' := by
  cases ls with
  | nil => simp
  | cons l rest =>
    cases l with
    | name id =>
      obtain ⟨hne, hall⟩ := Text.isNameChar_of_isIdentifier h.1
      cases hchars : id.toList with
      | nil => exact absurd hchars hne
      | cons c cs =>
        have hc : Text.isNameChar c = true := hall c (by simp [hchars])
        have hbrace : c ≠ '{' := by
          rintro rfl
          exact absurd hc (by decide)
        simpa [Lexeme.chars, hchars] using hbrace
    | mark m => cases m <;> simp [Lexeme.chars, Mark.text]

theorem mark?_mark (m : Mark) {rest : List Char} (h : rest.head? ≠ some '{') :
    mark? (m.text.toList ++ rest) = some m := by
  cases m with
  | close =>
    cases rest with
    | nil => rfl
    | cons c cs =>
      have hc : ('{' == c) = false := beq_eq_false_iff_ne.mpr fun heq => h (by simp [← heq])
      simp [mark?, marks, Mark.text, List.isPrefixOf, hc]
  | _ => rfl

/-- But for the mark of an index, no mark begins with a character of names. -/
theorem head_mark {m : Mark} (hm : m ≠ .lower) :
    ∃ d ds, m.text.toList = d :: ds ∧ Text.isNameChar d = false := by
  cases m <;> first | exact absurd rfl hm | exact ⟨_, _, rfl, by decide⟩

theorem mark?_name {id : String} {rest : List Char} (hid : Text.isIdentifier id = true)
    (hrest : rest.head? ≠ some '{') : mark? (id.toList ++ rest) = none := by
  obtain ⟨hne, hall⟩ := Text.isNameChar_of_isIdentifier hid
  rw [mark?, List.find?_eq_none]
  intro m _
  cases hchars : id.toList with
  | nil => exact absurd hchars hne
  | cons c cs =>
    have hc : Text.isNameChar c = true := hall c (by simp [hchars])
    by_cases hm : m = .lower
    · subst hm
      have hnext : (cs ++ rest).head? ≠ some '{' := by
        cases cs with
        | nil => exact hrest
        | cons d ds =>
          have hd : Text.isNameChar d = true := hall d (by simp [hchars])
          have hbrace : d ≠ '{' := by
            rintro rfl
            exact absurd hd (by decide)
          simpa using hbrace
      cases hmore : cs ++ rest with
      | nil => simp [hmore, Mark.text, List.isPrefixOf]
      | cons d ds =>
        have hd : ('{' == d) = false :=
          beq_eq_false_iff_ne.mpr fun heq => hnext (by simp [hmore, ← heq])
        simp [hmore, Mark.text, List.isPrefixOf, hd]
    · obtain ⟨d, ds, hd, hdc⟩ := head_mark hm
      have hdne : d ≠ c := by
        rintro rfl
        simp [hc] at hdc
      simp [hd, List.isPrefixOf, hdne]

theorem nameOf_append {id rest : List Char} (hid : ∀ c ∈ id, Text.isNameChar c = true)
    (hrest : EndsName rest) : nameOf (id ++ rest) = id := by
  rw [nameOf, List.takeWhile_append_of_pos hid, List.dropWhile_append_of_pos hid]
  rcases hrest with hrest | ⟨more, rfl⟩
  · cases rest with
    | nil => simp
    | cons c cs =>
      obtain ⟨hc, hbrace⟩ := hrest c rfl
      simp [hc, hbrace]
  · have hunderscore : Text.isNameChar '_' = true := by decide
    have hbrace : Text.isNameChar '{' = false := by decide
    simp [hunderscore, hbrace]

/-- What is read first is what was written first. -/
theorem nextLexeme_write {l : Lexeme} {ls : List Lexeme} (h : Proper (l :: ls)) :
    nextLexeme (write (l :: ls)) = (l, write ls) := by
  cases l with
  | name id =>
    obtain ⟨hid, hmark, hls⟩ := h
    have hname := nameOf_append (Text.isNameChar_of_isIdentifier hid).2 (endsName_write hmark)
    rw [write_cons, Lexeme.chars, nextLexeme, mark?_name hid (head_write_ne_brace hls)]
    simp [hname]
  | mark m =>
    rw [write_cons, Lexeme.chars, nextLexeme, mark?_mark m (head_write_ne_brace h.tail)]
    simp

theorem chars_ne_nil {l : Lexeme} {ls : List Lexeme} (h : Proper (l :: ls)) : l.chars ≠ [] := by
  cases l with
  | name id => exact (Text.isNameChar_of_isIdentifier h.1).1
  | mark m => cases m <;> simp [Lexeme.chars, Mark.text]

/-- Proper lexemes can be told from what they are written as. -/
theorem write_injective {ls ls' : List Lexeme} (h : Proper ls) (h' : Proper ls')
    (heq : write ls = write ls') : ls = ls' := by
  induction ls generalizing ls' with
  | nil =>
    cases ls' with
    | nil => rfl
    | cons l' rest' => simp [chars_ne_nil h'] at heq
  | cons l rest ih =>
    cases ls' with
    | nil => simp [chars_ne_nil h] at heq
    | cons l' rest' =>
      have hnext : (l, write rest) = (l', write rest') := by
        rw [← nextLexeme_write h, ← nextLexeme_write h', heq]
      obtain ⟨rfl, hrest⟩ := Prod.mk.inj hnext
      rw [ih h.tail h'.tail hrest]

end ExprMarkup.Typeset
