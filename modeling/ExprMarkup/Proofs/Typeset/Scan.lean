import ExprMarkup.Dialect.Latex

namespace ExprMarkup.Typeset

inductive Piece
  /-- A control word, by its letters. -/
  | word (letters : List Char)
  /-- A backslash and a character that is no letter. -/
  | sign (c : Char)
  | char (c : Char)
  /-- A backslash with nothing after it. -/
  | lone
  deriving DecidableEq

/-- The piece that is being read: none, one of which only the backslash has been read, or a control word
with the letters read so far. -/
inductive Begun
  | none
  | backslash
  | letters (read : List Char)
  deriving DecidableEq

def Begun.finish : Begun → List Piece
  | .none => []
  | .backslash => [.lone]
  | .letters read => [.word read]

/-- What a character makes where no piece has been begun: a piece, or the beginning of one. -/
def start (c : Char) : List Piece × Begun :=
  if c = '\\' then ([], .backslash) else ([.char c], .none)

/-- The pieces that a character completes, and what is begun then. -/
def step : Begun → Char → List Piece × Begun
  | .none, c => start c
  | .backslash, c => if c.isAlpha then ([], .letters [c]) else ([.sign c], .none)
  | .letters read, c =>
    if c.isAlpha then ([], .letters (read ++ [c])) else (.word read :: (start c).1, (start c).2)

def scanFrom : Begun → List Char → List Piece
  | b, [] => b.finish
  | b, c :: rest => (step b c).1 ++ scanFrom (step b c).2 rest

/-- The pieces of a text. A control word takes all letters that there are. -/
def scan (text : List Char) : List Piece := scanFrom .none text

/-- What is begun after a text. -/
def begunAfter (b : Begun) (text : List Char) : Begun := text.foldl (fun b c => (step b c).2) b

/-- The text begins with no letter. -/
def NoLetter (text : List Char) : Prop := text.head?.any Char.isAlpha = false

instance (text : List Char) : Decidable (NoLetter text) :=
  inferInstanceAs (Decidable (text.head?.any Char.isAlpha = false))

/-- A text can follow what is begun without adding to it. -/
def Seam : Begun → List Char → Prop
  | .none, _ => True
  | .backslash, text => text = []
  | .letters _, text => NoLetter text

theorem seam_nil (b : Begun) : Seam b [] := by
  cases b with
  | none => trivial
  | backslash => rfl
  | letters read => rfl

theorem scanFrom_seam {b : Begun} {text : List Char} (h : Seam b text) :
    scanFrom b text = b.finish ++ scan text := by
  cases b with
  | none => rfl
  | backslash =>
    obtain rfl : text = [] := h
    rfl
  | letters read =>
    cases text with
    | nil => rfl
    | cons c rest =>
      have hc : c.isAlpha = false := h
      simp [scan, scanFrom, step, Begun.finish, hc]

/-- What is read of the first text does not depend on the second, but for what is begun at its end. -/
theorem scanFrom_append {a text : List Char} {b : Begun} (h : Seam (begunAfter b a) text) :
    scanFrom b (a ++ text) = scanFrom b a ++ scan text := by
  induction a generalizing b with
  | nil => exact scanFrom_seam h
  | cons c rest ih => rw [List.cons_append, scanFrom, scanFrom, ih h, List.append_assoc]

/-- Where no piece is torn apart, two texts have the pieces of both. -/
theorem scan_append {a text : List Char} (h : Seam (begunAfter .none a) text) :
    scan (a ++ text) = scan a ++ scan text :=
  scanFrom_append h

theorem begunAfter_append (b : Begun) (a text : List Char) :
    begunAfter b (a ++ text) = begunAfter (begunAfter b a) text := List.foldl_append

theorem finish_suffix (b : Begun) (text : List Char) :
    (begunAfter b text).finish <:+ scanFrom b text := by
  induction text generalizing b with
  | nil => exact List.suffix_rfl
  | cons c rest ih => exact (ih (step b c).2).trans (List.suffix_append _ _)

/-- After a text without a lone backslash only letters could be taken for a part of it. -/
theorem seam_of_noLetter {a text : List Char} (hlone : .lone ∉ scan a) (h : NoLetter text) :
    Seam (begunAfter .none a) text := by
  have hsuffix := finish_suffix .none a
  cases hbegun : begunAfter .none a with
  | none => trivial
  | backslash =>
    rw [hbegun] at hsuffix
    exact absurd (hsuffix.mem (List.mem_singleton_self _)) hlone
  | letters read => exact h

theorem seam_of_ended {a : List Char} (h : begunAfter .none a = .none) (text : List Char) :
    Seam (begunAfter .none a) text := by
  rw [h]
  trivial

/-- What is open: a brace, or a pair of sides. -/
inductive Bracket
  | brace
  | side
  deriving DecidableEq

/-- What a piece opens: a brace a group, the word `left` a pair of sides. -/
def Piece.opens? : Piece → Option Bracket
  | .char '{' => some .brace
  | .word ['l', 'e', 'f', 't'] => some .side
  | _ => none

def Piece.closes? : Piece → Option Bracket
  | .char '}' => some .brace
  | .word ['r', 'i', 'g', 'h', 't'] => some .side
  | _ => none

/-- What is open after a piece. A closing one has to close what was opened last. -/
def Piece.nest (opened : List Bracket) (p : Piece) : Option (List Bracket) :=
  match p.opens?, p.closes? with
  | some b, _ => some (b :: opened)
  | none, some b => if opened.head? = some b then some opened.tail else none
  | none, none => some opened

/-- What is open after some pieces, if each that closes something closes what was opened last. -/
def nest (opened : List Bracket) (pieces : List Piece) : Option (List Bracket) :=
  pieces.foldlM Piece.nest opened

/-- All that is opened is closed, and nothing else. -/
def Nested (pieces : List Piece) : Prop := nest [] pieces = some []

instance (pieces : List Piece) : Decidable (Nested pieces) :=
  inferInstanceAs (Decidable (nest [] pieces = some []))

@[simp] theorem nest_nil (opened : List Bracket) : nest opened [] = some opened := rfl

@[simp] theorem nest_cons (opened : List Bracket) (p : Piece) (rest : List Piece) :
    nest opened (p :: rest) = (p.nest opened).bind fun inner => nest inner rest := by
  simp [nest]

theorem nest_append (opened : List Bracket) (a b : List Piece) :
    nest opened (a ++ b) = (nest opened a).bind fun inner => nest inner b := by
  simp [nest]

theorem Piece.nest_append_right {opened inner : List Bracket} {p : Piece}
    (h : p.nest opened = some inner) (outer : List Bracket) :
    p.nest (opened ++ outer) = some (inner ++ outer) := by
  unfold Piece.nest at h ⊢
  split at h
  · cases h
    rfl
  · next b _ _ =>
    cases opened with
    | nil => simp at h
    | cons last rest =>
      obtain ⟨rfl, rfl⟩ : last = b ∧ rest = inner := by simpa using h
      simp
  · cases h
    rfl

/-- Nesting does not look at what is further out than it closes. -/
theorem nest_append_right {opened inner : List Bracket} {pieces : List Piece}
    (h : nest opened pieces = some inner) (outer : List Bracket) :
    nest (opened ++ outer) pieces = some (inner ++ outer) := by
  induction pieces generalizing opened with
  | nil =>
    cases h
    rfl
  | cons p rest ih =>
    rw [nest_cons] at h ⊢
    obtain ⟨next, hp, hrest⟩ := Option.bind_eq_some_iff.mp h
    rw [p.nest_append_right hp]
    exact ih hrest

/-- What is nested leaves the nesting around it as it was. -/
theorem Nested.nest {pieces : List Piece} (h : Nested pieces) (opened : List Bracket) :
    nest opened pieces = some opened :=
  nest_append_right h opened

end ExprMarkup.Typeset
