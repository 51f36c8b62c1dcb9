import ExprMarkup.Attribute

namespace ExprMarkup.Markup

/-- Characters of names: all but the space and the signs of tags. -/
def isNameChar (c : Char) : Bool :=
  !(c == ' ' || c == '=' || c == '>' || c == '/' || c == '<' || c == '\'')

/-- An attribute without a value is its bare name. -/
structure Attr where
  name : List Char
  value : Option (List Char)
  deriving DecidableEq

inductive Piece
  | start (tag : List Char) (attributes : List Attr)
  | void (tag : List Char) (attributes : List Attr)
  | stop (tag : List Char)
  | data (c : Char)
  deriving DecidableEq

/-- The longest name at the front, and the rest. -/
def readName (text : List Char) : Option (List Char × List Char) :=
  if (text.takeWhile isNameChar).isEmpty then none
  else some (text.takeWhile isNameChar, text.dropWhile isNameChar)

/-- The value that follows a name: all up to the next apostrophe. -/
def readValue : List Char → Option (Option (List Char) × List Char)
  | '=' :: '\'' :: rest =>
    match rest.dropWhile (· != '\'') with
    | [] => none
    | _ :: after => some (some (rest.takeWhile (· != '\'')), after)
  | rest => some (none, rest)

theorem length_of_readName {text name rest : List Char} (h : readName text = some (name, rest)) :
    rest.length < text.length := by
  unfold readName at h
  split at h
  · simp at h
  · next hne =>
    obtain ⟨rfl, rfl⟩ : text.takeWhile isNameChar = name ∧ text.dropWhile isNameChar = rest := by
      simpa using h
    have hlen := congrArg List.length (List.takeWhile_append_dropWhile (p := isNameChar) (l := text))
    have hpos : 0 < (text.takeWhile isNameChar).length := by
      cases ht : text.takeWhile isNameChar with
      | nil => simp [ht] at hne
      | cons c cs => simp
    rw [List.length_append] at hlen
    omega

theorem length_of_readValue {text : List Char} {value : Option (List Char)} {rest : List Char}
    (h : readValue text = some (value, rest)) : rest.length ≤ text.length := by
  unfold readValue at h
  split at h
  · next after =>
    have hle := (List.dropWhile_suffix (fun c => c != '\'') (l := after)).length_le
    split at h
    · simp at h
    · next hd =>
      obtain ⟨-, rfl⟩ := by simpa using h
      rw [hd] at hle
      simp only [List.length_cons] at hle ⊢
      omega
  · obtain ⟨-, rfl⟩ := by simpa using h
    exact Nat.le_refl _

/-- Attributes, each after a space, as long as a name follows the space. -/
def readAttributes (text : List Char) : Option (List Attr × List Char) :=
  match text with
  | ' ' :: rest =>
    match _ : readName rest with
    | none => some ([], ' ' :: rest)
    | some (name, rest') =>
      match _ : readValue rest' with
      | none => none
      | some (value, after) =>
        (readAttributes after).map fun found => (⟨name, value⟩ :: found.1, found.2)
  | rest => some ([], rest)
termination_by text.length
decreasing_by
  have hn := length_of_readName ‹readName rest = some (name, rest')›
  have hv := length_of_readValue ‹readValue rest' = some (value, after)›
  simp only [List.length_cons]
  omega

/-- What stands after the `<` of a tag that is no end tag. -/
def readTag (text : List Char) : Option (Piece × List Char) := do
  let (tag, rest) ← readName text
  let (attributes, rest) ← readAttributes rest
  match rest with
  | '>' :: after => some (.start tag attributes, after)
  | ' ' :: '/' :: '>' :: after => some (.void tag attributes, after)
  | _ => none

def readPiece : List Char → Option (Piece × List Char)
  | [] => none
  | '<' :: '/' :: rest => do
    let (tag, rest) ← readName rest
    match rest with
    | '>' :: after => some (.stop tag, after)
    | _ => none
  | '<' :: rest => readTag rest
  | c :: rest => some (.data c, rest)

theorem length_of_readAttributes {text : List Char} {attributes : List Attr}
    {rest : List Char} (h : readAttributes text = some (attributes, rest)) :
    rest.length ≤ text.length := by
  fun_induction readAttributes text generalizing attributes rest with
  | case1 after hname =>
    obtain ⟨-, rfl⟩ := by simpa using h
    exact Nat.le_refl _
  | case2 after name rest' hname hvalue => simp at h
  | case3 after name rest' hname value after' hvalue ih =>
    obtain ⟨found, hfound, hpair⟩ := Option.map_eq_some_iff.mp h
    obtain ⟨-, rfl⟩ := Prod.mk.inj hpair
    have hn := length_of_readName hname
    have hv := length_of_readValue hvalue
    have ha := ih hfound
    simp only [List.length_cons]
    omega
  | case4 text hne =>
    obtain ⟨-, rfl⟩ := by simpa using h
    exact Nat.le_refl _

theorem length_of_readTag {text : List Char} {p : Piece} {rest : List Char}
    (h : readTag text = some (p, rest)) : rest.length < text.length := by
  unfold readTag at h
  obtain ⟨⟨tag, afterName⟩, hname, h⟩ := Option.bind_eq_some_iff.mp h
  obtain ⟨⟨attributes, afterAttributes⟩, hattributes, h⟩ := Option.bind_eq_some_iff.mp h
  have hn := length_of_readName hname
  have ha := length_of_readAttributes hattributes
  simp only at h hn ha
  split at h
  · obtain ⟨-, rfl⟩ := by simpa using h
    simp only [List.length_cons] at ha
    omega
  · obtain ⟨-, rfl⟩ := by simpa using h
    simp only [List.length_cons] at ha
    omega
  · simp at h

theorem length_of_readPiece {text : List Char} {p : Piece} {rest : List Char}
    (h : readPiece text = some (p, rest)) : rest.length < text.length := by
  unfold readPiece at h
  split at h
  · simp at h
  · obtain ⟨⟨tag, afterName⟩, hname, h⟩ := Option.bind_eq_some_iff.mp h
    have hn := length_of_readName hname
    simp only at h hn
    split at h
    · obtain ⟨-, rfl⟩ := by simpa using h
      simp only [List.length_cons] at hn ⊢
      omega
    · simp at h
  · have ht := length_of_readTag h
    simp only [List.length_cons]
    omega
  · obtain ⟨-, rfl⟩ := by simpa using h
    simp

/-- Reads a text to its end. -/
def read (text : List Char) : Option (List Piece) :=
  if text = [] then some []
  else match _ : readPiece text with
  | none => none
  | some (p, rest) => (read rest).map (p :: ·)
termination_by text.length
decreasing_by exact length_of_readPiece ‹readPiece text = some (p, rest)›

def Attr.write (a : Attr) : List Char :=
  ' ' :: a.name ++ match a.value with
    | some value => '=' :: '\'' :: value ++ ['\'']
    | none => []

def writeAttributes (attributes : List Attr) : List Char := attributes.flatMap Attr.write

def Piece.write : Piece → List Char
  | .start tag attributes => '<' :: tag ++ writeAttributes attributes ++ ['>']
  | .void tag attributes => '<' :: tag ++ writeAttributes attributes ++ [' ', '/', '>']
  | .stop tag => '<' :: '/' :: tag ++ ['>']
  | .data c => [c]

def write (pieces : List Piece) : List Char := pieces.flatMap Piece.write

@[simp] theorem write_nil : write [] = [] := rfl

@[simp] theorem write_cons (p : Piece) (ps : List Piece) : write (p :: ps) = p.write ++ write ps := rfl

@[simp] theorem write_append (ps qs : List Piece) : write (ps ++ qs) = write ps ++ write qs :=
  List.flatMap_append

@[simp] theorem write_data (text : List Char) : write (text.map .data) = text := by
  induction text with
  | nil => rfl
  | cons c rest ih => simp [Piece.write, ih]

def IsName (name : List Char) : Prop := name ≠ [] ∧ ∀ c ∈ name, isNameChar c = true

/-- The value of a proper attribute has no apostrophe. -/
def Attr.Proper (a : Attr) : Prop :=
  IsName a.name ∧ ∀ value ∈ a.value, '\'' ∉ value

theorem Attr.proper_mk {name : List Char} {value : Option (List Char)} (hname : IsName name)
    (hvalue : ∀ v ∈ value, '\'' ∉ v) : (⟨name, value⟩ : Attr).Proper := ⟨hname, hvalue⟩

def Piece.Proper : Piece → Prop
  | .start tag attributes => IsName tag ∧ ∀ a ∈ attributes, a.Proper
  | .void tag attributes => IsName tag ∧ ∀ a ∈ attributes, a.Proper
  | .stop tag => IsName tag
  | .data c => c ≠ '<'

/-- A run of characters of one kind ends where none of them follows. -/
theorem span_append {p : Char → Bool} {run rest : List Char} (hrun : ∀ c ∈ run, p c = true)
    (hrest : ∀ c ∈ rest.head?, p c = false) :
    (run ++ rest).takeWhile p = run ∧ (run ++ rest).dropWhile p = rest := by
  rw [List.takeWhile_append_of_pos hrun, List.dropWhile_append_of_pos hrun]
  cases rest with
  | nil => simp
  | cons c cs => simp [hrest c (by simp)]

/-- A name ends where no name character follows. -/
theorem readName_append {name : List Char} (rest : List Char) (hname : IsName name)
    (hrest : ∀ c ∈ rest.head?, isNameChar c = false) : readName (name ++ rest) = some (name, rest) := by
  obtain ⟨htake, hdrop⟩ := span_append hname.2 hrest
  simp [readName, htake, hdrop, hname.1]

theorem readValue_append {value rest : List Char} (h : '\'' ∉ value) :
    readValue ('=' :: '\'' :: value ++ '\'' :: rest) = some (some value, rest) := by
  have hall : ∀ c ∈ value, (c != '\'') = true := by
    intro c hc
    simp only [bne_iff_ne, ne_eq]
    rintro rfl
    exact h hc
  have hquote : ∀ c ∈ ('\'' :: rest).head?, (c != '\'') = false := by simp
  obtain ⟨htake, hdrop⟩ := span_append hall hquote
  simp only [List.cons_append, readValue, htake, hdrop]

/-- Attributes end where neither a value nor a further attribute follows. -/
def Ends (rest : List Char) : Prop :=
  (∃ after, rest = '>' :: after) ∨ ∃ after, rest = ' ' :: '/' :: '>' :: after

theorem readAttributes_end {rest : List Char} (h : Ends rest) :
    readAttributes rest = some ([], rest) := by
  rcases h with ⟨after, rfl⟩ | ⟨after, rfl⟩
  · rw [readAttributes]
    simp
  · rw [readAttributes]
    simp [readName, isNameChar]

/-- What follows an attribute without a value is no value. -/
theorem readValue_none (as : List Attr) {rest : List Char} (h : Ends rest) :
    readValue (writeAttributes as ++ rest) = some (none, writeAttributes as ++ rest) := by
  cases as with
  | nil => rcases h with ⟨after, rfl⟩ | ⟨after, rfl⟩ <;> rfl
  | cons a as => rfl

theorem head_writeAttributes (as : List Attr) {rest : List Char} (h : Ends rest) :
    ∀ c ∈ (writeAttributes as ++ rest).head?, isNameChar c = false := by
  cases as with
  | nil => rcases h with ⟨after, rfl⟩ | ⟨after, rfl⟩ <;> simp [writeAttributes, isNameChar]
  | cons a as => simp [writeAttributes, Attr.write, isNameChar]

theorem readAttributes_append {as : List Attr} {rest : List Char} (has : ∀ a ∈ as, a.Proper)
    (hrest : Ends rest) : readAttributes (writeAttributes as ++ rest) = some (as, rest) := by
  induction as with
  | nil => exact readAttributes_end hrest
  | cons a as ih =>
    have htail := ih fun b hb => has b (by simp [hb])
    obtain ⟨name, value⟩ := a
    have hname : IsName name := (has ⟨name, value⟩ (by simp)).1
    cases value with
    | none =>
      have hread := readName_append _ hname (head_writeAttributes as hrest)
      have htext : writeAttributes (⟨name, none⟩ :: as) ++ rest =
          ' ' :: (name ++ (writeAttributes as ++ rest)) := by
        simp [writeAttributes, Attr.write]
      rw [htext, readAttributes, hread]
      dsimp only
      rw [readValue_none as hrest]
      simp [htail]
    | some value =>
      have hquote : '\'' ∉ value := (has ⟨name, some value⟩ (by simp)).2 value rfl
      have hread := readName_append ('=' :: '\'' :: value ++ '\'' :: (writeAttributes as ++ rest))
        hname (by simp [isNameChar])
      have htext : writeAttributes (⟨name, some value⟩ :: as) ++ rest =
          ' ' :: (name ++ ('=' :: '\'' :: value ++ '\'' :: (writeAttributes as ++ rest))) := by
        simp [writeAttributes, Attr.write]
      rw [htext, readAttributes, hread]
      dsimp only
      rw [readValue_append hquote]
      simp [htail]

theorem readTag_start {tag after : List Char} {as : List Attr} (htag : IsName tag)
    (has : ∀ a ∈ as, a.Proper) :
    readTag (tag ++ (writeAttributes as ++ '>' :: after)) = some (.start tag as, after) := by
  have hrest : Ends ('>' :: after) := .inl ⟨after, rfl⟩
  have hname := readName_append _ htag (head_writeAttributes as hrest)
  simp [readTag, hname, readAttributes_append has hrest]

theorem readTag_void {tag after : List Char} {as : List Attr} (htag : IsName tag)
    (has : ∀ a ∈ as, a.Proper) :
    readTag (tag ++ (writeAttributes as ++ ' ' :: '/' :: '>' :: after)) =
      some (.void tag as, after) := by
  have hrest : Ends (' ' :: '/' :: '>' :: after) := .inr ⟨after, rfl⟩
  have hname := readName_append _ htag (head_writeAttributes as hrest)
  simp [readTag, hname, readAttributes_append has hrest]

/-- A tag's name does not begin with a slash, so it is not taken for that of an end tag. -/
theorem readPiece_tag {tag rest : List Char} (htag : IsName tag) :
    readPiece ('<' :: (tag ++ rest)) = readTag (tag ++ rest) := by
  obtain ⟨hne, hall⟩ := htag
  cases tag with
  | nil => exact absurd rfl hne
  | cons c cs =>
    have hslash : c ≠ '/' := by
      rintro rfl
      exact absurd (hall '/' (by simp)) (by decide)
    simp [readPiece, hslash]

theorem readPiece_write {p : Piece} (hp : p.Proper) (rest : List Char) :
    readPiece (p.write ++ rest) = some (p, rest) := by
  cases p with
  | start tag as =>
    have htext : (Piece.start tag as).write ++ rest =
        '<' :: (tag ++ (writeAttributes as ++ '>' :: rest)) := by simp [Piece.write]
    rw [htext, readPiece_tag hp.1, readTag_start hp.1 hp.2]
  | void tag as =>
    have htext : (Piece.void tag as).write ++ rest =
        '<' :: (tag ++ (writeAttributes as ++ ' ' :: '/' :: '>' :: rest)) := by simp [Piece.write]
    rw [htext, readPiece_tag hp.1, readTag_void hp.1 hp.2]
  | stop tag =>
    have hname := readName_append ('>' :: rest) hp (by simp [isNameChar])
    have htext : (Piece.stop tag).write ++ rest = '<' :: '/' :: (tag ++ '>' :: rest) := by
      simp [Piece.write]
    rw [htext]
    simp [readPiece, hname]
  | data c =>
    have hc : c ≠ '<' := hp
    simp [Piece.write, readPiece, hc]

theorem write_ne_nil (p : Piece) : p.write ≠ [] := by
  cases p <;> simp [Piece.write]

/-- Proper pieces are read back from what they are written as. -/
theorem read_write {pieces : List Piece} (h : ∀ p ∈ pieces, p.Proper) :
    read (write pieces) = some pieces := by
  induction pieces with
  | nil => rw [read]; simp
  | cons p ps ih =>
    have hne : p.write ++ write ps ≠ [] := by simp [write_ne_nil]
    have hrest := ih fun q hq => h q (by simp [hq])
    rw [write_cons, read, if_neg hne, readPiece_write (h p (by simp))]
    simp only [hrest, Option.map_some]

end ExprMarkup.Markup
