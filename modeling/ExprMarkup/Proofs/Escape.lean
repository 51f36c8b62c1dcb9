import ExprMarkup.Text.Escape
import Mathlib.Data.List.Basic

namespace ExprMarkup.Text

/-- What is written for a character. -/
structure Escape where
  written : List Char
  meant : Char
  deriving DecidableEq

/-- A piece of a text: an escape, or a character that stands for itself. -/
inductive Piece
  | escape (e : Escape)
  | plain (c : Char)
  deriving DecidableEq

def Piece.written : Piece → List Char
  | .escape e => e.written
  | .plain c => [c]

def Piece.meant : Piece → Char
  | .escape e => e.meant
  | .plain c => c

/-- The escape that a text begins with. -/
def leadingEscape? (table : List Escape) (text : List Char) : Option Escape :=
  table.find? fun e => e.written.isPrefixOf text

/-- The pieces of a text, from left to right. -/
def scan (table : List Escape) : List Char → List Piece
  | [] => []
  | c :: rest =>
    match leadingEscape? table (c :: rest) with
    | some e => .escape e :: scan table (rest.drop (e.written.length - 1))
    | none => .plain c :: scan table rest
termination_by text => text.length
decreasing_by
  · rw [List.length_drop, List.length_cons]
    omega
  · exact Nat.lt_succ_self _

/-- The text with each escape replaced by its character. -/
def unescape (table : List Escape) (text : String) : String :=
  String.ofList ((scan table text.toList).map Piece.meant)

/-- No escape is the beginning of another one. -/
def PrefixFree (table : List Escape) : Prop :=
  ∀ a ∈ table, ∀ b ∈ table, a.written <+: b.written → a = b

instance (table : List Escape) : Decidable (PrefixFree table) :=
  inferInstanceAs (Decidable (∀ a ∈ table, ∀ b ∈ table, a.written <+: b.written → a = b))

/-- The mark is in front of every escape, and nowhere else in it. -/
def Marked (mark : Char) (table : List Escape) : Prop :=
  ∀ e ∈ table, e.written.head? = some mark ∧ mark ∉ e.written.tail

instance (mark : Char) (table : List Escape) : Decidable (Marked mark table) :=
  inferInstanceAs (Decidable (∀ e ∈ table, e.written.head? = some mark ∧ mark ∉ e.written.tail))

theorem Marked.written_eq {mark : Char} {table : List Escape} (h : Marked mark table) {e : Escape}
    (he : e ∈ table) : ∃ rest, e.written = mark :: rest ∧ mark ∉ rest := by
  obtain ⟨hhead, htail⟩ := h e he
  obtain ⟨rest, hrest⟩ := List.head?_eq_some_iff.mp hhead
  rw [hrest] at htail
  exact ⟨rest, hrest, htail⟩

variable {table : List Escape}

theorem leadingEscape?_eq_some {text : List Char} {e : Escape}
    (h : leadingEscape? table text = some e) : e ∈ table ∧ e.written <+: text := by
  have hstarts : e.written.isPrefixOf text = true :=
    List.find?_some (p := fun e : Escape => e.written.isPrefixOf text) h
  exact ⟨List.mem_of_find?_eq_some h, List.isPrefixOf_iff_prefix.mp hstarts⟩

/-- After the escape that a text begins with, what is left begins. -/
theorem eq_written_append_drop {mark : Char} (hmark : Marked mark table) {c : Char} {rest : List Char}
    {e : Escape} (h : leadingEscape? table (c :: rest) = some e) :
    c :: rest = e.written ++ rest.drop (e.written.length - 1) := by
  obtain ⟨hmem, after, hafter⟩ := leadingEscape?_eq_some h
  obtain ⟨tail, hwritten, -⟩ := hmark.written_eq hmem
  rw [hwritten, List.cons_append, List.cons.injEq] at hafter
  obtain ⟨rfl, rfl⟩ := hafter
  simp [hwritten]

theorem leadingEscape?_eq_none_iff {text : List Char} :
    leadingEscape? table text = none ↔ ∀ e ∈ table, ¬e.written <+: text := by
  simp [leadingEscape?]

theorem leadingEscape?_written (hfree : PrefixFree table) {e : Escape} (he : e ∈ table)
    (rest : List Char) : leadingEscape? table (e.written ++ rest) = some e := by
  cases hfound : leadingEscape? table (e.written ++ rest) with
  | none => exact absurd (List.prefix_append _ _) (leadingEscape?_eq_none_iff.mp hfound e he)
  | some found =>
    obtain ⟨hmem, hstarts⟩ := leadingEscape?_eq_some hfound
    have hown : e.written <+: e.written ++ rest := List.prefix_append _ _
    rcases List.prefix_or_prefix_of_prefix hstarts hown with h | h
    · rw [hfree found hmem e he h]
    · rw [hfree e he found hmem h]

@[simp] theorem scan_nil : scan table [] = [] := by rw [scan]

/-- An escape is taken whole, and reading goes on after it. -/
theorem scan_escape {mark : Char} (hfree : PrefixFree table) (hmark : Marked mark table) {e : Escape}
    (he : e ∈ table) (rest : List Char) :
    scan table (e.written ++ rest) = .escape e :: scan table rest := by
  obtain ⟨tail, hwritten, -⟩ := hmark.written_eq he
  have hleading := leadingEscape?_written hfree he rest
  rw [hwritten, List.cons_append] at hleading ⊢
  rw [scan, hleading]
  simp [hwritten]

theorem scan_plain {c : Char} {rest : List Char} (h : leadingEscape? table (c :: rest) = none) :
    scan table (c :: rest) = .plain c :: scan table rest := by
  rw [scan, h]

/-- Nothing of a text is lost in its pieces. -/
theorem written_scan {mark : Char} (hmark : Marked mark table) (text : List Char) :
    (scan table text).flatMap Piece.written = text := by
  fun_induction scan table text with
  | case1 => rfl
  | case2 c rest e he ih =>
    rw [List.flatMap_cons, ih, Piece.written]
    exact (eq_written_append_drop hmark he).symm
  | case3 c rest he ih => rw [List.flatMap_cons, ih, Piece.written, List.singleton_append]

/-- Only at the mark an escape begins. -/
theorem leadingEscape?_of_ne {mark c : Char} (hmark : Marked mark table) (hc : c ≠ mark)
    (rest : List Char) : leadingEscape? table (c :: rest) = none := by
  rw [leadingEscape?_eq_none_iff]
  intro e he hstarts
  obtain ⟨tail, hwritten, -⟩ := hmark.written_eq he
  rw [hwritten, List.cons_prefix_cons] at hstarts
  exact hc hstarts.1.symm

/-- An escaper writes its special characters as the table says, and the mark is one of them. -/
structure Writes (special : Char → Option (List Char)) (table : List Escape) (mark : Char) : Prop where
  mem : ∀ c w, special c = some w → ⟨w, c⟩ ∈ table
  special_mark : special mark ≠ none
  marked : Marked mark table
  prefixFree : PrefixFree table

/-- The piece that an escaper writes for a character. -/
def pieceOf (special : Char → Option (List Char)) (c : Char) : Piece :=
  match special c with
  | some w => .escape ⟨w, c⟩
  | none => .plain c

theorem meant_pieceOf (special : Char → Option (List Char)) (c : Char) :
    (pieceOf special c).meant = c := by
  unfold pieceOf
  split <;> rfl

variable {special : Char → Option (List Char)} {mark : Char}

/-- Before any text there are the pieces that the escaper wrote. -/
theorem Writes.scan_escapeChars_append (h : Writes special table mark) (text rest : List Char) :
    scan table (escapeChars special text ++ rest) = text.map (pieceOf special) ++ scan table rest := by
  induction text with
  | nil => rfl
  | cons c text ih =>
    rw [escapeChars_cons, List.append_assoc, List.map_cons, List.cons_append, ← ih, pieceOf]
    cases hc : special c with
    | some w => exact scan_escape h.prefixFree h.marked (h.mem c w hc) _
    | none =>
      have hne : c ≠ mark := by
        rintro rfl
        exact h.special_mark hc
      exact scan_plain (leadingEscape?_of_ne h.marked hne _)

theorem Writes.scan_escapeChars (h : Writes special table mark) (text : List Char) :
    scan table (escapeChars special text) = text.map (pieceOf special) := by
  simpa using h.scan_escapeChars_append text []

theorem Writes.unescape_escapeWith_append (h : Writes special table mark) (text rest : String) :
    unescape table (escapeWith special text ++ rest) = text ++ unescape table rest := by
  have hmeant : (text.toList.map (pieceOf special)).map Piece.meant = text.toList := by
    simp [Function.comp_def, meant_pieceOf]
  rw [unescape, String.toList_append, toList_escapeWith, h.scan_escapeChars_append, List.map_append,
    hmeant, String.ofList_append, String.ofList_toList]
  rfl

theorem Writes.unescape_escapeWith (h : Writes special table mark) (text : String) :
    unescape table (escapeWith special text) = text := by
  have happend := h.unescape_escapeWith_append text ""
  simpa [unescape] using happend

/-- What stands at a place of an escaped text belongs to what one character is written as. -/
theorem escapeChars_eq_append_cons {text a b : List Char} {x : Char}
    (h : escapeChars special text = a ++ x :: b) :
    ∃ before c after p q, text = before ++ c :: after ∧ (special c).getD [c] = p ++ x :: q ∧
      a = escapeChars special before ++ p ∧ b = q ++ escapeChars special after := by
  induction text generalizing a with
  | nil => simp at h
  | cons c rest ih =>
    rw [escapeChars_cons] at h
    rcases List.append_eq_append_iff.mp h with ⟨inner, rfl, hrest⟩ | ⟨inner, hpiece, hrest⟩
    · obtain ⟨before, d, after, p, q, rfl, hd, rfl, rfl⟩ := ih hrest
      exact ⟨c :: before, d, after, p, q, rfl, hd, by simp, rfl⟩
    · cases inner with
      | nil =>
        have hrest' : escapeChars special rest = [] ++ x :: b := by simpa using hrest.symm
        obtain ⟨before, d, after, p, q, rfl, hd, hp, rfl⟩ := ih hrest'
        refine ⟨c :: before, d, after, p, q, rfl, hd, ?_, rfl⟩
        rw [escapeChars_cons, List.append_assoc, ← hp, hpiece, List.append_nil, List.append_nil]
      | cons y inner =>
        obtain ⟨rfl, rfl⟩ : x = y ∧ b = inner ++ escapeChars special rest := by simpa using hrest
        exact ⟨[], c, rest, a, inner, rfl, hpiece, rfl, rfl⟩

/-- At every mark an escape begins. -/
theorem Writes.escape_at_mark (h : Writes special table mark) {text a b : List Char}
    (htext : escapeChars special text = a ++ mark :: b) : ∃ e ∈ table, e.written <+: mark :: b := by
  obtain ⟨before, c, after, p, q, -, hc, -, rfl⟩ := escapeChars_eq_append_cons htext
  cases hspecial : special c with
  | none =>
    have hmem : mark ∈ (special c).getD [c] := by simp [hc]
    obtain rfl : mark = c := by simpa [hspecial] using hmem
    exact absurd hspecial h.special_mark
  | some w =>
    have he := h.mem c w hspecial
    obtain ⟨tail, hwritten, hnot⟩ := h.marked.written_eq he
    have hw : w = p ++ mark :: q := by simpa [hspecial] using hc
    cases p with
    | nil => exact ⟨_, he, hw ▸ List.prefix_append _ _⟩
    | cons y p =>
      obtain ⟨-, rfl⟩ : y = mark ∧ p ++ mark :: q = tail := by simpa [hw] using hwritten
      exact absurd (by simp) hnot

end ExprMarkup.Text
