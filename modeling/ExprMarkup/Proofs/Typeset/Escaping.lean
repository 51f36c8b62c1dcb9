import ExprMarkup.Proofs.Escape
import ExprMarkup.Proofs.Typeset.Balance
import ExprMarkup.Proofs.Typeset.Group

namespace ExprMarkup.Typeset

open Text (escapeChars latexSpecial)

/-- The escapes of LaTeX text. -/
def latexEscapes : List Text.Escape :=
  [⟨['\\', 'b', 'a', 'c', 'k', 's', 'l', 'a', 's', 'h', '{', '}'], '\\'⟩, ⟨['\\', '$'], '$'⟩,
   ⟨['\\', '%'], '%'⟩, ⟨['\\', '&'], '&'⟩, ⟨['\\', '#'], '#'⟩, ⟨['\\', '{'], '{'⟩,
   ⟨['\\', '}'], '}'⟩]

/-- What a piece shows of the braces that group: an escaped brace is a character like any other. -/
def bare : Text.Piece → List Char
  | .escape ⟨['\\', _], _⟩ => []
  | p => p.written

theorem writes_latex : Text.Writes latexSpecial latexEscapes '\\' where
  mem c w h := by
    unfold latexSpecial at h
    split at h
    case h_8 => cases h
    all_goals
      obtain rfl := Option.some.inj h
      decide
  special_mark := by decide
  marked := by decide
  prefixFree := by decide

theorem closed_flatMap {α : Type} {items : List α} {text : α → List Char}
    (h : ∀ a ∈ items, Closed (text a)) : Closed (items.flatMap text) := by
  induction items with
  | nil => rfl
  | cons a rest ih =>
    have hrest : Closed (rest.flatMap text) := ih fun b hb => h b (by simp [hb])
    exact (h a (by simp)).append hrest

/-- The braces that are written for a character close each other. -/
theorem closed_bare (c : Char) : Closed (bare (Text.pieceOf latexSpecial c)) := by
  unfold Text.pieceOf
  cases h : latexSpecial c with
  | none =>
    have hopen : c ≠ '{' := ne_of_latexSpecial h rfl
    have hclose : c ≠ '}' := ne_of_latexSpecial h rfl
    simp [bare, Text.Piece.written, Closed, openAfter, braceStep, hopen, hclose]
  | some w =>
    unfold latexSpecial at h
    split at h
    case h_8 => cases h
    all_goals
      obtain rfl := Option.some.inj h
      decide

/-- Other markup than backslashes and braces stands right after a backslash. -/
theorem getLast?_of_escapeChars {text before after : List Char} {c : Char}
    (hc : c ∈ ['$', '%', '&', '#']) (h : escapeChars latexSpecial text = before ++ c :: after) :
    before.getLast? = some '\\' := by
  obtain ⟨start, d, rest, p, q, -, hd, rfl, -⟩ := Text.escapeChars_eq_append_cons h
  have hmem : c ∈ (latexSpecial d).getD [d] := by simp [hd]
  have hwritten : latexSpecial c = some ['\\', c] ∧ c ≠ '\\' := by
    simp only [List.mem_cons, List.not_mem_nil, or_false] at hc
    rcases hc with rfl | rfl | rfl | rfl <;> decide
  have hword : c ∉ ['\\', 'b', 'a', 'c', 'k', 's', 'l', 'a', 's', 'h', '{', '}'] := by
    simp only [List.mem_cons, List.not_mem_nil, or_false] at hc
    rcases hc with rfl | rfl | rfl | rfl <;> decide
  have hpair : (latexSpecial d).getD [d] = ['\\', c] := by
    unfold latexSpecial at hmem ⊢
    split at hmem
    case h_1 => exact absurd hmem hword
    case h_8 hnone =>
      obtain rfl : c = d := List.mem_singleton.mp hmem
      simp_all
    all_goals
      obtain rfl : c = _ := by simpa [hwritten.2] using hmem
      rfl
  rw [hpair] at hd
  match p, hd with
  | [], hd => exact absurd (List.cons.inj hd).1.symm hwritten.2
  | [y], hd =>
    obtain rfl : '\\' = y := (List.cons.inj hd).1
    simp
  | y :: z :: p, hd =>
    have hlength := congrArg List.length hd
    simp at hlength

/-- Escaped text is read back, and what follows it is read as if it stood alone. Every backslash in it
begins an escape, other markup stands right after a backslash, and the braces that are no escaped
characters close each other. -/
theorem unescape_escapeLatex (text : String) :
    Text.unescape latexEscapes (Text.escapeLatex text) = text ∧
    (Text.scan latexEscapes (Text.escapeLatex text).toList).flatMap Text.Piece.written =
      (Text.escapeLatex text).toList ∧
    (∀ before after, (Text.escapeLatex text).toList = before ++ '\\' :: after →
      ∃ e ∈ latexEscapes, e.written <+: '\\' :: after) ∧
    (∀ c ∈ ['$', '%', '&', '#'], ∀ before after,
      (Text.escapeLatex text).toList = before ++ c :: after → before.getLast? = some '\\') ∧
    Closed ((Text.scan latexEscapes (Text.escapeLatex text).toList).flatMap bare) ∧
    ∀ rest : String,
      Text.scan latexEscapes (Text.escapeLatex text ++ rest).toList =
        Text.scan latexEscapes (Text.escapeLatex text).toList ++ Text.scan latexEscapes rest.toList ∧
      Text.unescape latexEscapes (Text.escapeLatex text ++ rest) =
        text ++ Text.unescape latexEscapes rest := by
  have htext : (Text.escapeLatex text).toList = escapeChars latexSpecial text.toList :=
    Text.toList_escapeWith latexSpecial text
  have hscan := writes_latex.scan_escapeChars text.toList
  refine ⟨writes_latex.unescape_escapeWith text, Text.written_scan writes_latex.marked _, ?_, ?_, ?_,
    fun rest => ⟨?_, ?_⟩⟩
  · intro before after h
    exact writes_latex.escape_at_mark (htext ▸ h)
  · intro c hc before after h
    exact getLast?_of_escapeChars hc (htext ▸ h)
  · rw [htext, hscan, List.flatMap_map]
    exact closed_flatMap fun c _ => closed_bare c
  · rw [String.toList_append, htext, writes_latex.scan_escapeChars_append, hscan]
  · exact writes_latex.unescape_escapeWith_append text rest

/-- A text that looks like an escape, and a dollar sign after it. -/
theorem unescape_escapeLatex_imitation :
    let text := r"\backslash{}$"
    let before := r"\backslash{}backslash\{\}\"
    (Text.escapeLatex text).toList = before.toList ++ ['$'] ∧ before.toList.getLast? = some '\\' ∧
      Text.unescape latexEscapes (Text.escapeLatex text) = text := by
  intro text before
  have hescaped : (Text.escapeLatex text).toList = before.toList ++ ['$'] := by decide +kernel
  obtain ⟨hread, -, -, hmarkup, -⟩ := unescape_escapeLatex text
  exact ⟨hescaped, hmarkup '$' (by decide) _ _ hescaped, hread⟩

end ExprMarkup.Typeset
