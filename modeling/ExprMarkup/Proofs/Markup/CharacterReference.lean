import ExprMarkup.Proofs.Escape
import ExprMarkup.Proofs.Markup.ReadBack
import ExprMarkup.Proofs.Rendering.Order

namespace ExprMarkup.Markup

open Text (Escape Escaper escapeChars htmlSpecial attributeSpecial scan unescape)

/-- The references that are decoded. -/
def references : List Escape :=
  [⟨['&', 'a', 'm', 'p', ';'], '&'⟩, ⟨['&', 'l', 't', ';'], '<'⟩, ⟨['&', 'g', 't', ';'], '>'⟩,
   ⟨['&', 'q', 'u', 'o', 't', ';'], '"'⟩, ⟨['&', '#', '3', '9', ';'], '\''⟩,
   ⟨['&', '#', '1', '3', ';'], '\r'⟩, ⟨['&', '#', '1', '0', ';'], '\n'⟩]

theorem marked_references : Text.Marked '&' references := by decide

theorem prefixFree_references : Text.PrefixFree references := by decide

theorem writes_html : Text.Writes htmlSpecial references '&' where
  mem c w h := by
    unfold htmlSpecial at h
    split at h
    case h_4 => cases h
    all_goals
      obtain rfl := Option.some.inj h
      decide
  special_mark := by decide
  marked := marked_references
  prefixFree := prefixFree_references

/-- Quotes and line ends are written as references. -/
theorem mem_references_of_attributeSpecial {c : Char} {w : List Char}
    (h : attributeSpecial c = some w) : ⟨w, c⟩ ∈ references := by
  unfold attributeSpecial at h
  split at h
  case h_5 => cases h
  all_goals
    obtain rfl := Option.some.inj h
    decide

/-- No reference is changed inside quotes. -/
theorem escapeChars_reference {e : Escape} (he : e ∈ references) (rest : List Char) :
    escapeChars attributeSpecial (e.written ++ rest) =
      e.written ++ escapeChars attributeSpecial rest := by
  have hplain : ∀ e ∈ references, ∀ c ∈ e.written, attributeSpecial c = none := by
    simp [references, attributeSpecial]
  rw [Text.escapeChars_append, Text.escapeChars_eq_self (hplain e he)]

/-- What an escaper writes with a mark in front completes nothing that begins without the mark. -/
theorem prefix_of_prefix_escapeChars {special : Char → Option (List Char)} {mark : Char}
    (hspecial : ∀ c w, special c = some w → w.head? = some mark) {start text : List Char}
    (hmark : mark ∉ start) (h : start <+: escapeChars special text) : start <+: text := by
  induction text generalizing start with
  | nil => simpa using h
  | cons c rest ih =>
    cases start with
    | nil => exact List.nil_prefix
    | cons d start =>
      rw [Text.escapeChars_cons] at h
      cases hc : special c with
      | none =>
        rw [hc, Option.getD_none, List.singleton_append, List.cons_prefix_cons] at h
        rw [List.cons_prefix_cons]
        exact ⟨h.1, ih (fun hmem => hmark (List.mem_cons_of_mem _ hmem)) h.2⟩
      | some w =>
        obtain ⟨tail, rfl⟩ := List.head?_eq_some_iff.mp (hspecial c w hc)
        rw [hc, Option.getD_some, List.cons_append, List.cons_prefix_cons] at h
        exact absurd (by simp [h.1]) hmark

/-- Where no reference begins, none begins after the rest has been escaped. -/
theorem leadingEscape?_escapeChars {c : Char} {rest : List Char}
    (h : Text.leadingEscape? references (c :: rest) = none) :
    Text.leadingEscape? references (c :: escapeChars attributeSpecial rest) = none := by
  rw [Text.leadingEscape?_eq_none_iff] at h ⊢
  intro e he hstarts
  obtain ⟨tail, hwritten, hnot⟩ := marked_references.written_eq he
  refine h e he ?_
  rw [hwritten, List.cons_prefix_cons] at hstarts ⊢
  refine ⟨hstarts.1, prefix_of_prefix_escapeChars (fun d w hd => ?_) hnot hstarts.2⟩
  exact (marked_references _ (mem_references_of_attributeSpecial hd)).1

/-- Escaping for quotes does not change what is decoded. -/
theorem meant_scan_escapeChars (text : List Char) :
    (scan references (escapeChars attributeSpecial text)).map Text.Piece.meant =
      (scan references text).map Text.Piece.meant := by
  fun_induction scan references text with
  | case1 => rw [Text.escapeChars_nil, Text.scan_nil]
  | case2 c rest e he ih =>
    have hmem : e ∈ references := (Text.leadingEscape?_eq_some he).1
    rw [Text.eq_written_append_drop marked_references he, escapeChars_reference hmem,
      Text.scan_escape prefixFree_references marked_references hmem, List.map_cons, List.map_cons, ih]
  | case3 c rest he ih =>
    rw [Text.escapeChars_cons]
    cases hc : attributeSpecial c with
    | none =>
      rw [Option.getD_none, List.singleton_append, Text.scan_plain (leadingEscape?_escapeChars he),
        List.map_cons, List.map_cons, ih]
    | some w =>
      have hscan := Text.scan_escape prefixFree_references marked_references
        (mem_references_of_attributeSpecial hc) (escapeChars attributeSpecial rest)
      rw [Option.getD_some, hscan, List.map_cons, List.map_cons, ih]
      rfl

theorem unescape_escapeAttribute (value : String) :
    unescape references (Text.escapeAttribute value) = unescape references value := by
  rw [unescape, Text.escapeAttribute, Text.toList_escapeWith, meant_scan_escapeChars]
  rfl

theorem not_mem_escapeAttribute {c : Char} (hc : c ∈ ['\'', '"', '\r', '\n']) (value : String) :
    c ∉ (Text.escapeAttribute value).toList := by
  rw [Text.escapeAttribute, Text.toList_escapeWith]
  refine not_mem_escapeChars ?_ ?_ value.toList
  · simp only [List.mem_cons, List.not_mem_nil, or_false] at hc
    rcases hc with rfl | rfl | rfl | rfl <;> decide
  · intro d w hd
    have hreferences : ∀ c ∈ ['\'', '"', '\r', '\n'], ∀ e ∈ references, c ∉ e.written := by
      simp [references]
    exact hreferences c hc _ (mem_references_of_attributeSpecial hd)

theorem escapeAttribute_escapeAttribute (value : String) :
    Text.escapeAttribute (Text.escapeAttribute value) = Text.escapeAttribute value := by
  apply String.toList_inj.mp
  rw [Text.escapeAttribute, Text.toList_escapeWith]
  refine Text.escapeChars_eq_self fun c hc => ?_
  cases hspecial : attributeSpecial c with
  | none => rfl
  | some w =>
    have hmem : c ∈ ['\'', '"', '\r', '\n'] := by
      unfold attributeSpecial at hspecial
      split at hspecial <;> simp_all
    exact absurd hc (not_mem_escapeAttribute hmem value)

/-- The two escapers one after the other, as a value in quotes passes them. -/
theorem unescape_escapeAttribute_escapeHtml (text : String) :
    unescape references (Text.escapeAttribute (Text.escapeHtml text)) = text := by
  rw [unescape_escapeAttribute]
  exact writes_html.unescape_escapeWith text

/-- Writes one character as a text wherever it stands. -/
def replaceAll (c : Char) (written : String) : Escaper :=
  Text.escapeWith fun d => if d = c then some written.toList else none

/-- Escaping content is replacing ampersands first and then the angle brackets. -/
theorem escapeHtml_eq_replaceAll (text : String) :
    Text.escapeHtml text = replaceAll '>' "&gt;" (replaceAll '<' "&lt;" (replaceAll '&' "&amp;" text)) := by
  apply String.toList_inj.mp
  simp only [Text.escapeHtml, replaceAll, Text.toList_escapeWith]
  induction text.toList with
  | nil => rfl
  | cons c rest ih =>
    simp only [Text.escapeChars_cons, Text.escapeChars_append, ih]
    congr 1
    unfold htmlSpecial
    split
    · decide
    · decide
    · decide
    · next hamp hlt hgt => simp_all

/-- The value of a literal's attribute is decoded to the text of the literal. -/
theorem exists_written_value {value : Literal} {s : Scalar} (hvalue : value.scalars = [s])
    (habsent : value ≠ .scalar .absent) (hdigits : ∀ n, s = .int n → Decimal.withinLimit n = true)
    (name : String) :
    ∃ r written, value.toValue.escape Text.escapeHtml = .ok r ∧
      Attribute.write name r = .ok (Attribute.attributeName name ++ "='" ++ written ++ "'") ∧
      unescape references written = scalarText s := by
  obtain ⟨r, hr, -⟩ := @Value.escape_scalar_ok Text.escapeHtml s hdigits
  have htext := text_of_escape_scalar hr
  have hwritten : unescape references (Text.escapeAttribute r.asFragment.text) = scalarText s := by
    rw [htext, unescape_escapeAttribute_escapeHtml]
  cases value with
  | scalar own =>
    obtain rfl : own = s := by simpa [Literal.scalars] using hvalue
    rcases escape_scalar hr with ⟨rfl, -⟩ | ⟨-, rfl⟩
    · exact absurd rfl habsent
    · exact ⟨_, _, hr, rfl, hwritten⟩
  | sequence items =>
    obtain rfl : items = [s] := hvalue
    refine ⟨.many [r.asFragment], _, ?_, rfl, hwritten⟩
    rw [Literal.toValue, List.map_cons, List.map_nil, Value.escape, Value.escapeItems, hr, ok_bind,
      Value.escapeItems]
    rfl

/-- Content is decoded to its text and has no angle bracket in it, and no ampersand but those that begin
a reference. A value in quotes is decoded as it was before it was escaped for them, has no quote and no
line end in it, and is not changed again. So the value of an attribute is decoded to the text of its
literal, and no two texts are written as the same value. -/
theorem escapers_decoded :
    (∀ text : String,
      Text.escapeHtml text = replaceAll '>' "&gt;" (replaceAll '<' "&lt;" (replaceAll '&' "&amp;" text)) ∧
      unescape references (Text.escapeHtml text) = text ∧
      '<' ∉ (Text.escapeHtml text).toList ∧ '>' ∉ (Text.escapeHtml text).toList ∧
      ∀ before after, (Text.escapeHtml text).toList = before ++ '&' :: after →
        ∃ e ∈ references, e.written <+: '&' :: after) ∧
    (∀ value : String,
      unescape references (Text.escapeAttribute value) = unescape references value ∧
      (∀ c ∈ ['\'', '"', '\r', '\n'], c ∉ (Text.escapeAttribute value).toList) ∧
      Text.escapeAttribute (Text.escapeAttribute value) = Text.escapeAttribute value) ∧
    (∀ (value : Literal) (s : Scalar) (name : String), value.scalars = [s] → value ≠ .scalar .absent →
      (∀ n, s = .int n → Decimal.withinLimit n = true) →
      ∃ r written, value.toValue.escape Text.escapeHtml = .ok r ∧
        Attribute.write name r = .ok (Attribute.attributeName name ++ "='" ++ written ++ "'") ∧
        unescape references written = scalarText s ∧
        (s ≠ .absent → Value.plainText (.scalar s) = .ok (scalarText s))) ∧
    Function.Injective fun text => Text.escapeAttribute (Text.escapeHtml text) := by
  refine ⟨fun text => ⟨escapeHtml_eq_replaceAll text, writes_html.unescape_escapeWith text,
    bracket_not_mem_escapeHtml (.inl rfl) text, bracket_not_mem_escapeHtml (.inr rfl) text, ?_⟩,
    fun value => ⟨unescape_escapeAttribute value, fun c hc => not_mem_escapeAttribute hc value,
      escapeAttribute_escapeAttribute value⟩, ?_, ?_⟩
  · intro before after h
    rw [Text.escapeHtml, Text.toList_escapeWith] at h
    exact writes_html.escape_at_mark h
  · intro value s name hvalue habsent hdigits
    obtain ⟨r, written, hr, hwrite, htext⟩ := exists_written_value hvalue habsent hdigits name
    exact ⟨r, written, hr, hwrite, htext, fun hs => (plainText_scalar_iff hs).mpr ⟨hdigits, rfl⟩⟩
  · intro a b h
    rw [← unescape_escapeAttribute_escapeHtml a, ← unescape_escapeAttribute_escapeHtml b]
    exact congrArg (unescape references) h

/-- The only item of a sequence is the value, here a text that has a reference in it already. -/
theorem escapers_decoded_reference :
    let text := "<'&#39;"
    let value : Literal := .sequence [.text text]
    value.scalars = [.text text] ∧ value ≠ .scalar .absent ∧
      (Text.escapeHtml text).toList = "&lt;'".toList ++ '&' :: "amp;#39;".toList ∧
      (∃ e ∈ references, e.written <+: '&' :: "amp;#39;".toList) ∧
      ∃ r written, value.toValue.escape Text.escapeHtml = .ok r ∧
        Attribute.write "title" r = .ok (Attribute.attributeName "title" ++ "='" ++ written ++ "'") ∧
        unescape references written = text := by
  intro text value
  have hescaped : (Text.escapeHtml text).toList = "&lt;'".toList ++ '&' :: "amp;#39;".toList := by
    decide +kernel
  obtain ⟨hcontent, -, hliteral, -⟩ := escapers_decoded
  obtain ⟨r, written, hr, hwrite, htext, -⟩ := hliteral value (.text text) "title" rfl nofun nofun
  exact ⟨rfl, nofun, hescaped, (hcontent text).2.2.2.2 _ _ hescaped, r, written, hr, hwrite, htext⟩

end ExprMarkup.Markup
