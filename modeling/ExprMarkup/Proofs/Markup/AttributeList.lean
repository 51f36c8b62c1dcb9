import ExprMarkup.Proofs.Markup.AttributeNames

namespace ExprMarkup.Markup

open Attribute (attributeName writeAll)

/-- A name goes on up to a space, an equals sign or the end. -/
def continuesName (c : Char) : Bool := c != ' ' && c != '='

/-- Reads attributes up to the end of the text: a space, a name, and a value between apostrophes if an
equals sign and an apostrophe follow. -/
def readAttributeList (text : List Char) : Option (List Attr) :=
  match text with
  | [] => some []
  | ' ' :: rest =>
    match _ : readValue (rest.dropWhile continuesName) with
    | none => none
    | some (value, after) => (readAttributeList after).map (⟨rest.takeWhile continuesName, value⟩ :: ·)
  | _ => none
termination_by text.length
decreasing_by
  have hname := (List.dropWhile_suffix continuesName (l := rest)).length_le
  have hvalue := length_of_readValue ‹readValue (rest.dropWhile continuesName) = some (value, after)›
  simp only [List.length_cons]
  omega

/-- The attribute of a value of at most one fragment: no value if there is none, and the text of the
fragment as it is written between apostrophes otherwise. -/
def item (name : String) (r : Rendered) : Attr :=
  ⟨(attributeName name).toList, r.fragments.head?.map fun f => (Text.escapeAttribute f.text).toList⟩

theorem attr_eq_item {r : Rendered} (h : r.fragments.length ≤ 1) (name : String) :
    attr name r = item name r := by
  match r, h with
  | .one f, _ => simp [attr, item, Rendered.fragments, Rendered.asFragment, Text.escapeAttribute]
  | .many [], _ => simp [attr, item, Rendered.fragments]
  | .many [f], _ =>
    simp [attr, item, Rendered.fragments, Rendered.asFragment, Rendered.joinFragments, Text.escapeAttribute]

theorem continuesName_of_isNameChar {c : Char} (h : isNameChar c = true) : continuesName c = true := by
  unfold isNameChar at h
  unfold continuesName
  grind

/-- What stands after an attribute ends its name, and is no value of it. -/
theorem readValue_writeAttributes (as : List Attr) :
    (∀ c ∈ (writeAttributes as).head?, continuesName c = false) ∧
      readValue (writeAttributes as) = some (none, writeAttributes as) := by
  cases as with
  | nil => exact ⟨by simp [writeAttributes], rfl⟩
  | cons a as => exact ⟨by simp [writeAttributes, Attr.write, continuesName], rfl⟩

/-- Proper attributes are read back from what they are written as. -/
theorem readAttributeList_write {as : List Attr} (has : ∀ a ∈ as, a.Proper) :
    readAttributeList (writeAttributes as) = some as := by
  induction as with
  | nil =>
    rw [writeAttributes, List.flatMap_nil, readAttributeList]
  | cons a as ih =>
    rw [List.forall_mem_cons] at has
    obtain ⟨⟨hname, hvalue⟩, hrest⟩ := has
    obtain ⟨name, value⟩ := a
    have hrun : ∀ c ∈ name, continuesName c = true := fun c hc =>
      continuesName_of_isNameChar (hname.2 c hc)
    cases value with
    | none =>
      obtain ⟨hends, hread⟩ := readValue_writeAttributes as
      obtain ⟨htake, hdrop⟩ := span_append hrun hends
      have htext : writeAttributes (⟨name, none⟩ :: as) = ' ' :: (name ++ writeAttributes as) := by
        simp [writeAttributes, Attr.write]
      rw [htext, readAttributeList, htake, hdrop, hread]
      simp [ih hrest]
    | some value =>
      have hends : ∀ c ∈ ('=' :: '\'' :: value ++ '\'' :: writeAttributes as).head?,
          continuesName c = false := by simp [continuesName]
      obtain ⟨htake, hdrop⟩ := span_append hrun hends
      have htext : writeAttributes (⟨name, some value⟩ :: as) =
          ' ' :: (name ++ ('=' :: '\'' :: value ++ '\'' :: writeAttributes as)) := by
        simp [writeAttributes, Attr.write]
      rw [htext, readAttributeList, htake, hdrop, readValue_append (hvalue value rfl)]
      simp [ih hrest]

theorem write_ok {r : Rendered} (h : r.fragments.length ≤ 1) (name : String) :
    ∃ text, Attribute.write name r = .ok text := by
  match r, h with
  | .one _, _ => exact ⟨_, rfl⟩
  | .many [], _ => exact ⟨_, rfl⟩
  | .many [_], _ => exact ⟨_, rfl⟩

theorem writeAll_ok {entries : List (String × Rendered)}
    (h : ∀ e ∈ entries, e.2.fragments.length ≤ 1) : ∃ text, writeAll entries = .ok text := by
  induction entries with
  | nil => exact ⟨_, rfl⟩
  | cons e rest ih =>
    rw [List.forall_mem_cons] at h
    obtain ⟨first, hfirst⟩ := write_ok h.1 e.1
    obtain ⟨others, hothers⟩ := ih h.2
    exact ⟨" " ++ first ++ others, by rw [writeAll, hfirst, ok_bind, hothers]; rfl⟩

theorem writeAll_error {before : List (String × Rendered)} {name : String} {r : Rendered}
    {after : List (String × Rendered)} (hbefore : ∀ e ∈ before, e.2.fragments.length ≤ 1)
    (hr : 1 < r.fragments.length) :
    writeAll (before ++ (name, r) :: after) =
      .error ⟨.attribute (attributeName name) (.severalValues r.fragments.length), none⟩ := by
  induction before with
  | nil =>
    match r, hr with
    | .many (_ :: _ :: _), _ => rfl
  | cons e rest ih =>
    rw [List.forall_mem_cons] at hbefore
    obtain ⟨first, hfirst⟩ := write_ok hbefore.1 e.1
    rw [List.cons_append, writeAll, hfirst, ok_bind, ih hbefore.2]
    rfl

/-- Named values are refused if one of them has several fragments, and then the first one of these is
reported under the name of its attribute. Otherwise a reader finds an attribute for each of them, in their
order: without a value where there is no fragment, and with the escaped text of the fragment else. -/
theorem readAttributeList_writeAll {entries : List (String × Rendered)}
    (hnames : ∀ e ∈ entries, Text.isIdentifier e.1 = true) :
    ((∃ error, writeAll entries = .error error) ↔ ∃ e ∈ entries, 1 < e.2.fragments.length) ∧
    (∀ error, writeAll entries = .error error → ∃ before name values after,
      entries = before ++ (name, .many values) :: after ∧
        (∀ e ∈ before, e.2.fragments.length ≤ 1) ∧ 1 < values.length ∧
        error = ⟨.attribute (attributeName name) (.severalValues values.length), none⟩) ∧
    ∀ text, writeAll entries = .ok text →
      readAttributeList text.toList = some (entries.map fun e => item e.1 e.2) := by
  obtain hsingle | ⟨before, ⟨name, r⟩, after, rfl, hbefore, hseveral⟩ :=
    Rendered.forall_single_or_first_several Prod.snd entries
  · obtain ⟨text, htext⟩ := writeAll_ok hsingle
    have hitems : (entries.map fun e => attr e.1 e.2) = entries.map fun e => item e.1 e.2 :=
      List.map_congr_left fun e he => attr_eq_item (hsingle e he) e.1
    have hproper : ∀ a ∈ entries.map fun e => attr e.1 e.2, a.Proper := by
      intro a ha
      obtain ⟨e, he, rfl⟩ := List.mem_map.mp ha
      exact proper_attr (hnames e he) e.2
    refine ⟨⟨?_, ?_⟩, ?_, ?_⟩
    · rintro ⟨error, herror⟩
      cases htext.symm.trans herror
    · rintro ⟨e, he, hlong⟩
      exact absurd (hsingle e he) (Nat.not_le.mpr hlong)
    · intro error herror
      cases htext.symm.trans herror
    · intro own hown
      rw [toList_writeAll hown, readAttributeList_write hproper, hitems]
  · have herror : writeAll (before ++ (name, r) :: after) =
        .error ⟨.attribute (attributeName name) (.severalValues r.fragments.length), none⟩ :=
      writeAll_error hbefore hseveral
    refine ⟨⟨fun _ => ⟨(name, r), by simp, hseveral⟩, fun _ => ⟨_, herror⟩⟩, ?_, ?_⟩
    · intro error hown
      match r, hseveral with
      | .many values, hseveral =>
        exact ⟨before, name, values, after, rfl, hbefore, hseveral,
          Except.error.inj (hown.symm.trans herror)⟩
    · intro text hown
      cases herror.symm.trans hown

/-- A value with the delimiters in its text, an absent one and an empty one; and two fragments at once. -/
theorem readAttributeList_writeAll_quotes :
    let entries : List (String × Rendered) :=
      [("class_", .one ⟨"a b='c'\n"⟩), ("hidden", .many []), ("data_id", .many [⟨""⟩])]
    let written := " class='a b=&#39;c&#39;&#10;' hidden data-id=''"
    let pair : String × Rendered := ("for_", .many [⟨"a"⟩, ⟨"b"⟩])
    (∀ e ∈ pair :: entries, Text.isIdentifier e.1 = true) ∧ writeAll entries = .ok written ∧
      readAttributeList written.toList = some [⟨"class".toList, some "a b=&#39;c&#39;&#10;".toList⟩,
        ⟨"hidden".toList, none⟩, ⟨"data-id".toList, some []⟩] ∧
      ∃ error, writeAll (pair :: entries) = .error error := by
  intro entries written pair
  have hnames : ∀ e ∈ pair :: entries, Text.isIdentifier e.1 = true := by decide +kernel
  obtain ⟨-, -, hread⟩ := readAttributeList_writeAll (List.forall_mem_cons.mp hnames).2
  obtain ⟨hrefused, -⟩ := readAttributeList_writeAll hnames
  have hwritten : writeAll entries = .ok written := toOption_eq_some.mp (by decide +kernel)
  exact ⟨hnames, hwritten, hread written hwritten, hrefused.mpr ⟨pair, by simp, by decide⟩⟩

end ExprMarkup.Markup
