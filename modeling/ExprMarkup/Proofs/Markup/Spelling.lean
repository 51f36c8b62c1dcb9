import ExprMarkup.Proofs.Markup.ReadBack
import ExprMarkup.Proofs.Rendering.Parallel

namespace ExprMarkup.Markup

/-- The text with `>` for each ` />`. -/
def shorten : List Char → List Char
  | ' ' :: '/' :: '>' :: rest => '>' :: shorten rest
  | c :: rest => c :: shorten rest
  | [] => []

/-- Neither ends a tag nor stands before its end in the long spelling. -/
def IsInner (c : Char) : Prop := c ≠ '/' ∧ c ≠ '>'

/-- A text whose tags are complete, and the same text in the short spelling. A tag is followed up to the
character before its end, so that no text begins with an end. -/
inductive Shortens : List Char → List Char → Prop
  | nil : Shortens [] []
  | char {c : Char} {a b : List Char} (hc : c ≠ '>') (h : Shortens a b) : Shortens (c :: a) (c :: b)
  | close {c : Char} {a b : List Char} (hc : IsInner c) (h : Shortens a b) :
      Shortens (c :: '>' :: a) (c :: '>' :: b)
  | void {c : Char} {a b : List Char} (hc : IsInner c) (h : Shortens a b) :
      Shortens (c :: ' ' :: '/' :: '>' :: a) (c :: '>' :: b)

namespace Shortens

variable {a b a' b' : List Char}

theorem append (h : Shortens a b) (h' : Shortens a' b') : Shortens (a ++ a') (b ++ b') := by
  induction h with
  | nil => exact h'
  | char hc _ ih => exact .char hc ih
  | close hc _ ih => exact .close hc ih
  | void hc _ ih => exact .void hc ih

/-- A text without ends of tags has only one spelling. -/
theorem of_not_mem {text : List Char} (h : '>' ∉ text) : Shortens text text := by
  induction text with
  | nil => exact .nil
  | cons c rest ih =>
    rw [List.mem_cons, not_or] at h
    exact .char (Ne.symm h.1) (ih h.2)

theorem head_ne (h : Shortens a b) : (∀ rest, a ≠ '>' :: rest) ∧ ∀ rest, b ≠ '>' :: rest := by
  cases h with
  | nil => simp
  | char hc _ => simp [hc]
  | close hc _ => simp [hc.2]
  | void hc _ => simp [hc.2]

/-- A text with complete tags does not go on in the middle of an end. -/
theorem slash_ne (h : Shortens a b) (rest : List Char) : a ≠ '/' :: '>' :: rest := by
  cases h with
  | nil => simp
  | @char c a b hc h =>
    intro heq
    obtain ⟨-, hrest⟩ := List.cons.inj heq
    exact h.head_ne.1 rest hrest
  | close hc _ => simp [hc.1]
  | void hc _ => simp [hc.1]

theorem shorten_eq (h : Shortens a b) : shorten a = b := by
  induction h with
  | nil => rfl
  | @char c a b hc h ih =>
    rw [shorten, ih]
    intro rest _ heq
    exact h.slash_ne rest heq
  | @close c a b hc h ih => simp [shorten, ih]
  | @void c a b hc h ih => simp [shorten, ih]

/-- In the short spelling no end of a tag has a slash before it. -/
theorem slash_not_infix (h : Shortens a b) : ¬['/', '>'] <:+: b := by
  induction h with
  | nil => simp
  | @char c a b hc h ih =>
    rw [List.infix_cons_iff, not_or]
    refine ⟨?_, ih⟩
    rintro ⟨rest, heq⟩
    obtain ⟨-, hrest⟩ := List.cons.inj heq
    exact h.head_ne.2 rest hrest.symm
  | @close c a b hc h ih => simp [List.infix_cons_iff, ih, hc.1.symm]
  | @void c a b hc h ih => simp [List.infix_cons_iff, ih, hc.1.symm]

end Shortens

/-- Two texts up to the end of a tag, the last character included. -/
def ShortensOpen (a b : List Char) : Prop :=
  ∃ a' b' c, a = a' ++ [c] ∧ b = b' ++ [c] ∧ Shortens a' b' ∧ IsInner c

namespace ShortensOpen

variable {a b a' b' : List Char}

theorem append_left (h : Shortens a' b') (hopen : ShortensOpen a b) :
    ShortensOpen (a' ++ a) (b' ++ b) := by
  obtain ⟨a, b, c, rfl, rfl, hab, hc⟩ := hopen
  exact ⟨a' ++ a, b' ++ b, c, (List.append_assoc _ _ _).symm, (List.append_assoc _ _ _).symm,
    h.append hab, hc⟩

theorem shortens (h : ShortensOpen a b) : Shortens a b := by
  obtain ⟨a, b, c, rfl, rfl, hab, hc⟩ := h
  exact hab.append (.char hc.2 .nil)

theorem close (h : ShortensOpen a b) : Shortens (a ++ ['>']) (b ++ ['>']) := by
  obtain ⟨a, b, c, rfl, rfl, hab, hc⟩ := h
  have hend : Shortens [c, '>'] [c, '>'] := .close hc .nil
  simpa using hab.append hend

theorem void (h : ShortensOpen a b) : Shortens (a ++ [' ', '/', '>']) (b ++ ['>']) := by
  obtain ⟨a, b, c, rfl, rfl, hab, hc⟩ := h
  have hend : Shortens [c, ' ', '/', '>'] [c, '>'] := .void hc .nil
  simpa using hab.append hend

theorem single {c : Char} (hc : IsInner c) : ShortensOpen [c] [c] := ⟨[], [], c, rfl, rfl, .nil, hc⟩

/-- A name can stand before any end of a tag. -/
theorem of_isName {name : List Char} (h : IsName name) : ShortensOpen name name := by
  obtain ⟨hne, hall⟩ := h
  have hinner : ∀ c ∈ name, IsInner c := by
    intro c hc
    have hchar := hall c hc
    constructor
    · intro heq
      rw [heq] at hchar
      exact absurd hchar (by decide)
    · intro heq
      rw [heq] at hchar
      exact absurd hchar (by decide)
  have hinit : '>' ∉ name.dropLast := fun hmem =>
    (hinner '>' ((List.dropLast_sublist name).mem hmem)).2 rfl
  exact ⟨name.dropLast, name.dropLast, name.getLast hne, (List.dropLast_append_getLast hne).symm,
    (List.dropLast_append_getLast hne).symm, .of_not_mem hinit, hinner _ (List.getLast_mem hne)⟩

end ShortensOpen

theorem shortensOpen_attributeSpecial {c : Char} (hc : IsInner c) :
    ShortensOpen ((Text.attributeSpecial c).getD [c]) ((Text.attributeSpecial c).getD [c]) := by
  have hreference : ∀ w : List Char, '>' ∉ w → ShortensOpen (w ++ [';']) (w ++ [';']) := by
    intro w hw
    exact ShortensOpen.append_left (.of_not_mem hw) (.single ⟨by decide, by decide⟩)
  unfold Text.attributeSpecial
  split
  · exact hreference ['&', '#', '3', '9'] (by decide)
  · exact hreference ['&', 'q', 'u', 'o', 't'] (by decide)
  · exact hreference ['&', '#', '1', '3'] (by decide)
  · exact hreference ['&', '#', '1', '0'] (by decide)
  · exact .single hc

/-- What is nested in an attribute keeps its two spellings. -/
theorem Shortens.escapeAttribute {a b : List Char} (h : Shortens a b) :
    Shortens (Text.escapeChars Text.attributeSpecial a) (Text.escapeChars Text.attributeSpecial b) := by
  induction h with
  | nil => exact .nil
  | @char c a b hc h ih =>
    rw [Text.escapeChars_cons, Text.escapeChars_cons]
    by_cases hslash : c = '/'
    · subst hslash
      exact .char (by decide) ih
    · exact (shortensOpen_attributeSpecial ⟨hslash, hc⟩).shortens.append ih
  | @close c a b hc h ih =>
    have hopen := (shortensOpen_attributeSpecial hc).close.append ih
    simpa [Text.attributeSpecial] using hopen
  | @void c a b hc h ih =>
    have hopen := (shortensOpen_attributeSpecial hc).void.append ih
    simpa [Text.attributeSpecial] using hopen

/-- The fragments of a value in the two spellings. -/
inductive ShortensValue : Rendered → Rendered → Prop
  | one {f f' : Fragment} (h : Shortens f.text.toList f'.text.toList) : ShortensValue (.one f) (.one f')
  | many {fs fs' : List Fragment}
      (h : List.Forall₂ (fun f f' => Shortens f.text.toList f'.text.toList) fs fs') :
      ShortensValue (.many fs) (.many fs')

namespace ShortensValue

theorem asFragment {r r' : Rendered} (h : ShortensValue r r') :
    Shortens r.asFragment.text.toList r'.asFragment.text.toList := by
  rw [toList_asFragment, toList_asFragment]
  cases h with
  | one h => simpa [Rendered.fragments] using h
  | @many fs fs' h =>
    rw [Rendered.fragments, Rendered.fragments]
    induction h with
    | nil => exact .nil
    | cons hfirst _ ih => exact hfirst.append ih

theorem concat {rs rs' : List Rendered} (h : List.Forall₂ ShortensValue rs rs') :
    Shortens (Rendered.concat rs).text.toList (Rendered.concat rs').text.toList := by
  induction h with
  | nil => exact .nil
  | cons hfirst _ ih =>
    rw [toList_concat_cons, toList_concat_cons]
    exact hfirst.asFragment.append ih

/-- A value without any end of a tag has only one spelling. -/
theorem of_not_mem {r : Rendered} (h : '>' ∉ r.asFragment.text.toList) : ShortensValue r r := by
  rw [toList_asFragment] at h
  have hparts : ∀ f ∈ r.fragments, '>' ∉ f.text.toList :=
    fun f hf hmem => h (List.mem_flatMap.mpr ⟨f, hf, hmem⟩)
  cases r with
  | one f => exact .one (.of_not_mem (hparts f (by simp [Rendered.fragments])))
  | many fs => exact .many (List.forall₂_same.mpr fun f hf => .of_not_mem (hparts f hf))

end ShortensValue

theorem write_matches {name : String} {r r' : Rendered} (hname : Text.isIdentifier name = true)
    (h : ShortensValue r r') :
    Matches Eq (fun s s' => ShortensOpen s.toList s'.toList) (Attribute.write name r)
      (Attribute.write name r') := by
  have hbare := ShortensOpen.of_isName (isName_attributeName hname)
  have hquoted : ∀ f f' : Fragment, Shortens f.text.toList f'.text.toList →
      ShortensOpen (Attribute.quotedValue name f).toList (Attribute.quotedValue name f').toList := by
    intro f f' hf
    have hstart : Shortens ['=', '\''] ['=', '\''] := .of_not_mem (by decide)
    have hend : ShortensOpen ['\''] ['\''] := .single ⟨by decide, by decide⟩
    have hwhole := hend.append_left ((hbare.shortens.append hstart).append hf.escapeAttribute)
    simpa [Attribute.quotedValue, Text.escapeAttribute] using hwhole
  cases h with
  | one hf => exact .ok (hquoted _ _ hf)
  | many hfs =>
    cases hfs with
    | nil => exact .ok hbare
    | cons hf hrest =>
      cases hrest with
      | nil => exact .ok (hquoted _ _ hf)
      | cons hsecond hmore =>
        simp only [Attribute.write, List.length_cons, hmore.length_eq]
        exact .error rfl

/-- Attributes go on with a tag that is not yet at its end. -/
theorem writeAll_matches {attributes attributes' : List (String × Rendered)} {a b : List Char}
    (hab : ShortensOpen a b) (hnames : ∀ name ∈ attributes.map Prod.fst, Text.isIdentifier name = true)
    (h : List.Forall₂ (UnderOneName ShortensValue) attributes attributes') :
    Matches Eq (fun s s' => ShortensOpen (a ++ s.toList) (b ++ s'.toList))
      (Attribute.writeAll attributes) (Attribute.writeAll attributes') := by
  induction h generalizing a b with
  | nil =>
    apply Matches.ok
    simpa using hab
  | @cons e e' rest rest' hfirst hrest ih =>
    obtain ⟨name, r⟩ := e
    obtain ⟨name', r'⟩ := e'
    obtain ⟨hname, hr⟩ := hfirst
    obtain rfl : name = name' := hname
    rw [List.map_cons, List.forall_mem_cons] at hnames
    rw [Attribute.writeAll, Attribute.writeAll]
    refine (write_matches hnames.1 hr).bind fun s s' hs => ?_
    have hspace : Shortens [' '] [' '] := .of_not_mem (by decide)
    have hnext := hs.append_left (hab.shortens.append hspace)
    refine (ih hnext hnames.2).bind fun others others' hothers => ?_
    apply Matches.ok
    simpa using hothers

theorem container_parallels {tag : String} {names : List String} (htag : IsName tag.toList)
    (hnames : ∀ name ∈ names, Text.isIdentifier name = true) :
    (Renderer.container tag).Parallels ShortensValue names (.container tag) := by
  intro children children' attributes attributes' hchildren hattributes hkeys
  have hlt : Shortens ['<'] ['<'] := .of_not_mem (by decide)
  have hslash : Shortens ['<', '/'] ['<', '/'] := .of_not_mem (by decide)
  have hstart := (ShortensOpen.of_isName htag).append_left hlt
  have hend := ((ShortensOpen.of_isName htag).append_left hslash).close
  have hrun : Matches Eq (fun f f' => ShortensValue (.one f) (.one f'))
      (Renderer.runContainer tag children attributes)
      (Renderer.runContainer tag children' attributes') := by
    refine (writeAll_matches hstart (hkeys ▸ hnames) hattributes).bind fun written written' hopen => ?_
    apply Matches.ok
    apply ShortensValue.one
    have hwhole := (hopen.close.append (ShortensValue.concat hchildren)).append hend
    simpa [Renderer.element] using hwhole
  refine Matches.and_left (hrun.mapError fun e e' he => congrArg Failure.error he) fun f hf => ?_
  exact Renderer.isRaised_of_run (by rintro label own ⟨⟩) hf

theorem leaf_parallels {tag : String} {names : List String} (htag : IsName tag.toList)
    (hnames : ∀ name ∈ names, Text.isIdentifier name = true) :
    (Renderer.leaf tag true).Parallels ShortensValue names (.leaf tag false) := by
  intro children children' attributes attributes' hchildren hattributes hkeys
  have hlt : Shortens ['<'] ['<'] := .of_not_mem (by decide)
  have hstart := (ShortensOpen.of_isName htag).append_left hlt
  have hrun : Matches Eq (fun f f' => ShortensValue (.one f) (.one f'))
      (Renderer.runLeaf tag true children attributes)
      (Renderer.runLeaf tag false children' attributes') := by
    cases hchildren with
    | nil =>
      refine (writeAll_matches hstart (hkeys ▸ hnames) hattributes).bind fun written written' hopen => ?_
      apply Matches.ok
      apply ShortensValue.one
      simpa using hopen.void
    | cons hfirst hrest => exact .error rfl
  refine Matches.and_left (hrun.mapError fun e e' he => congrArg Failure.error he) fun f hf => ?_
  exact Renderer.isRaised_of_run (by rintro label own ⟨⟩) hf

theorem escape_matches (value : Literal) :
    Matches Eq ShortensValue (value.toValue.escape Text.escapeHtml)
      (value.toValue.escape Text.escapeHtml) := by
  refine .refl (fun _ _ => rfl) fun r hr => ?_
  have hstands : Stands r (.literal value none) := stands_literal hr
  apply ShortensValue.of_not_mem
  rw [hstands.text, pieces, write_data_text]
  exact bracket_not_mem_escapeHtml (.inr rfl) _

/-- The dialect with ` />` and the one with `>` write every tree in parallel. -/
theorem html_parallels {config : Config} {t : Tree} (ht : t.WellFormed) :
    Dialect.html.Parallels ShortensValue (Dialect.html none none false) config t where
  literal value _ _ := escape_matches value
  symbol name location hn := by
    have hname := Tree.wellFormed_of_mem_preorder ht hn
    rw [Tree.WellFormed] at hname
    apply ShortensValue.one
    rw [symbolText_html true hname, symbolText_html false hname]
    exact .of_not_mem (bracket_not_mem_symbolText (.inr rfl) hname)
  call head args named location hn := by
    have hcall := Tree.wellFormed_of_mem_preorder ht hn
    rw [Tree.WellFormed, Tree.namedWellFormed_iff] at hcall
    obtain ⟨hhead, -, -, hnamed⟩ := hcall
    have hnames : ∀ name ∈ named.map Prod.fst, Text.isIdentifier name = true := by
      intro name hname
      obtain ⟨e, he, rfl⟩ := List.mem_map.mp hname
      exact (hnamed e he).1
    rw [rendererFor_html, rendererFor_html]
    split
    · exact leaf_parallels (isName_of_isIdentifier hhead) hnames
    · exact container_parallels (isName_elementTag hhead) hnames

/-- A tree renders in both spellings or in none. If it does, the short text is the long one with `>` for
each ` />`, and no ` />` is left in it. If it does not, both renderings fail with one error. -/
theorem renderText_shortens {config : Config} {t : Tree} (ht : t.WellFormed) :
    (∃ f, (Interpret.renderText Dialect.html config t).result = .error f ∧
        (Interpret.renderText (Dialect.html none none false) config t).result = .error f) ∨
      ∃ text text', (Interpret.renderText Dialect.html config t).result = .ok text ∧
        (Interpret.renderText (Dialect.html none none false) config t).result = .ok text' ∧
        text'.toList = shorten text.toList ∧ ¬[' ', '/', '>'] <:+: text'.toList := by
  have hparallel : Dialect.html.Parallels ShortensValue (Dialect.html none none false) config t :=
    html_parallels ht
  have hmatches := Interpret.renderText_matches rfl hparallel
  generalize (Interpret.renderText Dialect.html config t).result = x at hmatches ⊢
  generalize (Interpret.renderText (Dialect.html none none false) config t).result = x' at hmatches ⊢
  cases hmatches with
  | @error f f' hfailures =>
    obtain rfl := hfailures.eq_of_self
    exact .inl ⟨f, rfl, rfl⟩
  | ok htexts =>
    obtain ⟨r, r', hr, rfl, rfl⟩ := htexts
    have hshortens := hr.asFragment
    refine .inr ⟨_, _, rfl, rfl, hshortens.shorten_eq.symm, ?_⟩
    intro hinfix
    have hslash : ['/', '>'] <:+: [' ', '/', '>'] := ⟨[' '], [], rfl⟩
    exact hshortens.slash_not_infix (hslash.trans hinfix)

/-- Slashes before the ends of texts and of attributes, and a void tag in an attribute of another. -/
def slashes : Tree :=
  .call "p" [.literal (.scalar (.text " />")) none,
      .call "br" [] [("title", .call "img" [] [("alt", .literal (.scalar (.text "a /")) none)] none)] none,
      .literal (.scalar (.text "x /")) none]
    [("data", .literal (.scalar (.text "/")) none)] none

theorem renderText_shortens_slashes :
    slashes.WellFormed ∧
      (Interpret.renderText Dialect.html Config.default slashes).result =
        .ok "<p data='/'> /&gt;<br title='<img alt=&#39;a /&#39; />' />x /</p>" ∧
      (Interpret.renderText (Dialect.html none none false) Config.default slashes).result =
        .ok "<p data='/'> /&gt;<br title='<img alt=&#39;a /&#39;>'>x /</p>" := by
  have hwell : slashes.WellFormed := by
    simp only [slashes, Tree.WellFormed, Tree.AllWellFormed, Tree.NamedWellFormed]
    decide
  have hlong : (Interpret.renderText Dialect.html Config.default slashes).result =
      .ok "<p data='/'> /&gt;<br title='<img alt=&#39;a /&#39; />' />x /</p>" :=
    toOption_eq_some.mp (by rw [html_eq_mk]; decide +kernel)
  refine ⟨hwell, hlong, ?_⟩
  rcases renderText_shortens hwell with ⟨f, hfails, -⟩ | ⟨text, text', htext, htext', heq, -⟩
  · rw [hlong] at hfails
    cases hfails
  · obtain rfl := Except.ok.inj (hlong.symm.trans htext)
    have hshort : text' = "<p data='/'> /&gt;<br title='<img alt=&#39;a /&#39;>'>x /</p>" :=
      String.toList_inj.mp (heq.trans (by decide))
    rw [← hshort]
    exact htext'

end ExprMarkup.Markup
