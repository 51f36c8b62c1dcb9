import Mathlib.Data.List.Nodup
import ExprMarkup.Proofs.Markup.ReadBack

namespace ExprMarkup

namespace Attribute

/-- Whether the last character is an underscore. -/
def EndsLow (name : List Char) : Prop := ∃ before, name = before ++ ['_']

/-- The other name is this one with an underscore after it. One that is dropped from this name itself
tells the two apart again, so that this name has none at its end, or is nothing else. -/
def Respells (name other : List Char) : Prop := other = name ++ ['_'] ∧ (name = ['_'] ∨ ¬EndsLow name)

/-- The name without the underscore that is dropped. -/
def body (name : List Char) : List Char :=
  if 1 < name.length && name.getLast? == some '_' then name.dropLast else name

theorem nameChars_eq (name : List Char) :
    nameChars name = (body name).map fun c => if c == '_' then '-' else c := rfl

theorem body_append {before : List Char} (h : before ≠ []) : body (before ++ ['_']) = before := by
  have hlong : 1 < (before ++ ['_']).length := by
    have hpos : 0 < before.length := List.length_pos_iff.mpr h
    rw [List.length_append, List.length_singleton]
    omega
  have hlast : (before ++ ['_']).getLast? = some '_' := by
    rw [List.getLast?_append]
    rfl
  simp [body, hlast, List.length_pos_iff.mpr h]

theorem body_of_not_endsLow {name : List Char} (h : ¬EndsLow name) : body name = name := by
  have hlast : ¬name.getLast? = some '_' := by
    intro hlast
    exact h (List.getLast?_eq_some_iff.mp hlast)
  simp [body, hlast]

theorem body_low : body ['_'] = ['_'] := rfl

/-- A name is its own body, or has an underscore after it. -/
theorem body_cases (name : List Char) :
    body name = name ∧ (name = ['_'] ∨ ¬EndsLow name) ∨ name = body name ++ ['_'] ∧ body name ≠ [] := by
  by_cases hends : EndsLow name
  · obtain ⟨before, rfl⟩ := hends
    by_cases hbefore : before = []
    · subst hbefore
      exact .inl ⟨rfl, .inl rfl⟩
    · rw [body_append hbefore]
      exact .inr ⟨rfl, hbefore⟩
  · exact .inl ⟨body_of_not_endsLow hends, .inr hends⟩

/-- Two names have one body if they are the same or one is the other with an underscore after it. -/
theorem body_eq_iff {name other : List Char} (hname : name ≠ []) (hother : other ≠ []) :
    body name = body other ↔ name = other ∨ Respells name other ∨ Respells other name := by
  have hlonger : ∀ {short long : List Char}, short ≠ [] → Respells short long →
      body short = body long := by
    intro short long hne hlong
    obtain ⟨rfl, hshort⟩ := hlong
    rw [body_append hne]
    obtain rfl | hends := hshort
    · exact body_low
    · exact body_of_not_endsLow hends
  constructor
  · intro h
    obtain ⟨hsame, hshort⟩ | ⟨hlong, -⟩ := body_cases name
    · obtain ⟨hsame', -⟩ | ⟨hlong', -⟩ := body_cases other
      · exact .inl (hsame.symm.trans (h.trans hsame'))
      · rw [← h, hsame] at hlong'
        exact .inr (.inl ⟨hlong', hshort⟩)
    · obtain ⟨hsame', hshort'⟩ | ⟨hlong', -⟩ := body_cases other
      · rw [h, hsame'] at hlong
        exact .inr (.inr ⟨hlong, hshort'⟩)
      · exact .inl (hlong.trans (h ▸ hlong'.symm))
  · intro h
    obtain rfl | h | h := h
    · rfl
    · exact hlonger hname h
    · exact (hlonger hother h).symm

/-- Hyphens only come from underscores, where there are none. -/
theorem map_hyphen_inj {a b : List Char} (ha : '-' ∉ a) (hb : '-' ∉ b) :
    (a.map fun c => if c == '_' then '-' else c) = (b.map fun c => if c == '_' then '-' else c) ↔
      a = b := by
  constructor
  · intro h
    induction a generalizing b with
    | nil => exact (List.map_eq_nil_iff.mp h.symm).symm
    | cons c rest ih =>
      cases b with
      | nil => cases h
      | cons c' rest' =>
        rw [List.mem_cons, not_or] at ha hb
        obtain ⟨hfirst, hrest⟩ := List.cons.inj h
        have hc : c = c' := by
          by_cases hlow : c = '_'
          · by_cases hlow' : c' = '_'
            · rw [hlow, hlow']
            · simp only [hlow, beq_self_eq_true, if_true, beq_iff_eq, hlow', if_false] at hfirst
              exact absurd hfirst hb.1
          · by_cases hlow' : c' = '_'
            · simp only [hlow', beq_self_eq_true, if_true, beq_iff_eq, hlow, if_false] at hfirst
              exact absurd hfirst.symm ha.1
            · simpa only [beq_iff_eq, hlow, hlow', if_false] using hfirst
        rw [hc, ih ha.2 hb.2 hrest]
  · rintro rfl
    rfl

theorem body_subset (name : List Char) : ∀ c ∈ body name, c ∈ name := by
  intro c hc
  obtain ⟨hsame, -⟩ | ⟨hlong, -⟩ := body_cases name
  · rwa [hsame] at hc
  · rw [hlong]
    exact List.mem_append_left _ hc

/-- Identifiers that are written alike as attributes. -/
theorem attributeName_eq_iff {name other : String} (hname : Text.isIdentifier name = true)
    (hother : Text.isIdentifier other = true) :
    attributeName name = attributeName other ↔
      name = other ∨ Respells name.toList other.toList ∨ Respells other.toList name.toList := by
  have hhyphen : ∀ {s : String}, Text.isIdentifier s = true → '-' ∉ body s.toList := by
    intro s hs hmem
    have hchar := (Text.isNameChar_of_isIdentifier hs).2 '-' (body_subset _ _ hmem)
    exact absurd hchar (by decide)
  have hnames : attributeName name = attributeName other ↔
      nameChars name.toList = nameChars other.toList := by
    rw [attributeName, attributeName, ← String.toList_inj, String.toList_ofList, String.toList_ofList]
  rw [hnames, nameChars_eq, nameChars_eq, map_hyphen_inj (hhyphen hname) (hhyphen hother),
    body_eq_iff (Text.isNameChar_of_isIdentifier hname).1 (Text.isNameChar_of_isIdentifier hother).1,
    String.toList_inj]

/-- Different names are written as different attributes, unless one is another one with an underscore
after it. -/
theorem nodup_attributeNames_iff {names : List String} (hnodup : names.Nodup)
    (hnames : ∀ name ∈ names, Text.isIdentifier name = true) :
    (names.map fun name => (attributeName name).toList).Nodup ↔
      ∀ name ∈ names, ∀ other ∈ names, ¬Respells name.toList other.toList := by
  rw [List.nodup_map_iff_inj_on hnodup]
  constructor
  · intro hinjective name hname other hother hrespells
    have hsame : attributeName name = attributeName other :=
      (attributeName_eq_iff (hnames name hname) (hnames other hother)).mpr (.inr (.inl hrespells))
    have heq : name = other := hinjective name hname other hother (congrArg String.toList hsame)
    rw [heq] at hrespells
    have hlength := congrArg List.length hrespells.1
    rw [List.length_append, List.length_singleton] at hlength
    omega
  · intro hdistinct name hname other hother hsame
    obtain heq | hrespells | hrespells :=
      (attributeName_eq_iff (hnames name hname) (hnames other hother)).mp (String.toList_inj.mp hsame)
    · exact heq
    · exact absurd hrespells (hdistinct name hname other hother)
    · exact absurd hrespells (hdistinct other hother name hname)

end Attribute

namespace Renderer

/-- The tag of an element. -/
def tag? : Renderer → Option String
  | .container tag => some tag
  | .leaf tag _ => some tag
  | _ => none

end Renderer

namespace Markup

/-- What the attribute of a name and a value is read as. -/
def attr (name : String) (r : Rendered) : Attr :=
  ⟨(Attribute.attributeName name).toList,
    if r = .many [] then none else some (Text.escapeChars Text.attributeSpecial r.asFragment.text.toList)⟩

theorem name_attr (name : String) (r : Rendered) :
    (attr name r).name = (Attribute.attributeName name).toList := by
  rw [attr]

theorem toList_write {name s : String} {r : Rendered} (h : Attribute.write name r = .ok s) :
    ' ' :: s.toList = (attr name r).write := by
  have hquoted : ∀ f, r ≠ .many [] → r.asFragment = f → Attribute.quotedValue name f = s →
      ' ' :: s.toList = (attr name r).write := by
    intro f hne hf hs
    subst hf hs
    simp [attr, hne, Attr.write, Attribute.quotedValue, Text.escapeAttribute]
  unfold Attribute.write at h
  split at h
  · next f => exact hquoted f (by simp) rfl (Except.ok.inj h)
  · obtain rfl : Attribute.attributeName name = s := Except.ok.inj h
    simp [attr, Attr.write]
  · next f => exact hquoted f (by simp) rfl (Except.ok.inj h)
  · cases h

theorem toList_writeAll {named : List (String × Rendered)} {s : String}
    (h : Attribute.writeAll named = .ok s) :
    s.toList = writeAttributes (named.map fun e => attr e.1 e.2) := by
  induction named generalizing s with
  | nil =>
    cases h
    rfl
  | cons e rest ih =>
    obtain ⟨name, r⟩ := e
    obtain ⟨first, hfirst, h⟩ := bind_eq_ok.mp h
    obtain ⟨others, hothers, h⟩ := bind_eq_ok.mp h
    obtain rfl := pure_eq_ok.mp h
    have hcons : writeAttributes (((name, r) :: rest).map fun e => attr e.1 e.2) =
        (attr name r).write ++ writeAttributes (rest.map fun e => attr e.1 e.2) := rfl
    rw [hcons, ← toList_write hfirst, ← ih hothers]
    simp

theorem proper_attr {name : String} (hname : Text.isIdentifier name = true) (r : Rendered) :
    (attr name r).Proper := by
  refine Attr.proper_mk (isName_attributeName hname) ?_
  intro value hvalue
  split at hvalue
  · cases hvalue
  · obtain rfl := Option.mem_some.mp hvalue
    exact quote_not_mem_escapeAttribute _

/-- An element begins with its tag: the name, the attributes and the end of the tag. -/
theorem tag_of_run {r : Renderer} {tag : String} (htag : r.tag? = some tag) {children : List Rendered}
    {named : List (String × Rendered)} {f : Fragment} (h : r.run children named = .ok f) :
    ∃ written after, Attribute.writeAll named = .ok written ∧ Ends after ∧
      f.text.toList = '<' :: tag.toList ++ (written.toList ++ after) := by
  cases r with
  | container own =>
    obtain rfl : own = tag := Option.some.inj htag
    obtain ⟨written, hwritten, htext⟩ := runContainer_ok h
    refine ⟨written, '>' :: ((Rendered.concat children).text.toList ++ '<' :: '/' :: own.toList ++ ['>']),
      hwritten, .inl ⟨_, rfl⟩, ?_⟩
    rw [htext]
    simp
  | leaf own selfClosing =>
    obtain rfl : own = tag := Option.some.inj htag
    have hempty : children = [] := by
      cases children with
      | nil => rfl
      | cons child rest => cases h
    subst hempty
    obtain ⟨written, hwritten, h⟩ := bind_eq_ok.mp (mapError_eq_ok.mp h)
    obtain rfl := pure_eq_ok.mp h
    cases selfClosing with
    | true => exact ⟨written, [' ', '/', '>'], hwritten, .inr ⟨[], rfl⟩, by simp⟩
    | false => exact ⟨written, ['>'], hwritten, .inl ⟨[], rfl⟩, by simp⟩
  | operator => cases htag
  | mathFallback => cases htag
  | custom => cases htag

end Markup

namespace Interpret

open Markup

variable {d : Option Dialect} {config : Config} {scope : Scope}

theorem names_of_keyed {depth : Nat} {named : List (String × Tree)}
    {values : List (String × Option Rendered)}
    (h : (keyed d config scope depth named).result = .ok values) :
    values.map Prod.fst = named.map Prod.fst := by
  induction named generalizing values with
  | nil =>
    obtain rfl : [] = values := Except.ok.inj h
    rfl
  | cons e rest ih =>
    obtain ⟨name, t⟩ := e
    rw [keyed] at h
    obtain ⟨first, -, h⟩ := Run.bind_ok.mp h
    obtain ⟨others, hothers, h⟩ := Run.bind_ok.mp h
    obtain rfl : (name, first) :: others = values := Except.ok.inj h
    rw [List.map_cons, List.map_cons, ih hothers]

/-- The values of named arguments that all have one keep their names. -/
theorem names_of_mapM {values : List (String × Option Rendered)} {attributes : List (String × Rendered)}
    (h : (values.mapM fun e => e.2.map fun value => (e.1, value)) = some attributes) :
    attributes.map Prod.fst = values.map Prod.fst := by
  induction values generalizing attributes with
  | nil =>
    obtain rfl : [] = attributes := Option.some.inj h
    rfl
  | cons e rest ih =>
    rw [List.mapM_cons] at h
    obtain ⟨first, hfirst, h⟩ := Option.bind_eq_some_iff.mp h
    obtain ⟨others, hothers, h⟩ := Option.bind_eq_some_iff.mp h
    obtain rfl : first :: others = attributes := Option.some.inj h
    obtain ⟨value, -, rfl⟩ := Option.map_eq_some_iff.mp hfirst
    rw [List.map_cons, List.map_cons, ih hothers]

/-- A call that succeeds is its renderer run on values under the names of the call. -/
theorem run_of_node {depth : Nat} {head : String} {args : List Tree} {named : List (String × Tree)}
    {location : Option Location} {r : Renderer} {v : Option Rendered}
    (hchosen : (chooseRenderer d config scope head).result = .ok (some r))
    (h : (node d config scope depth (.call head args named location)).result = .ok v) :
    ∃ children attributes f, r.run children attributes = .ok f ∧ v = some (.one f) ∧
      attributes.map Prod.fst = named.map Prod.fst := by
  rw [node] at h
  split at h
  · cases h
  · obtain ⟨renderer, hrenderer, h⟩ := Run.bind_ok.mp h
    obtain ⟨children, -, h⟩ := Run.bind_ok.mp h
    obtain ⟨values, hvalues, h⟩ := Run.bind_ok.mp h
    obtain ⟨value, hinvoke, hv⟩ := Run.bind_ok.mp h
    obtain rfl : some r = renderer := Except.ok.inj (hchosen.symm.trans hrenderer)
    obtain rfl : some value = v := Except.ok.inj hv
    unfold invoke at hinvoke
    dsimp only at hinvoke
    split at hinvoke
    · next rs attributes _ hattributes =>
      obtain ⟨f, hf, rfl⟩ := map_eq_ok.mp hinvoke
      refine ⟨rs, attributes, f, mapError_eq_ok.mp hf, rfl, ?_⟩
      rw [names_of_mapM hattributes, names_of_keyed hvalues]
    · cases hinvoke

/-- The tag of an element has an attribute for each named argument of its call, in their order, under the
argument's name as it is written for attributes. They are all different exactly if no argument has another
one's name with an underscore after it that is dropped. -/
theorem tag_attribute_names {depth : Nat} {head : String} {args : List Tree}
    {named : List (String × Tree)} {location : Option Location} {r : Renderer} {tag : String}
    {v : Option Rendered} (hcall : (Tree.call head args named location).WellFormed)
    (hchosen : (chooseRenderer d config scope head).result = .ok (some r)) (htag : r.tag? = some tag)
    (h : (node d config scope depth (.call head args named location)).result = .ok v) :
    ∃ f rest attributes after, v = some (.one f) ∧ f.text.toList = '<' :: tag.toList ++ rest ∧
      readAttributes rest = some (attributes, after) ∧ Ends after ∧
      attributes.map Attr.name = named.map (fun e => (Attribute.attributeName e.1).toList) ∧
      ((attributes.map Attr.name).Nodup ↔ ∀ e ∈ named, ∀ e' ∈ named,
        ¬Attribute.Respells e.1.toList e'.1.toList) := by
  obtain ⟨-, hnodup, -, hnamed⟩ := by simpa only [Tree.WellFormed] using hcall
  rw [Tree.namedWellFormed_iff] at hnamed
  obtain ⟨children, values, f, hrun, rfl, hvalues⟩ := run_of_node hchosen h
  obtain ⟨written, after, hwritten, hends, htext⟩ := tag_of_run htag hrun
  have hidentifier : ∀ name ∈ named.map Prod.fst, Text.isIdentifier name = true := by
    intro name hname
    obtain ⟨e, he, rfl⟩ := List.mem_map.mp hname
    exact (hnamed e he).1
  have hproper : ∀ a ∈ values.map fun e => attr e.1 e.2, a.Proper := by
    intro a ha
    obtain ⟨e, he, rfl⟩ := List.mem_map.mp ha
    exact proper_attr (hidentifier e.1 (hvalues ▸ List.mem_map_of_mem he)) e.2
  have hnames : (values.map fun e => attr e.1 e.2).map Attr.name =
      (named.map Prod.fst).map fun name => (Attribute.attributeName name).toList := by
    simp only [← hvalues, List.map_map, Function.comp_def, name_attr]
  refine ⟨f, _, values.map fun e => attr e.1 e.2, after, rfl, htext, ?_, hends, ?_, ?_⟩
  · rw [toList_writeAll hwritten]
    exact readAttributes_append hproper hends
  · simp only [hnames, List.map_map, Function.comp_def]
  · rw [hnames, Attribute.nodup_attributeNames_iff hnodup hidentifier]
    simp only [List.forall_mem_map]

/-- A paragraph with two numbers as attributes. -/
def numbered (first second : String) : Tree :=
  .call "p" [] [(first, .literal (.scalar (.int 1)) none), (second, .literal (.scalar (.int 2)) none)] none

theorem wellFormed_numbered {first second : String} (hfirst : Text.isIdentifier first = true)
    (hsecond : Text.isIdentifier second = true) (hne : first ≠ second) :
    (numbered first second).WellFormed := by
  have hhead : Text.isIdentifier "p" = true := by decide +kernel
  simp [numbered, Tree.WellFormed, Tree.AllWellFormed, Tree.NamedWellFormed, hhead, hfirst, hsecond, hne]

/-- Underscores inside a name and at its end. -/
theorem tag_attribute_names_numbered :
    let call := numbered "class_" "data_id"
    let scope := Dialect.html.scopeFor call
    let text : Fragment := ⟨"<p class='1' data-id='2'></p>"⟩
    call.WellFormed ∧
      (chooseRenderer (some Dialect.html) Config.default scope "p").result = .ok (some (.container "p")) ∧
      (node (some Dialect.html) Config.default scope 0 call).result = .ok (some (.one text)) ∧
      ∃ f rest attributes after, some (Rendered.one text) = some (.one f) ∧
        f.text.toList = '<' :: "p".toList ++ rest ∧ readAttributes rest = some (attributes, after) ∧
        Ends after ∧ attributes.map Attr.name = ["class".toList, "data-id".toList] ∧
        (attributes.map Attr.name).Nodup := by
  intro call scope text
  have hcall : call.WellFormed :=
    wellFormed_numbered (by decide +kernel) (by decide +kernel) (by decide)
  have hvoid : "p" ∉ Dialect.voidTags := by decide +kernel
  have htag : elementTag "p" = "p" := by decide +kernel
  have hrenderer : Dialect.html.rendererFor Config.default "p" = .container "p" := by
    rw [rendererFor_html, if_neg hvoid, htag]
  have hchosen : (chooseRenderer (some Dialect.html) Config.default scope "p").result =
      .ok (some (.container "p")) := by
    rw [chooseRenderer_result, hrenderer]
  have hnode : (node (some Dialect.html) Config.default scope 0 call).result =
      .ok (some (.one text)) := toOption_eq_some.mp (by decide +kernel)
  refine ⟨hcall, hchosen, hnode, ?_⟩
  obtain ⟨f, rest, attributes, after, hv, htext, hread, hends, hnames, -⟩ :=
    tag_attribute_names hcall hchosen rfl hnode
  have hwritten : attributes.map Attr.name = ["class".toList, "data-id".toList] := hnames
  refine ⟨f, rest, attributes, after, hv, htext, hread, hends, hwritten, ?_⟩
  rw [hwritten]
  decide

/-- A name and the same name with an underscore after it: the tag has one attribute twice. -/
theorem tag_attribute_names_doubled :
    (numbered "id" "id_").WellFormed ∧
      (renderText Dialect.html Config.default (numbered "id" "id_")).result =
        .ok "<p id='1' id='2'></p>" ∧
      ∃ attributes after, readAttributes " id='1' id='2'></p>".toList = some (attributes, after) ∧
        ¬(attributes.map Attr.name).Nodup := by
  have hrun : (renderText Dialect.html Config.default (numbered "id" "id_")).result =
      .ok "<p id='1' id='2'></p>" := toOption_eq_some.mp (by decide +kernel)
  have hproper : ∀ a ∈ [attr "id" (.one ⟨"1"⟩), attr "id_" (.one ⟨"2"⟩)], a.Proper := by
    intro a ha
    rw [List.mem_pair] at ha
    obtain rfl | rfl := ha
    · exact proper_attr (by decide +kernel) _
    · exact proper_attr (by decide +kernel) _
  have hread : readAttributes " id='1' id='2'></p>".toList =
      some ([attr "id" (.one ⟨"1"⟩), attr "id_" (.one ⟨"2"⟩)], "></p>".toList) :=
    readAttributes_append hproper (.inl ⟨_, rfl⟩)
  refine ⟨wellFormed_numbered (by decide +kernel) (by decide +kernel) (by decide), hrun, _, _, hread, ?_⟩
  decide

end Interpret

end ExprMarkup
