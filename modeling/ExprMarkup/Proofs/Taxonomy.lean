import ExprMarkup.Proofs.Capture.Refusal
import ExprMarkup.Proofs.Construction.Sound
import ExprMarkup.Proofs.Operator
import ExprMarkup.Proofs.Rendering.Order
import ExprMarkup.Typesetter

namespace ExprMarkup

/-- The three families of errors that a caller is told of. -/
def Failure.InTaxonomy (f : Failure) : Prop :=
  f.IsMalformed ∨ ∃ e, f = .error e ∧ e.cause.isRejection = true

namespace Renderer

/-- The renderer fails only by turning down what it is given. -/
def OnlyRejects (r : Renderer) : Prop :=
  ∀ children attributes f, r.run children attributes = .error f →
    ∃ e, f = .error e ∧ e.cause.isRejection = true

/-- Renderers without faults of their own fail only by rejections. -/
theorem Rejects.onlyRejects {r : Renderer} (hrejects : r.Rejects)
    (hfault : ∀ children attributes b, r.run children attributes ≠ .error (.fault b)) :
    r.OnlyRejects := by
  intro children attributes f h
  cases f with
  | error e => exact ⟨e, rfl, hrejects children attributes e h⟩
  | fault b => exact absurd h (hfault children attributes b)

theorem onlyRejects_container (tag : String) : (container tag).OnlyRejects := by
  refine (rejects (by rintro label own ⟨⟩)).onlyRejects fun children attributes b h => ?_
  obtain ⟨e, -, heq⟩ := mapError_eq_error.mp h
  cases heq

theorem onlyRejects_leaf (tag : String) (selfClosing : Bool) : (leaf tag selfClosing).OnlyRejects := by
  refine (rejects (by rintro label own ⟨⟩)).onlyRejects fun children attributes b h => ?_
  obtain ⟨e, -, heq⟩ := mapError_eq_error.mp h
  cases heq

theorem onlyRejects_operator (name : String) (template : Template) :
    (operator name template).OnlyRejects := by
  refine (rejects (by rintro label own ⟨⟩)).onlyRejects fun children attributes b h => ?_
  cases attributes with
  | nil =>
    rcases bind_eq_error.mp h with h | ⟨args, hargs, h⟩
    · obtain ⟨e, -, heq⟩ := mapError_eq_error.mp h
      cases heq
    · obtain ⟨text, htext⟩ := fill_operands (mapError_eq_ok.mp hargs)
      rw [htext] at h
      cases h
  | cons first rest => cases h

/-- The fallback of mathematics never fails if its separator is a text. -/
theorem onlyRejects_mathFallback (head separator : String) :
    (mathFallback head (.text separator)).OnlyRejects := by
  intro children attributes f h
  obtain ⟨b, hrun, rfl⟩ := mapError_eq_error.mp h
  rcases bind_eq_error.mp hrun with hjoined | ⟨joined, -, hrun⟩
  · rw [joinBy_text] at hjoined
    cases hjoined
  · cases hrun

end Renderer

namespace Dialect

theorem onlyRejects_html (head : String) : (html.rendererFor Config.default head).OnlyRejects := by
  refine forall_rendererFor ?_ Renderer.onlyRejects_container head
  intro entry hentry
  have hmem : entry ∈ htmlEntries true := Table.mem_ofList hentry
  rcases List.mem_append.mp hmem with hmem | hmem
  · obtain ⟨tag, -, rfl⟩ := List.mem_map.mp hmem
    exact Renderer.onlyRejects_container tag
  · obtain ⟨tag, -, rfl⟩ := List.mem_map.mp hmem
    exact Renderer.onlyRejects_leaf tag true

theorem onlyRejects_latex (head : String) : (latex.rendererFor Config.default head).OnlyRejects := by
  refine forall_rendererFor ?_ (fun head => Renderer.onlyRejects_mathFallback head ", ") head
  intro entry hentry
  obtain ⟨e, -, rfl⟩ := List.mem_map.mp (Table.mem_ofList hentry)
  exact Renderer.onlyRejects_operator e.1 e.2

end Dialect

namespace Value

theorem escape_scalar_error {escaper : Text.Escaper} {s : Scalar} {b : Fault}
    (h : Value.escape escaper (.scalar s) = .error b) : b = .digitLimit := by
  cases s with
  | int n =>
    rcases bind_eq_error.mp h with h | ⟨text, -, h⟩
    · rw [plainText] at h
      split at h <;> cases h
      rfl
    · cases h
  | bool value => cases value <;> cases h
  | absent => cases h
  | float x => cases h
  | text t => cases h

theorem escapeItems_scalar_error {escaper : Text.Escaper} {items : List Scalar} {b : Fault}
    (h : Value.escapeItems escaper (items.map .scalar) = .error b) : b = .digitLimit := by
  induction items with
  | nil => cases h
  | cons s rest ih =>
    rcases bind_eq_error.mp h with h | ⟨first, -, h⟩
    · exact escape_scalar_error h
    · rcases bind_eq_error.mp h with h | ⟨others, -, h⟩
      · exact ih h
      · cases h

/-- A literal has no text only if an integer in it has too many digits. -/
theorem digitLimit_of_escape {escaper : Text.Escaper} {value : Literal} {b : Fault}
    (h : value.toValue.escape escaper = .error b) :
    b = .digitLimit ∧ ∃ n, .int n ∈ value.scalars ∧ Decimal.withinLimit n = false := by
  constructor
  · cases value with
    | scalar s => exact escape_scalar_error h
    | sequence items =>
      rw [Literal.toValue, Value.escape] at h
      rcases bind_eq_error.mp h with h | ⟨fs, -, h⟩
      · exact escapeItems_scalar_error h
      · cases h
  · refine Classical.byContradiction fun hnone => ?_
    have hwithin : ∀ n, .int n ∈ value.scalars → Decimal.withinLimit n = true := by
      intro n hn
      cases hlimit : Decimal.withinLimit n with
      | true => rfl
      | false => exact absurd ⟨n, hn, hlimit⟩ hnone
    obtain ⟨r, hr⟩ := @escape_literal_ok escaper value hwithin
    cases hr.symm.trans h

theorem withinLimit_of_escape_int {escaper : Text.Escaper} {n : Int} {r : Rendered}
    (h : Value.escape escaper (.scalar (.int n)) = .ok r) : Decimal.withinLimit n = true := by
  obtain ⟨text, htext, -⟩ := bind_eq_ok.mp h
  rw [plainText] at htext
  split at htext
  · next hlimit => exact hlimit
  · cases htext

theorem withinLimit_of_escapeItems {escaper : Text.Escaper} {items : List Scalar}
    {fs : List Fragment} (h : Value.escapeItems escaper (items.map .scalar) = .ok fs) {n : Int}
    (hn : .int n ∈ items) : Decimal.withinLimit n = true := by
  obtain ⟨r, hr, -⟩ := (mem_of_escapeItems h).1 _ (List.mem_map_of_mem hn)
  exact withinLimit_of_escape_int hr

theorem withinLimit_of_escape {escaper : Text.Escaper} {value : Literal} {r : Rendered}
    (h : value.toValue.escape escaper = .ok r) {n : Int} (hn : .int n ∈ value.scalars) :
    Decimal.withinLimit n = true := by
  cases value with
  | scalar s =>
    obtain rfl : .int n = s := List.mem_singleton.mp hn
    exact withinLimit_of_escape_int h
  | sequence items =>
    rw [Literal.toValue, Value.escape] at h
    obtain ⟨fs, hfs, -⟩ := bind_eq_ok.mp h
    exact withinLimit_of_escapeItems hfs hn

end Value

/-- A literal of the tree has an integer with too many digits to be written. -/
def Tree.Unwritable (t : Tree) : Prop :=
  ∃ value location n, .literal value location ∈ t.preorder ∧ .int n ∈ value.scalars ∧
    Decimal.withinLimit n = false

namespace Dialect

variable {d : Dialect} {config : Config}

theorem evaluate_of_mem_args {args : List Tree} {rs : List Rendered}
    (h : d.evaluateArgs config args = .ok rs) {t : Tree} (ht : t ∈ args) :
    ∃ r, d.evaluate config t = .ok r := by
  induction args generalizing rs with
  | nil => cases ht
  | cons first rest ih =>
    obtain ⟨r, others, hr, hothers, -⟩ := evaluateArgs_cons_ok.mp h
    rcases List.mem_cons.mp ht with rfl | ht
    · exact ⟨r, hr⟩
    · exact ih hothers ht

theorem evaluate_of_mem_named {named : List (String × Tree)} {rs : List (String × Rendered)}
    (h : d.evaluateNamed config named = .ok rs) {e : String × Tree} (he : e ∈ named) :
    ∃ r, d.evaluate config e.2 = .ok r := by
  induction named generalizing rs with
  | nil => cases he
  | cons first rest ih =>
    obtain ⟨r, others, hr, hothers, -⟩ := evaluateNamed_cons_ok.mp h
    rcases List.mem_cons.mp he with rfl | he
    · exact ⟨r, hr⟩
    · exact ih hothers he

/-- A tree with a value has no integers in it that cannot be written. -/
theorem writable_of_evaluate {t : Tree} {r : Rendered} (h : d.evaluate config t = .ok r) :
    ¬t.Unwritable := by
  have hliterals : ∀ n ∈ t.preorder, ∀ value location, n = .literal value location →
      ∃ text, value.toValue.escape d.escaper = .ok text := by
    induction t generalizing r with
    | literal own place =>
      intro n hn value location heq
      obtain rfl : n = .literal own place := List.mem_singleton.mp hn
      cases heq
      exact ⟨r, mapError_eq_ok.mp h⟩
    | symbol name location => simp [Tree.preorder]
    | call head args named location ihargs ihnamed =>
      obtain ⟨children, attributes, -, hchildren, hattributes, -, -⟩ := evaluate_call_ok.mp h
      refine Tree.forall_preorder_call.mpr ⟨by simp, fun t ht => ?_, fun e he => ?_⟩
      · obtain ⟨r, hr⟩ := evaluate_of_mem_args hchildren ht
        exact ihargs t ht hr
      · obtain ⟨r, hr⟩ := evaluate_of_mem_named hattributes he
        exact ihnamed e he hr
    | bare location => simp [Tree.preorder]
  rintro ⟨value, location, n, hmem, hn, hlimit⟩
  obtain ⟨text, htext⟩ := hliterals _ hmem value location rfl
  have hwithin := Value.withinLimit_of_escape htext hn
  rw [hlimit] at hwithin
  cases hwithin

end Dialect

namespace Interpret

variable {d : Dialect} {config : Config}

theorem Performs.inTaxonomy {root : Tree} {scope : Scope} {s : Step} {events : List Event} {f : Failure}
    (hrenderers : ∀ head, (d.rendererFor config head).OnlyRejects)
    (hknown : ∀ n ∈ root.preorder, ∀ location, n ≠ .bare location) (hs : s ∈ schedule 0 root)
    (h : Performs d config scope s events (some f)) :
    f.InTaxonomy ∨ f = .fault .digitLimit ∧ root.Unwritable := by
  cases h with
  | tooDeep _ => exact .inl (.inl ⟨_, _, rfl⟩)
  | unwritable hescape =>
    obtain ⟨rfl, n, hn, hlimit⟩ := Value.digitLimit_of_escape hescape
    obtain ⟨location, hmem⟩ := literal_of_escape hs
    exact .inr ⟨rfl, _, location, n, hmem, hn, hlimit⟩
  | reject hinvoked =>
    cases hinvoked with
    | call _ _ _ houtcome =>
      obtain ⟨e, rfl, hrejection⟩ := hrenderers _ _ _ _ houtcome
      refine .inl (.inr ⟨_, Failure.locate_of_isRejection hrejection _, hrejection⟩)
  | refuse => exact absurd rfl (hknown _ (bare_of_refuse hs) _)

theorem inTaxonomy_renderText {root : Tree} {f : Failure}
    (hrenderers : ∀ head, (d.rendererFor config head).OnlyRejects)
    (hknown : ∀ n ∈ root.preorder, ∀ location, n ≠ .bare location)
    (h : (renderText d config root).result = .error f) :
    f.InTaxonomy ∨ f = .fault .digitLimit ∧ root.Unwritable := by
  have hfailed : (d.rendering config root).result = .error f := by
    rw [renderText, Run.result_bind] at h
    rcases bind_eq_error.mp h with hfailed | ⟨value, -, h⟩
    · exact hfailed
    · cases h
  obtain ⟨done, s, rest, before, last, hschedule, -, -, hlast⟩ := first_failing_of_rendering hfailed
  exact hlast.inTaxonomy hrenderers hknown (by simp [hschedule])

end Interpret

namespace Typesetter

open Capture (Host CodePoint Unreadable codePoints)

variable {t : Typesetter} {host : Host} {current : Option Config} {file : Option String}
  {source : List CodePoint}

theorem render_text_result {config : Config} (hconfig : t.config.or current = some config) :
    (t.render host current file (.text source)).result = (do
      let root ← Capture.ofCodePoints host source file
      (Interpret.renderText (t.dialect.getD Dialect.html) config root).result) := by
  have hsettled : (Interpret.settle t.config current).result = .ok config := by
    rw [Interpret.settle, hconfig]
    rfl
  rw [render, Run.result_bind]
  congr 1
  funext root
  rw [Run.result_bind, hsettled]
  rfl

theorem render_text_of_unreadable {config : Config} (hconfig : t.config.or current = some config)
    {b : Fault} (h : Unreadable host source file b) :
    (t.render host current file (.text source)).result = .error (.fault b) := by
  rw [render_text_result hconfig, Capture.ofCodePoints_of_unreadable h]
  rfl

/-- A text that does not get as far as the grammar, or one with an integer that cannot be written, is not
rendered, and fails by the fault that says so in the first case. All other failures of a text in one of
the two dialects are malformed, or a renderer turns something down. -/
theorem render_text_failures
    (hdialect : t.dialect.getD Dialect.html = Dialect.html ∨
      t.dialect.getD Dialect.html = Dialect.latex)
    (hconfig : t.config.or current = some Config.default) :
    (∀ b, Unreadable host source file b →
        (t.render host current file (.text source)).result = .error (.fault b)) ∧
      (∀ root, Capture.ofCodePoints host source file = .ok root → root.Unwritable →
        ∀ text, (t.render host current file (.text source)).result ≠ .ok text) ∧
      ∀ f, (t.render host current file (.text source)).result = .error f →
        f.InTaxonomy ∨ (∃ b, f = .fault b ∧ Unreadable host source file b) ∨
          (f = .fault .digitLimit ∧
            ∃ root, Capture.ofCodePoints host source file = .ok root ∧ root.Unwritable) := by
  refine ⟨fun b => render_text_of_unreadable hconfig, fun root hroot hunwritable text h => ?_,
    fun f h => ?_⟩
  · rw [render_text_result hconfig, hroot] at h
    obtain ⟨r, hr, -⟩ := Interpret.evaluate_of_renderText h
    exact Dialect.writable_of_evaluate hr hunwritable
  · rw [render_text_result hconfig] at h
    rcases bind_eq_error.mp h with hrefused | ⟨root, hroot, h⟩
    · rcases Capture.refused_ofCodePoints hrefused with hmalformed | hunreadable
      · exact .inl (.inl hmalformed)
      · exact .inr (.inl hunreadable)
    · have hknown : ∀ n ∈ root.preorder, ∀ location, n ≠ .bare location := by
        rintro n hn location rfl
        exact Capture.allSound_ofCodePoints hroot _ hn
      have hrenderers : ∀ head,
          ((t.dialect.getD Dialect.html).rendererFor Config.default head).OnlyRejects := by
        rcases hdialect with hd | hd <;> rw [hd]
        · exact Dialect.onlyRejects_html
        · exact Dialect.onlyRejects_latex
      rcases Interpret.inTaxonomy_renderText hrenderers hknown h with htaxonomy | ⟨hf, hunwritable⟩
      · exact .inl htaxonomy
      · exact .inr (.inr ⟨hf, root, hroot, hunwritable⟩)

/-- A surrogate in a text is a fault, an unfinished sum is malformed. -/
theorem render_text_failures_unfinished :
    ((latex none).render .ample (some Config.default) none (.text [.char 'x', .surrogate 0])).result =
        .error (.fault .notEncodable) ∧
      ((html none).render .ample (some Config.default) none (.text (codePoints "x +"))).result =
        .error (.malformed (.invalidSource "invalid syntax") (some (.point none 1 4))) ∧
      (Failure.malformed (.invalidSource "invalid syntax") (some (.point none 1 4))).InTaxonomy := by
  have hparse : Source.parse? (Text.strip "x +".toList) = none :=
    Option.isNone_iff_eq_none.mp (by decide +kernel)
  have hrefused : ((html none).render .ample (some Config.default) none
      (.text (codePoints "x +"))).result =
        .error (.malformed (.invalidSource "invalid syntax") (some (.point none 1 4))) := by
    rw [render_text_result rfl, codePoints, Capture.ofCodePoints_map_char, String.ofList_toList,
      Capture.ofText, hparse]
    rfl
  have hsurrogate : CodePoint.surrogate 0 ∈ [CodePoint.char 'x', .surrogate 0] :=
    List.mem_cons_of_mem _ List.mem_cons_self
  refine ⟨(render_text_failures (.inr rfl) rfl).1 _ (.surrogate (by decide) hsurrogate), hrefused,
    ?_⟩
  rcases (render_text_failures (.inl rfl) rfl).2.2 _ hrefused with htaxonomy | ⟨b, hf, -⟩ | ⟨hf, -⟩
  · exact htaxonomy
  · cases hf
  · cases hf

/-- The fault of a null character is the same in both dialects, and none of the three errors. -/
theorem render_text_nullCharacter :
    ((html (some Config.default)).render .ample none none (.text (codePoints "x\x00y"))).result =
        .error (.fault .nullCharacter) ∧
      ((latex (some Config.default)).render .ample none none (.text (codePoints "x\x00y"))).result =
        .error (.fault .nullCharacter) ∧
      ¬(Failure.fault .nullCharacter).InTaxonomy := by
  have hnull : Unreadable .ample (codePoints "x\x00y") none .nullCharacter :=
    .nullCharacter rfl (by decide)
  refine ⟨render_text_of_unreadable rfl hnull, render_text_of_unreadable rfl hnull, ?_⟩
  rintro (⟨why, location, hf⟩ | ⟨e, hf, -⟩)
  · cases hf
  · cases hf

end Typesetter

end ExprMarkup
