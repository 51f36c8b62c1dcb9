import ExprMarkup.Proofs.Markup.ReadBack
import ExprMarkup.Proofs.Typeset.Formula
import ExprMarkup.Proofs.Typeset.Scan

namespace ExprMarkup

/-- All texts that a template writes. -/
def Template.texts : Template → List String
  | .slots pieces => pieces
  | .variadic opening separator closing _ => [opening, separator, closing]

namespace Typeset

open Dialect

def Piece.word? : Piece → Option (List Char)
  | .word letters => some letters
  | _ => none

/-- The texts that make the macros of the notation: those of the templates and of the known symbols, and
two that are written for other names and for backslashes. -/
def macroTexts : List String :=
  latexTemplates.flatMap (fun e => e.2.texts) ++ latexSymbols.map Prod.snd ++ [r"\mathrm", r"\backslash"]

/-- The control words of the notation. -/
def latexWords : List (List Char) :=
  macroTexts.flatMap fun text => (scan text.toList).filterMap Piece.word?

/-- A piece that output may have: a control word of the notation, a control symbol, or a character that
is no markup, other than a brace. -/
def Piece.isSafe : Piece → Bool
  | .word letters => decide (letters ∈ latexWords)
  | .sign _ => true
  | .char c => decide (c ∉ ['$', '%', '&', '#'])
  | .lone => false

/-- The braces and sides of a text nest, and none of its pieces is foreign to the notation. -/
structure Balanced (text : List Char) : Prop where
  nested : Nested (scan text)
  safe : ∀ p ∈ scan text, p.isSafe = true

instance (text : List Char) : Decidable (Balanced text) :=
  decidable_of_iff (Nested (scan text) ∧ ∀ p ∈ scan text, p.isSafe = true)
    ⟨fun h => ⟨h.1, h.2⟩, fun h => ⟨h.nested, h.safe⟩⟩

/-- A balanced text that does not end in a control word. -/
structure Settled (text : List Char) : Prop extends Balanced text where
  ended : begunAfter .none text = .none

instance (text : List Char) : Decidable (Settled text) :=
  decidable_of_iff (Balanced text ∧ begunAfter .none text = .none)
    ⟨fun h => ⟨h.1, h.2⟩, fun h => ⟨h.toBalanced, h.ended⟩⟩

theorem lone_not_mem {pieces : List Piece} (h : ∀ p ∈ pieces, p.isSafe = true) : .lone ∉ pieces :=
  fun hmem => Bool.false_ne_true (h _ hmem)

theorem Nested.append {a b : List Piece} (ha : Nested a) (hb : Nested b) : Nested (a ++ b) := by
  change Typeset.nest [] (a ++ b) = some []
  rw [nest_append, ha.nest]
  exact hb

theorem Balanced.append {a b : List Char} (ha : Balanced a) (hb : Balanced b)
    (h : Seam (begunAfter .none a) b) : Balanced (a ++ b) where
  nested := by
    rw [scan_append h]
    exact ha.nested.append hb.nested
  safe p hp := by
    rw [scan_append h, List.mem_append] at hp
    exact hp.elim (ha.safe p) (hb.safe p)

theorem Settled.append {a b : List Char} (ha : Settled a) (hb : Settled b) : Settled (a ++ b) where
  toBalanced := ha.toBalanced.append hb.toBalanced (seam_of_ended ha.ended b)
  ended := by rw [begunAfter_append, ha.ended, hb.ended]

theorem balanced_nil : Balanced [] := ⟨rfl, nofun⟩

theorem settled_nil : Settled [] := ⟨balanced_nil, rfl⟩

theorem settled_flatMap {α : Type} {items : List α} {text : α → List Char}
    (h : ∀ a ∈ items, Settled (text a)) : Settled (items.flatMap text) := by
  induction items with
  | nil => exact settled_nil
  | cons a rest ih =>
    have hrest : Settled (rest.flatMap text) := ih fun b hb => h b (by simp [hb])
    exact (h a (by simp)).append hrest

theorem ne_of_latexSpecial {c special : Char} (h : Text.latexSpecial c = none)
    (hspecial : (Text.latexSpecial special).isSome = true) : c ≠ special := by
  rintro rfl
  simp [h] at hspecial

/-- A character that is no markup is a piece of its own, and a neutral one. -/
theorem settled_plain {c : Char} (h : Text.latexSpecial c = none) : Settled [c] := by
  have hne {special : Char} : (Text.latexSpecial special).isSome = true → c ≠ special :=
    ne_of_latexSpecial h
  have hslash : c ≠ '\\' := hne rfl
  have hscan : scan [c] = [.char c] := by simp [scan, scanFrom, step, start, hslash, Begun.finish]
  have hnested : Nested [.char c] := by
    have hopens : (Piece.char c).opens? = none := by
      unfold Piece.opens?
      split
      · next heq => exact absurd (Piece.char.inj heq) (hne rfl)
      · next heq => cases heq
      · rfl
    have hcloses : (Piece.char c).closes? = none := by
      unfold Piece.closes?
      split
      · next heq => exact absurd (Piece.char.inj heq) (hne rfl)
      · next heq => cases heq
      · rfl
    simp [Nested, Piece.nest, hopens, hcloses]
  have hsafe : (Piece.char c).isSafe = true := by
    have hfour : c ≠ '$' ∧ c ≠ '%' ∧ c ≠ '&' ∧ c ≠ '#' := ⟨hne rfl, hne rfl, hne rfl, hne rfl⟩
    simp [Piece.isSafe, hfour]
  refine ⟨⟨hscan ▸ hnested, ?_⟩, by simp [begunAfter, step, start, hslash]⟩
  simpa [hscan] using hsafe

/-- What a character of markup is written as opens and closes nothing, with an empty group after a
backslash. -/
theorem settled_special {c : Char} {w : List Char} (h : Text.latexSpecial c = some w) : Settled w := by
  unfold Text.latexSpecial at h
  split at h
  case h_8 => cases h
  all_goals
    obtain rfl := Option.some.inj h
    decide +kernel

theorem settled_escapeChars (text : List Char) : Settled (Text.escapeChars Text.latexSpecial text) := by
  refine settled_flatMap fun c _ => ?_
  cases h : Text.latexSpecial c with
  | none => exact settled_plain h
  | some w => exact settled_special h

theorem settled_escapeLatex (text : String) : Settled (Text.escapeLatex text).toList := by
  rw [Text.escapeLatex, Text.toList_escapeWith]
  exact settled_escapeChars text.toList

/-- An identifier has no markup in it. -/
theorem settled_identifier {id : String} (hid : Text.isIdentifier id = true) : Settled id.toList := by
  have hself : Text.escapeChars Text.latexSpecial id.toList = id.toList :=
    Text.escapeChars_eq_self fun c hc =>
      latexSpecial_of_isNameChar ((Text.isNameChar_of_isIdentifier hid).2 c hc)
  exact hself ▸ settled_escapeChars id.toList

theorem balanced_latexSymbols : ∀ e ∈ latexSymbols, Balanced e.2.toList := by decide +kernel

theorem balanced_symbolText (name : String) : Balanced (Dialect.latex.symbolText name).text.toList := by
  have hfind : Dialect.latex.symbols.find? name =
      ((latexSymbols.map fun e => (e.1, (⟨e.2⟩ : Fragment))).find? fun e => e.1 == name).map Prod.snd :=
    Table.find?_ofList (by simpa [Function.comp_def] using nodup_latexSymbols) name
  rw [Dialect.symbolText, hfind]
  cases hknown : (latexSymbols.map fun e => (e.1, (⟨e.2⟩ : Fragment))).find? fun e => e.1 == name with
  | none => exact (settled_escapeLatex name).toBalanced
  | some known =>
    obtain ⟨e, he, rfl⟩ := List.mem_map.mp (List.mem_of_find?_eq_some hknown)
    exact balanced_latexSymbols e he

/-- A text that keeps what stands before it apart from what stands after it. -/
def Divides (text : String) : Prop :=
  text.toList ≠ [] ∧ NoLetter text.toList ∧ begunAfter .none text.toList = .none

instance (text : String) : Decidable (Divides text) := inferInstanceAs (Decidable (_ ∧ _ ∧ _))

theorem Divides.noLetter_append {text : String} (h : Divides text) (rest : List Char) :
    NoLetter (text.toList ++ rest) := by
  obtain ⟨hne, hletter, -⟩ := h
  obtain ⟨c, chars, hchars⟩ := List.exists_cons_of_ne_nil hne
  rw [hchars] at hletter ⊢
  exact hletter

/-- The texts that follow the slots of a template. Nothing comes after the last one. -/
def DivideAll : List String → Prop
  | [] => True
  | [last] => NoLetter last.toList
  | text :: rest => Divides text ∧ DivideAll rest

instance decidableDivideAll : (texts : List String) → Decidable (DivideAll texts)
  | [] => inferInstanceAs (Decidable True)
  | [last] => inferInstanceAs (Decidable (NoLetter last.toList))
  | text :: next :: rest =>
    have := decidableDivideAll (next :: rest)
    inferInstanceAs (Decidable (Divides text ∧ DivideAll (next :: rest)))

/-- The pieces of several texts, each read on its own. -/
def scanAll (texts : List String) : List Piece := texts.flatMap fun text => scan text.toList

/-- The texts of a template can be filled, and they are balanced when they are put together. -/
def Fillable : List String → Prop
  | [] => True
  | first :: rest => begunAfter .none first.toList = .none ∧ DivideAll rest ∧
      Nested (scanAll (first :: rest)) ∧ ∀ p ∈ scanAll (first :: rest), p.isSafe = true

instance : (texts : List String) → Decidable (Fillable texts)
  | [] => inferInstanceAs (Decidable True)
  | _ :: _ => inferInstanceAs (Decidable (_ ∧ _ ∧ _ ∧ _))

/-- A list is joined by text that is balanced itself. -/
def FillableTemplate : Template → Prop
  | .slots pieces => Fillable pieces
  | .variadic opening separator closing _ =>
    Fillable [opening, closing] ∧ Divides separator ∧ Balanced separator.toList

instance : (template : Template) → Decidable (FillableTemplate template)
  | .slots _ => inferInstanceAs (Decidable (Fillable _))
  | .variadic _ _ _ _ => inferInstanceAs (Decidable (_ ∧ _ ∧ _))

theorem fillable_latexTemplates : ∀ e ∈ latexTemplates, FillableTemplate e.2 := by decide +kernel

/-- `whole` is `own` with balanced texts put in. -/
structure Padded (own whole : List Piece) : Prop where
  nest_eq : ∀ opened, nest opened whole = nest opened own
  safe : (∀ p ∈ own, p.isSafe = true) → ∀ p ∈ whole, p.isSafe = true

theorem padded_self (own : List Piece) : Padded own own := ⟨fun _ => rfl, id⟩

theorem Balanced.padded {text : List Char} (h : Balanced text) : Padded [] (scan text) :=
  ⟨h.nested.nest, fun _ => h.safe⟩

theorem Padded.append {own own' whole whole' : List Piece} (h : Padded own whole)
    (h' : Padded own' whole') : Padded (own ++ own') (whole ++ whole') where
  nest_eq opened := by simp only [nest_append, h.nest_eq, h'.nest_eq]
  safe hown p hp := by
    rcases List.mem_append.mp hp with hp | hp
    · exact h.safe (fun q hq => hown q (List.mem_append_left _ hq)) p hp
    · exact h'.safe (fun q hq => hown q (List.mem_append_right _ hq)) p hp

/-- A text of a template and what follows it: both remain what they are. -/
theorem seams_of_interleave {own : String} {rest args : List String} {others : String}
    (htexts : DivideAll (own :: rest)) (h : Template.interleave args rest = .ok others) :
    NoLetter (own.toList ++ others.toList) ∧ Seam (begunAfter .none own.toList) others.toList ∧
      DivideAll rest := by
  cases rest with
  | nil =>
    obtain rfl : others = "" := by
      cases args with
      | nil => exact (Except.ok.inj h).symm
      | cons a args => cases h
    have hletter : NoLetter own.toList := htexts
    exact ⟨by simpa using hletter, seam_nil _, trivial⟩
  | cons next more =>
    obtain ⟨hdivides, hmore⟩ := htexts
    exact ⟨hdivides.noLetter_append _, seam_of_ended hdivides.2.2 _, hmore⟩

theorem padded_interleave {args texts : List String} {text : String} (htexts : DivideAll texts)
    (hargs : ∀ a ∈ args, Balanced a.toList) (h : Template.interleave args texts = .ok text) :
    Padded (scanAll texts) (scan text.toList) := by
  induction texts generalizing args text with
  | nil =>
    cases args with
    | nil =>
      cases h
      exact padded_self []
    | cons a args => cases h
  | cons own rest ih =>
    cases args with
    | nil => cases h
    | cons a args =>
      obtain ⟨others, hothers, h⟩ := bind_eq_ok.mp h
      obtain rfl := pure_eq_ok.mp h
      have ha : Balanced a.toList := hargs a (by simp)
      obtain ⟨hletter, hseam, hrest⟩ := seams_of_interleave htexts hothers
      have hwhole : scan (a ++ own ++ others).toList =
          scan a.toList ++ (scan own.toList ++ scan others.toList) := by
        rw [String.toList_append, String.toList_append, List.append_assoc,
          scan_append (seam_of_noLetter (lone_not_mem ha.safe) hletter), scan_append hseam]
      rw [hwhole]
      exact ha.padded.append
        ((padded_self (scan own.toList)).append (ih hrest (fun b hb => hargs b (by simp [hb])) hothers))

/-- A template that is filled with balanced texts gives a balanced text. -/
theorem balanced_fill_slots {pieces : List String} {args : List Fragment} {text : String}
    (hpieces : Fillable pieces) (hargs : ∀ f ∈ args, Balanced f.text.toList)
    (h : (Template.slots pieces).fill args = .ok text) : Balanced text.toList := by
  cases pieces with
  | nil => cases h
  | cons first rest =>
    obtain ⟨others, hothers, h⟩ := bind_eq_ok.mp h
    obtain rfl := pure_eq_ok.mp h
    obtain ⟨hended, hdivide, hnested, hsafe⟩ := hpieces
    have hpadded : Padded (scanAll rest) (scan others.toList) :=
      padded_interleave hdivide (by simpa using hargs) hothers
    have hwhole : Padded (scanAll (first :: rest)) (scan (first ++ others).toList) := by
      rw [String.toList_append, scan_append (seam_of_ended hended _)]
      exact (padded_self (scan first.toList)).append hpadded
    exact ⟨(hwhole.nest_eq []).trans hnested, hwhole.safe hsafe⟩

theorem balanced_joinTexts {separator : String} (hdivides : Divides separator)
    (hseparator : Balanced separator.toList) {texts : List String}
    (htexts : ∀ t ∈ texts, Balanced t.toList) : Balanced (joinTexts separator texts).toList := by
  fun_induction joinTexts separator texts with
  | case1 => exact balanced_nil
  | case2 s => exact htexts s (by simp)
  | case3 s rest hne ih =>
    have hs : Balanced s.toList := htexts s (by simp)
    have hrest : Balanced (joinTexts separator rest).toList := ih fun t ht => htexts t (by simp [ht])
    have htail : Balanced (separator.toList ++ (joinTexts separator rest).toList) :=
      hseparator.append hrest (seam_of_ended hdivides.2.2 _)
    rw [String.toList_append, String.toList_append, List.append_assoc]
    exact hs.append htail (seam_of_noLetter (lone_not_mem hs.safe) (hdivides.noLetter_append _))

theorem balanced_fill {template : Template} {args : List Fragment} {text : String}
    (htemplate : FillableTemplate template) (hargs : ∀ f ∈ args, Balanced f.text.toList)
    (h : template.fill args = .ok text) : Balanced text.toList := by
  cases template with
  | slots pieces => exact balanced_fill_slots htemplate hargs h
  | variadic opening separator closing least =>
    obtain ⟨hends, hdivides, hseparator⟩ := htemplate
    have hjoined : Balanced (joinTexts separator (args.map Fragment.text)).toList :=
      balanced_joinTexts hdivides hseparator (by simpa using hargs)
    have hfill : (Template.slots [opening, closing]).fill
        [⟨joinTexts separator (args.map Fragment.text)⟩] = .ok text := by
      obtain rfl := Except.ok.inj h
      simp [Template.fill, Template.interleave, String.append_assoc, bind, Except.bind, pure, Except.pure]
    exact balanced_fill_slots hends (by simpa using hjoined) hfill

/-- The text of a rendered value is balanced, and the parts of a sequence stay so side by side. -/
def Fit : Rendered → Prop
  | .one f => Balanced f.text.toList
  | .many fs => ∀ f ∈ fs, Settled f.text.toList

theorem Fit.asFragment {r : Rendered} (h : Fit r) : Balanced r.asFragment.text.toList := by
  cases r with
  | one f => exact h
  | many fs =>
    rw [Markup.toList_asFragment]
    exact (settled_flatMap h).toBalanced

theorem Fit.fragments {r : Rendered} (h : Fit r) : ∀ f ∈ r.fragments, Balanced f.text.toList := by
  cases r with
  | one f =>
    rintro f (_ | ⟨_, hf⟩)
    · exact h
    · cases hf
  | many fs => exact fun f hf => (h f hf).toBalanced

theorem balanced_flatten {children : List Rendered} (h : ∀ r ∈ children, Fit r) :
    ∀ f ∈ Rendered.flatten children, Balanced f.text.toList := by
  intro f hf
  obtain ⟨r, hr, hf⟩ := List.mem_flatMap.mp hf
  exact (h r hr).fragments f hf

theorem balanced_singles {name : String} {position : Nat} {children : List Rendered}
    {args : List Fragment} (h : ∀ r ∈ children, Fit r)
    (hsingles : Renderer.singles name position children = .ok args) :
    ∀ f ∈ args, Balanced f.text.toList := by
  induction children generalizing position args with
  | nil =>
    cases hsingles
    simp
  | cons child rest ih =>
    have hargs : ∃ others, Renderer.singles name (position + 1) rest = .ok others ∧
        args = child.asFragment :: others := by
      unfold Renderer.singles at hsingles
      split at hsingles
      · cases hsingles
      · obtain ⟨others, hothers, heq⟩ := bind_eq_ok.mp hsingles
        exact ⟨others, hothers, (pure_eq_ok.mp heq).symm⟩
    obtain ⟨others, hothers, rfl⟩ := hargs
    rintro f (_ | ⟨_, hf⟩)
    · exact (h child (by simp)).asFragment
    · exact ih (fun r hr => h r (by simp [hr])) hothers f hf

theorem balanced_operands {name : String} {template : Template} {children : List Rendered}
    {args : List Fragment} (h : ∀ r ∈ children, Fit r)
    (hoperands : Renderer.operands name template children = .ok args) :
    ∀ f ∈ args, Balanced f.text.toList := by
  cases template with
  | slots pieces =>
    obtain ⟨singles, hsingles, hargs⟩ := bind_eq_ok.mp hoperands
    split at hargs
    · cases hargs
      exact balanced_singles h hsingles
    · cases hargs
  | variadic opening separator closing least =>
    dsimp only [Renderer.operands] at hoperands
    split at hoperands
    · cases hoperands
    · cases hoperands
      exact balanced_flatten h

theorem balanced_runOperator {name : String} {template : Template} {children : List Rendered}
    {attributes : List (String × Rendered)} {f : Fragment} (htemplate : FillableTemplate template)
    (h : ∀ r ∈ children, Fit r)
    (hrun : Renderer.runOperator name template children attributes = .ok f) :
    Balanced f.text.toList := by
  cases attributes with
  | nil =>
    obtain ⟨args, hargs, hrun⟩ := bind_eq_ok.mp hrun
    obtain ⟨text, htext, hrun⟩ := bind_eq_ok.mp hrun
    obtain rfl := pure_eq_ok.mp hrun
    exact balanced_fill htemplate (balanced_operands h (mapError_eq_ok.mp hargs))
      (mapError_eq_ok.mp htext)
  | cons first rest => cases hrun

/-- What is written for a call of an unknown name has its name and its arguments in the slots of a
template. -/
theorem balanced_runMathFallback {head : String} {children : List Rendered}
    {attributes : List (String × Rendered)} {f : Fragment} (hhead : Text.isIdentifier head = true)
    (hchildren : ∀ r ∈ children, Fit r) (hattributes : ∀ e ∈ attributes, Fit e.2)
    (hrun : Renderer.runMathFallback head Config.default.separator children attributes = .ok f) :
    Balanced f.text.toList := by
  obtain ⟨joined, hjoined, hrun⟩ := bind_eq_ok.mp hrun
  obtain rfl := pure_eq_ok.mp hrun
  have hparts : ∀ r ∈ children ++ attributes.map Prod.snd, Fit r := by
    intro r hr
    rcases List.mem_append.mp hr with hr | hr
    · exact hchildren r hr
    · obtain ⟨e, he, rfl⟩ := List.mem_map.mp hr
      exact hattributes e he
  have hargs : Balanced joined.toList := by
    obtain rfl := Except.ok.inj ((Renderer.joinBy_text ", " _).symm.trans hjoined)
    exact balanced_joinTexts (by decide +kernel) (by decide +kernel)
      (by simpa using balanced_flatten hparts)
  have hfill : (Template.slots [r"\mathrm{", r"}(", ")"]).fill [⟨head⟩, ⟨joined⟩] =
      .ok (r"\mathrm{" ++ head ++ r"}(" ++ joined ++ ")") := by
    simp [Template.fill, Template.interleave, String.append_assoc, bind, Except.bind, pure, Except.pure]
  exact balanced_fill_slots (by decide +kernel)
    (by simpa using ⟨(settled_identifier hhead).toBalanced, hargs⟩) hfill

theorem balanced_run {head : String} {children : List Rendered} {attributes : List (String × Rendered)}
    {f : Fragment} (hhead : Text.isIdentifier head = true) (hchildren : ∀ r ∈ children, Fit r)
    (hattributes : ∀ e ∈ attributes, Fit e.2)
    (hrun : (Dialect.latex.rendererFor Config.default head).run children attributes = .ok f) :
    Balanced f.text.toList := by
  rw [rendererFor_latex] at hrun
  cases hfind : latexTemplates.find? fun e => e.1 == head with
  | none =>
    rw [hfind] at hrun
    exact balanced_runMathFallback hhead hchildren hattributes (mapError_eq_ok.mp hrun)
  | some e =>
    rw [hfind] at hrun
    exact balanced_runOperator (fillable_latexTemplates e (List.mem_of_find?_eq_some hfind)) hchildren
      hrun

theorem fit_escape_scalar {s : Scalar} {r : Rendered}
    (h : Value.escape Text.escapeLatex (.scalar s) = .ok r) : Fit r := by
  rcases Markup.escape_scalar h with ⟨-, rfl⟩ | ⟨-, rfl⟩
  · exact nofun
  · exact (settled_escapeLatex _).toBalanced

theorem settled_escape_scalar {s : Scalar} {r : Rendered}
    (h : Value.escape Text.escapeLatex (.scalar s) = .ok r) : Settled r.asFragment.text.toList := by
  rcases Markup.escape_scalar h with ⟨-, rfl⟩ | ⟨-, rfl⟩
  · exact settled_nil
  · exact settled_escapeLatex _

theorem settled_escapeItems {items : List Scalar} {fs : List Fragment}
    (h : Value.escapeItems Text.escapeLatex (items.map .scalar) = .ok fs) :
    ∀ f ∈ fs, Settled f.text.toList := by
  intro f hf
  obtain ⟨v, hv, r, hr, rfl⟩ := (Value.mem_of_escapeItems h).2 f hf
  obtain ⟨s, -, rfl⟩ := List.mem_map.mp hv
  exact settled_escape_scalar hr

theorem fit_literal {value : Literal} {r : Rendered}
    (h : Value.escape Text.escapeLatex value.toValue = .ok r) : Fit r := by
  cases value with
  | scalar s => exact fit_escape_scalar h
  | sequence items =>
    rw [Literal.toValue, Value.escape] at h
    obtain ⟨fs, hitems, h⟩ := bind_eq_ok.mp h
    obtain rfl := pure_eq_ok.mp h
    exact settled_escapeItems hitems

mutual

theorem fit_of_evaluate {t : Tree} {r : Rendered} (ht : t.WellFormed)
    (h : Dialect.latex.evaluate Config.default t = .ok r) : Fit r := by
  cases t with
  | literal value location => exact fit_literal (mapError_eq_ok.mp h)
  | symbol name location =>
    obtain rfl := Except.ok.inj h
    exact balanced_symbolText name
  | call head args named location =>
    obtain ⟨children, attributes, f, hchildren, hattributes, hrun, rfl⟩ := evaluate_call_ok.mp h
    obtain ⟨hhead, -, hargs, hnamed⟩ := ht
    exact balanced_run hhead (fit_of_evaluateArgs hargs hchildren)
      (fit_of_evaluateNamed hnamed hattributes) hrun
  | bare location => cases h

theorem fit_of_evaluateArgs {args : List Tree} {rs : List Rendered} (hargs : Tree.AllWellFormed args)
    (h : Dialect.latex.evaluateArgs Config.default args = .ok rs) : ∀ r ∈ rs, Fit r := by
  cases args with
  | nil =>
    cases h
    exact nofun
  | cons t rest =>
    obtain ⟨r, others, hr, hothers, rfl⟩ := evaluateArgs_cons_ok.mp h
    rintro q (_ | ⟨_, hq⟩)
    · exact fit_of_evaluate hargs.1 hr
    · exact fit_of_evaluateArgs hargs.2 hothers q hq

theorem fit_of_evaluateNamed {named : List (String × Tree)} {rs : List (String × Rendered)}
    (hnamed : Tree.NamedWellFormed named)
    (h : Dialect.latex.evaluateNamed Config.default named = .ok rs) : ∀ e ∈ rs, Fit e.2 := by
  cases named with
  | nil =>
    cases h
    exact nofun
  | cons e rest =>
    obtain ⟨r, others, hr, hothers, rfl⟩ := evaluateNamed_cons_ok.mp h
    rintro q (_ | ⟨_, hq⟩)
    · exact fit_of_evaluate hnamed.2.1 hr
    · exact fit_of_evaluateNamed hnamed.2.2 hothers q hq

end

/-- Whatever is typeset, its braces and sides nest, there is no markup in it but that of the notation,
and every control word in it is one of the notation. -/
theorem balanced_renderText {t : Tree} {text : String} (ht : t.WellFormed)
    (h : (Interpret.renderText Dialect.latex Config.default t).result = .ok text) :
    Nested (scan text.toList) ∧ .lone ∉ scan text.toList ∧
      (∀ c ∈ ['$', '%', '&', '#'], .char c ∉ scan text.toList) ∧
      ∀ letters, .word letters ∈ scan text.toList → letters ∈ latexWords := by
  obtain ⟨r, hr, rfl⟩ := Interpret.evaluate_of_renderText h
  have hbalanced : Balanced r.asFragment.text.toList := (fit_of_evaluate ht hr).asFragment
  refine ⟨hbalanced.nested, lone_not_mem hbalanced.safe, ?_, ?_⟩
  · intro c hc hmem
    have hsafe : (Piece.char c).isSafe = true := hbalanced.safe _ hmem
    exact absurd hc (of_decide_eq_true hsafe)
  · intro letters hmem
    exact of_decide_eq_true (hbalanced.safe _ hmem)

/-- A floor of a macro before a text that is nothing but markup, over an unknown function of a sequence
and a macro. -/
def markupTexts : Tree :=
  .call "floordiv"
    [.call "paste" [.symbol "pi" none, .literal (.scalar (.text r"\left{$")) none] [] none,
     .call "f_1" [.literal (.sequence [.text "\\", .absent, .text r"}%"]) none]
       [("end", .symbol "lambda_" none)] none] [] none

theorem balanced_renderText_markupTexts :
    ∃ text, (Interpret.renderText Dialect.latex Config.default markupTexts).result = .ok text ∧
      Nested (scan text.toList) ∧ .lone ∉ scan text.toList ∧
        (∀ c ∈ ['$', '%', '&', '#'], .char c ∉ scan text.toList) ∧
        ∀ letters, .word letters ∈ scan text.toList → letters ∈ latexWords := by
  have hwell : markupTexts.WellFormed := by
    simp only [markupTexts, Tree.WellFormed, Tree.AllWellFormed, Tree.NamedWellFormed]
    decide +kernel
  have hrender : (Interpret.renderText Dialect.latex Config.default markupTexts).result =
      .ok (r"\left\lfloor \frac{\pi \backslash{}left\{\$}{" ++
        r"\mathrm{f_1}(\backslash{}, , \}\%, \lambda)} \right\rfloor") :=
    toOption_eq_some.mp (by decide +kernel)
  exact ⟨_, hrender, balanced_renderText hwell hrender⟩

end Typeset

end ExprMarkup
