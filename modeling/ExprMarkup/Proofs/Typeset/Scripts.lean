import ExprMarkup.Proofs.Typeset.Formula
import ExprMarkup.Proofs.Typeset.Group

namespace ExprMarkup

namespace Source.Expr

variable {π : Type}

/-- The leaves of the expression are names with some property, and neither constants nor calls. -/
def NamedBy (p : String → Prop) : Expr π → Prop
  | .name (.scalar (.text id)) _ => p id
  | .binary _ left right _ => left.NamedBy p ∧ right.NamedBy p
  | .unary _ operand _ => operand.NamedBy p
  | .compare left [(_, right)] _ => left.NamedBy p ∧ right.NamedBy p
  | .subscript value index _ => value.NamedBy p ∧ index.NamedBy p
  | _ => False

def isSubscript : Expr π → Bool
  | .subscript _ _ _ => true
  | _ => false

/-- Somewhere in the expression a subscript is the base of a subscript. -/
def nestsSubscripts : Expr π → Bool
  | .binary _ left right _ => left.nestsSubscripts || right.nestsSubscripts
  | .unary _ operand _ => operand.nestsSubscripts
  | .compare left [(_, right)] _ => left.nestsSubscripts || right.nestsSubscripts
  | .subscript value index _ => value.nestsSubscripts || value.isSubscript || index.nestsSubscripts
  | _ => false

theorem precedence_of_isSubscript {e : Expr π} (h : e.isSubscript = true) :
    e.precedence = atomPrecedence := by
  cases e with
  | subscript value index p => rfl
  | _ => cases h

end Source.Expr

namespace Typeset

open Source hiding Token
open Capture Dialect

/-- A part of a formula: its groups are closed, it neither begins nor ends in a mark of scripts, no base in
it has two superscripts, and `nested` says whether one has two subscripts. -/
structure Part (text : List Char) (nested : Bool) : Prop where
  closed : Closed text
  head : text.head? ≠ some '_' ∧ text.head? ≠ some '^'
  last : text.getLast? ≠ some '_' ∧ text.getLast? ≠ some '^'
  raised : doubled '^' text = false
  lowered : doubled '_' text = nested

instance (text : List Char) (nested : Bool) : Decidable (Part text nested) :=
  decidable_of_iff (Closed text ∧ (text.head? ≠ some '_' ∧ text.head? ≠ some '^') ∧
      (text.getLast? ≠ some '_' ∧ text.getLast? ≠ some '^') ∧
      doubled '^' text = false ∧ doubled '_' text = nested)
    ⟨fun ⟨hclosed, hhead, hlast, hraised, hlowered⟩ => ⟨hclosed, hhead, hlast, hraised, hlowered⟩,
      fun h => ⟨h.closed, h.head, h.last, h.raised, h.lowered⟩⟩

section

variable {a b : List Char} {n m : Bool}

theorem startsScript_eq_false {mark : Char} {text : List Char} (h : text.head? ≠ some mark) :
    startsScript mark text = false := by
  rw [Bool.eq_false_iff]
  intro hstarts
  obtain ⟨after, rfl⟩ := startsScript_iff.mp hstarts
  exact h rfl

/-- Nothing is doubled between texts that do not meet in a mark. -/
theorem doubled_append_of_ne {mark : Char} (ha : Closed a) (hlast : a.getLast? ≠ some mark)
    (hhead : b.head? ≠ some mark) : doubled mark (a ++ b) = (doubled mark a || doubled mark b) := by
  have happart : Apart mark a b := fun _ => hlast
  rw [doubled_append ha.complete happart, startsScript_eq_false hhead, Bool.and_false, Bool.or_false]

theorem Part.append (ha : Part a n) (hb : Part b m) : Part (a ++ b) (n || m) where
  closed := ha.closed.append hb.closed
  head := by
    cases a with
    | nil => exact hb.head
    | cons c rest => exact ha.head
  last := by
    by_cases hempty : b = []
    · rw [hempty, List.append_nil]
      exact ha.last
    · rw [List.getLast?_append_of_ne_nil _ hempty]
      exact hb.last
  raised := by
    rw [doubled_append_of_ne ha.closed ha.last.2 hb.head.2, ha.raised, hb.raised]
    rfl
  lowered := by rw [doubled_append_of_ne ha.closed ha.last.1 hb.head.1, ha.lowered, hb.lowered]

theorem getLast?_braced (text : List Char) : (braced text).getLast? = some '}' := by
  have hsplit : braced text = ('{' :: text) ++ ['}'] := rfl
  rw [hsplit, List.getLast?_concat]

theorem Part.inBraces (ha : Part a n) : Part (braced a) n where
  closed := ha.closed.braced
  head := by
    have hhead : (braced a).head? = some '{' := rfl
    rw [hhead]
    decide
  last := by
    rw [getLast?_braced]
    decide
  raised := (doubled_braced (by decide) ha.closed).trans ha.raised
  lowered := (doubled_braced (by decide) ha.closed).trans ha.lowered

/-- A script after its base. The base gets a second one if it ends in a script with the same mark. -/
theorem doubled_scripted {mark own : Char} (hmark : mark ≠ '{') (hown : own ≠ '{') (ha : Closed a)
    (hb : Closed b) : doubled mark (a ++ own :: braced b) =
      (doubled mark a || endsScript mark a && decide (own = mark) || doubled mark b) := by
  have happart : Apart mark a (own :: braced b) := by
    intro h
    exact absurd (Option.some.inj h) hown
  have hstarts : startsScript mark (own :: braced b) = decide (own = mark) := by
    simp [braced, startsScript]
  rw [doubled_append ha.complete happart, hstarts, doubled_script hmark hb]

theorem endsScript_scripted {mark own : Char} (hmark : mark ≠ '{') (hown : own ≠ '{')
    (ha : Closed a) (hb : Closed b) : endsScript mark (a ++ own :: braced b) = decide (own = mark) := by
  have happart : Apart mark a (own :: braced b) := by
    intro h
    exact absurd (Option.some.inj h) hown
  rw [endsScript_append ha.complete happart (by simp), endsScript_script hmark hb]

theorem Part.script {own : Char} (hown : own = '_' ∨ own = '^') (ha : Part a n) (hb : Part b m)
    (hne : a ≠ []) (hbase : own = '^' → endsScript '^' a = false) :
    Part (a ++ own :: braced b) (n || endsScript '_' a && decide (own = '_') || m) := by
  have hbrace : own ≠ '{' := by
    obtain rfl | rfl := hown
    · decide
    · decide
  refine ⟨?_, ?_, ?_, ?_, ?_⟩
  · have hstep : openAfter 0 (own :: braced b) = openAfter 0 (braced b) := by
      obtain rfl | rfl := hown
      · rfl
      · rfl
    have hscript : Closed (own :: braced b) := hstep.trans hb.closed.braced
    exact ha.closed.append hscript
  · cases a with
    | nil => exact absurd rfl hne
    | cons c rest => exact ha.head
  · have hsplit : a ++ own :: braced b = (a ++ [own]) ++ braced b := by simp
    rw [hsplit, List.getLast?_append_of_ne_nil _ (by simp [braced]), getLast?_braced]
    decide
  · have hfree : (endsScript '^' a && decide (own = '^')) = false := by
      by_cases hraise : own = '^'
      · rw [hbase hraise]
        rfl
      · simp [hraise]
    rw [doubled_scripted (by decide) hbrace ha.closed hb.closed, ha.raised, hb.raised, hfree]
    rfl
  · rw [doubled_scripted (by decide) hbrace ha.closed hb.closed, ha.lowered, hb.lowered]

/-- No character of the text is a brace or a mark of scripts. -/
def Unmarked (text : List Char) : Prop :=
  '{' ∉ text ∧ '}' ∉ text ∧ '_' ∉ text ∧ '^' ∉ text

instance (text : List Char) : Decidable (Unmarked text) :=
  inferInstanceAs (Decidable (_ ∧ _ ∧ _ ∧ _))

theorem Unmarked.part (h : Unmarked a) : Part a false := by
  obtain ⟨hopening, hclosing, hlow, hhigh⟩ := h
  have hclosed : ∀ n, openAfter n a = some n := by
    intro n
    clear hlow hhigh
    induction a with
    | nil => rfl
    | cons c rest ih =>
      rw [List.mem_cons, not_or] at hopening hclosing
      rw [openAfter, braceStep, if_neg (Ne.symm hopening.1), if_neg (Ne.symm hclosing.1)]
      exact ih hopening.2 hclosing.2
  have hdoubled : ∀ mark, doubled mark a = false := by
    intro mark
    rw [Bool.eq_false_iff]
    intro hdouble
    obtain ⟨before, inside, after, -, htext⟩ := doubled_iff.mp hdouble
    exact hopening (by simp [htext])
  have hhead : ∀ {c}, c ∉ a → a.head? ≠ some c := fun hc h => hc (List.mem_of_mem_head? h)
  have hlast : ∀ {c}, c ∉ a → a.getLast? ≠ some c := fun hc h => hc (List.mem_of_getLast? h)
  exact ⟨hclosed 0, ⟨hhead hlow, hhead hhigh⟩, ⟨hlast hlow, hlast hhigh⟩, hdoubled '^', hdoubled '_'⟩

theorem Unmarked.endsScript_eq_false (h : Unmarked a) (mark : Char) : endsScript mark a = false := by
  refine Typeset.endsScript_eq_false ?_
  intro hlast
  exact h.2.1 (List.mem_of_getLast? hlast)

end

/-- The text that a tree is rendered to. -/
def Writes (t : Tree) (text : List Char) : Prop :=
  ∃ f, Dialect.latex.evaluate Config.default t = .ok (.one f) ∧ f.text.toList = text

section

variable {s t : Tree} {a b : List Char} {n m : Bool} {head p q r : String} {location : Option Location}

theorem writes_enclose (hprint : ∀ f : Fragment, ∃ text : String,
      (Dialect.latex.rendererFor Config.default head).run [.one f] [] = .ok ⟨text⟩ ∧
        text.toList = p.toList ++ (f.text.toList ++ q.toList)) (ht : Writes t a) :
    Writes (.call head [t] [] location) (p.toList ++ (a ++ q.toList)) := by
  obtain ⟨f, hf, rfl⟩ := ht
  obtain ⟨text, hrun, htext⟩ := hprint f
  refine ⟨⟨text⟩, ?_, htext⟩
  rw [evaluate_call_ok]
  exact ⟨[.one f], [], ⟨text⟩, by rw [evaluateArgs, hf]; rfl, rfl, hrun, rfl⟩

theorem writes_join (hprint : ∀ f g : Fragment, ∃ text : String,
      (Dialect.latex.rendererFor Config.default head).run [.one f, .one g] [] = .ok ⟨text⟩ ∧
        text.toList = p.toList ++ (f.text.toList ++ (q.toList ++ (g.text.toList ++ r.toList))))
    (hs : Writes s a) (ht : Writes t b) :
    Writes (.call head [s, t] [] location) (p.toList ++ (a ++ (q.toList ++ (b ++ r.toList)))) := by
  obtain ⟨f, hf, rfl⟩ := hs
  obtain ⟨g, hg, rfl⟩ := ht
  obtain ⟨text, hrun, htext⟩ := hprint f g
  refine ⟨⟨text⟩, ?_, htext⟩
  rw [evaluate_call_ok]
  exact ⟨[.one f, .one g], [], ⟨text⟩, by rw [evaluateArgs, hf, evaluateArgs, hg]; rfl, rfl, hrun, rfl⟩

theorem prints_slot (h : (head, some (.slots [p, q])) ∈ formulaTemplates) (f : Fragment) :
    ∃ text : String, (Dialect.latex.rendererFor Config.default head).run [.one f] [] = .ok ⟨text⟩ ∧
      text.toList = p.toList ++ (f.text.toList ++ q.toList) :=
  ⟨_, print_enclose h f, by simp⟩

theorem prints_slots (h : (head, some (.slots [p, q, r])) ∈ formulaTemplates) (f g : Fragment) :
    ∃ text : String,
      (Dialect.latex.rendererFor Config.default head).run [.one f, .one g] [] = .ok ⟨text⟩ ∧
        text.toList = p.toList ++ (f.text.toList ++ (q.toList ++ (g.text.toList ++ r.toList))) :=
  ⟨_, print_join h f g, by simp⟩

/-- An operand, with what it is written as. -/
structure Operand (t : Tree) (text : List Char) (nested : Bool) : Prop where
  writes : Writes t text
  part : Part text nested
  nonempty : text ≠ []

theorem Operand.enclose (ht : Operand t a n) (hp : Part p.toList false) (hq : Part q.toList false)
    (hprint : ∀ f : Fragment, ∃ text : String,
      (Dialect.latex.rendererFor Config.default head).run [.one f] [] = .ok ⟨text⟩ ∧
        text.toList = p.toList ++ (f.text.toList ++ q.toList)) :
    Operand (.call head [t] [] location) (p.toList ++ (a ++ q.toList)) n where
  writes := writes_enclose hprint ht.writes
  part := by simpa using hp.append (ht.part.append hq)
  nonempty := by simp [ht.nonempty]

theorem Operand.join (hs : Operand s a n) (ht : Operand t b m) (hp : Part p.toList false)
    (hq : Part q.toList false) (hr : Part r.toList false)
    (hprint : ∀ f g : Fragment, ∃ text : String,
      (Dialect.latex.rendererFor Config.default head).run [.one f, .one g] [] = .ok ⟨text⟩ ∧
        text.toList = p.toList ++ (f.text.toList ++ (q.toList ++ (g.text.toList ++ r.toList)))) :
    Operand (.call head [s, t] [] location) (p.toList ++ (a ++ (q.toList ++ (b ++ r.toList))))
      (n || m) where
  writes := writes_join hprint hs.writes ht.writes
  part := by simpa using hp.append (hs.part.append (hq.append (ht.part.append hr)))
  nonempty := by simp [hs.nonempty]

theorem Operand.infix (sign : String) (hs : Operand s a n) (ht : Operand t b m)
    (h : (head, some (.binary sign)) ∈ formulaTemplates) (hsign : Part sign.toList false) :
    ∃ text, Operand (.call head [s, t] [] location) text (n || m) :=
  ⟨_, hs.join ht (p := "") (r := "") (by decide) hsign (by decide) (prints_slots h)⟩

theorem Operand.floor (hs : Operand s a n) (ht : Operand t b m) :
    ∃ text, Operand (.call "floordiv" [s, t] [] location) text (n || m) := by
  have hwrites : Writes (.call "floordiv" [s, t] [] location) (r"\left\lfloor \frac{".toList ++ (a ++
      (r"}{".toList ++ (b ++ r"} \right\rfloor".toList)))) :=
    writes_join (prints_slots (by simp [formulaTemplates])) hs.writes ht.writes
  have htext : r"\left\lfloor \frac{".toList ++ (a ++ (r"}{".toList ++ (b ++
      r"} \right\rfloor".toList))) =
        r"\left\lfloor \frac".toList ++ (braced a ++ (braced b ++ r" \right\rfloor".toList)) := by
    simp [braced]
  have hbefore : Part r"\left\lfloor \frac".toList false := by decide
  have hafter : Part r" \right\rfloor".toList false := by decide
  rw [htext] at hwrites
  have hpart := hbefore.append (hs.part.inBraces.append (ht.part.inBraces.append hafter))
  rw [Bool.false_or, Bool.or_false] at hpart
  exact ⟨_, hwrites, hpart, by simp⟩

/-- A power or a subscript. -/
theorem Operand.script {own : Char} (hown : own = '_' ∨ own = '^') (hs : Operand s a n)
    (ht : Operand t b m) (hbase : own = '^' → endsScript '^' a = false)
    (hq : q.toList = [own, '{']) (h : (head, some (.slots ["", q, r"}"])) ∈ formulaTemplates) :
    Operand (.call head [s, t] [] location) (a ++ own :: braced b)
      (n || endsScript '_' a && decide (own = '_') || m) where
  writes := by
    have hwrites : Writes (.call head [s, t] [] location)
        ("".toList ++ (a ++ (q.toList ++ (b ++ r"}".toList)))) :=
      writes_join (prints_slots h) hs.writes ht.writes
    have htext : "".toList ++ (a ++ (q.toList ++ (b ++ r"}".toList))) = a ++ own :: braced b := by
      simp [hq, braced]
    rwa [htext] at hwrites
  part := hs.part.script hown ht.part hs.nonempty hbase
  nonempty := by simp

theorem Operand.matmul (hs : Operand s a n) (ht : Operand t b m) :
    ∃ text, Operand (.call "matmul" [s, t] [] location) text (n || m) := by
  have hnone := find?_latexTemplates ("matmul", none) (by simp [formulaTemplates])
  refine ⟨_, hs.join ht (p := r"\mathrm{matmul}(") (q := ", ") (r := ")") (by decide) (by decide)
    (by decide) ?_⟩
  intro f g
  refine ⟨r"\mathrm{" ++ "matmul" ++ r"}(" ++ (f.text ++ ", " ++ g.text) ++ ")", ?_, by simp⟩
  rw [rendererFor_latex, hnone]
  rfl

theorem Operand.invert (ht : Operand t a n) :
    ∃ text, Operand (.call "invert" [t] [] location) text n := by
  have hnone := find?_latexTemplates ("invert", none) (by simp [formulaTemplates])
  refine ⟨_, ht.enclose (p := r"\mathrm{invert}(") (q := ")") (by decide) (by decide) ?_⟩
  intro f
  refine ⟨r"\mathrm{" ++ "invert" ++ r"}(" ++ f.text ++ ")", ?_, by simp⟩
  rw [rendererFor_latex, hnone]
  rfl

theorem Operand.prefixed (sign : String) (ht : Operand t a n)
    (h : (head, some (.unary sign "")) ∈ formulaTemplates) (hsign : Part sign.toList false) :
    ∃ text, Operand (.call head [t] [] location) text n :=
  ⟨_, ht.enclose hsign (q := "") (by decide) (prints_slot h)⟩

/-- An operand in parentheses, or as it is. What is in parentheses ends in no script. -/
theorem Operand.wrap (ht : Operand t a n) (grouped : Bool) :
    ∃ text, Operand (wrap grouped t) text n ∧
      ∀ mark, endsScript mark text = (!grouped && endsScript mark a) := by
  cases grouped with
  | false => exact ⟨a, ht, fun mark => rfl⟩
  | true =>
    have hgroup : Operand (.call group [t] [] t.location)
        (r"\left( ".toList ++ (a ++ r" \right)".toList)) n :=
      ht.enclose (by decide) (by decide) (prints_slot (by simp [formulaTemplates, Template.unary]))
    refine ⟨_, hgroup, fun mark => ?_⟩
    refine endsScript_eq_false ?_
    rw [List.getLast?_append_of_ne_nil _ (by simp), List.getLast?_append_of_ne_nil _ (by simp)]
    decide

end

theorem unmarked_latexSymbols : ∀ e ∈ latexSymbols, e.2.toList ≠ [] ∧ Unmarked e.2.toList := by
  decide +kernel

/-- A name without underscores is written without marks, known or not. -/
theorem unmarked_symbolText {id : String} (hid : Text.isIdentifier id = true) (h : '_' ∉ id.toList) :
    (Dialect.latex.symbolText id).text.toList ≠ [] ∧
      Unmarked (Dialect.latex.symbolText id).text.toList := by
  by_cases hkey : id ∈ latexSymbols.map Prod.fst
  · have hfind : Dialect.latex.symbols.find? id =
        ((latexSymbols.map fun e => (e.1, (⟨e.2⟩ : Fragment))).find? fun e => e.1 == id).map Prod.snd :=
      Table.find?_ofList (by simpa [Function.comp_def] using nodup_latexSymbols) id
    obtain ⟨e, he, rfl⟩ := List.mem_map.mp hkey
    have hsome : ((latexSymbols.map fun e => (e.1, (⟨e.2⟩ : Fragment))).find?
        fun known => known.1 == e.1).isSome = true :=
      List.find?_isSome.mpr ⟨_, List.mem_map_of_mem he, by simp⟩
    obtain ⟨known, hknown⟩ := Option.isSome_iff_exists.mp hsome
    obtain ⟨e', he', rfl⟩ := List.mem_map.mp (List.mem_of_find?_eq_some hknown)
    rw [Dialect.symbolText, hfind, hknown]
    exact unmarked_latexSymbols e' he'
  · obtain ⟨hne, hall⟩ := Text.isNameChar_of_isIdentifier hid
    rw [symbolText_latex hid hkey]
    have hnot : ∀ {c}, Text.isNameChar c = false → c ∉ id.toList := by
      intro c hc hmem
      exact Bool.false_ne_true (hc.symm.trans (hall c hmem))
    exact ⟨hne, hnot rfl, hnot rfl, h, hnot rfl⟩

section

variable {s t : Tree} {a b : List Char} {n m : Bool} {head : String} {location : Option Location}

theorem operand_binary {op : BinaryOp} (hhead : op.head? = some head) (hs : Operand s a n)
    (ht : Operand t b m) (hbase : op = .pow → endsScript '^' a = false) :
    ∃ text, Operand (.call head [s, t] [] location) text (n || m) := by
  cases op <;> cases hhead
  case add => exact hs.infix Mark.plus.text ht (by simp [formulaTemplates]) (by decide)
  case sub => exact hs.infix Mark.minus.text ht (by simp [formulaTemplates]) (by decide)
  case mul => exact hs.infix Mark.times.text ht (by simp [formulaTemplates]) (by decide)
  case truediv => exact hs.infix Mark.over.text ht (by simp [formulaTemplates]) (by decide)
  case floordiv => exact hs.floor ht
  case mod => exact hs.infix Mark.modulo.text ht (by simp [formulaTemplates]) (by decide)
  case pow =>
    have hpower : Operand (.call "pow" [s, t] [] location) (a ++ '^' :: braced b)
        (n || endsScript '_' a && decide ('^' = '_') || m) :=
      hs.script (.inr rfl) ht (fun _ => hbase rfl) (q := r"^{") rfl (by simp [formulaTemplates])
    exact ⟨_, by simpa using hpower⟩
  case matmul => exact hs.matmul ht

theorem operand_unary {op : UnaryOp} (hhead : op.head? = some head) (ht : Operand t a n) :
    ∃ text, Operand (.call head [t] [] location) text n := by
  cases op <;> cases hhead
  case neg => exact ht.prefixed Mark.negative.text (by simp [formulaTemplates]) (by decide)
  case pos => exact ht.prefixed Mark.positive.text (by simp [formulaTemplates]) (by decide)
  case invert => exact ht.invert

theorem operand_compare {op : CompareOp} (hhead : op.head? = some head) (hs : Operand s a n)
    (ht : Operand t b m) : ∃ text, Operand (.call head [s, t] [] location) text (n || m) := by
  cases op <;> cases hhead
  case eq => exact hs.infix Mark.equal.text ht (by simp [formulaTemplates]) (by decide)
  case ne => exact hs.infix Mark.notEqual.text ht (by simp [formulaTemplates]) (by decide)
  case lt => exact hs.infix Mark.less.text ht (by simp [formulaTemplates]) (by decide)
  case le => exact hs.infix Mark.lessEqual.text ht (by simp [formulaTemplates]) (by decide)
  case gt => exact hs.infix Mark.greater.text ht (by simp [formulaTemplates]) (by decide)
  case ge => exact hs.infix Mark.greaterEqual.text ht (by simp [formulaTemplates]) (by decide)

/-- An operator binds no tighter than a power. -/
theorem precedence_le_of_head? {op : BinaryOp} (hhead : op.head? = some head) :
    op.precedence ≤ BinaryOp.pow.precedence := by
  cases op with
  | other kind => cases hhead
  | _ => decide

end

variable {π : Type} {allowed : String → Prop}

/-- Only what binds tighter than a power is written without parentheses as the base of a script, and of
that only a subscript ends in a script. -/
theorem operand_captured (place : π → Location) {e : Expr π} (he : e.Supported allowed)
    (hnames : e.NamedBy fun id => '_' ∉ id.toList) :
    ∃ text, Operand (captured place e) text e.nestsSubscripts ∧
      (BinaryOp.pow.precedence < e.precedence →
        endsScript '^' text = false ∧ endsScript '_' text = e.isSubscript) := by
  induction e, he using Expr.Supported.induction with
  | constant s p => exact hnames.elim
  | name id p he hid =>
    obtain ⟨hne, hunmarked⟩ := unmarked_symbolText hid hnames
    refine ⟨_, ⟨⟨_, rfl, rfl⟩, hunmarked.part, hne⟩, fun _ => ?_⟩
    exact ⟨hunmarked.endsScript_eq_false '^', hunmarked.endsScript_eq_false '_'⟩
  | sequence isTuple items ss p => exact hnames.elim
  | call f q args named p => exact hnames.elim
  | binary op head left right p _ _ _ hhead hleft hright =>
    obtain ⟨a, ha, hends⟩ := hleft hnames.1
    obtain ⟨b, hb, -⟩ := hright hnames.2
    obtain ⟨a', ha', hends'⟩ := ha.wrap (op.groupsLeft left)
    obtain ⟨b', hb', -⟩ := hb.wrap (op.groupsRight right)
    have hbase : op = .pow → endsScript '^' a' = false := by
      intro hop
      subst hop
      rw [hends']
      by_cases hloose : left.precedence ≤ BinaryOp.pow.precedence
      · simp [BinaryOp.groupsLeft, hloose]
      · rw [(hends (Nat.lt_of_not_le hloose)).1, Bool.and_false]
    have hloose : ¬BinaryOp.pow.precedence < op.precedence :=
      Nat.not_lt.mpr (precedence_le_of_head? hhead)
    rw [captured, hhead]
    exact (operand_binary hhead ha' hb' hbase).imp fun text htext =>
      ⟨htext, fun htight => absurd htight hloose⟩
  | unary op head operand p _ _ hhead hoperand =>
    obtain ⟨a, ha, -⟩ := hoperand hnames
    obtain ⟨a', ha', -⟩ := ha.wrap (operand.precedence < unaryPrecedence)
    have hloose : ¬BinaryOp.pow.precedence < unaryPrecedence := by decide
    rw [captured, hhead]
    exact (operand_unary hhead ha').imp fun text htext => ⟨htext, fun htight => absurd htight hloose⟩
  | compare op head left right p _ _ _ hhead hleft hright =>
    obtain ⟨a, ha, -⟩ := hleft hnames.1
    obtain ⟨b, hb, -⟩ := hright hnames.2
    obtain ⟨a', ha', -⟩ := ha.wrap (left.precedence ≤ comparePrecedence)
    obtain ⟨b', hb', -⟩ := hb.wrap (right.precedence ≤ comparePrecedence)
    have hloose : ¬BinaryOp.pow.precedence < comparePrecedence := by decide
    rw [captured, hhead]
    exact (operand_compare hhead ha' hb').imp fun text htext =>
      ⟨htext, fun htight => absurd htight hloose⟩
  | subscript value index p _ _ _ hvalue hindex =>
    obtain ⟨a, ha, hends⟩ := hvalue hnames.1
    obtain ⟨b, hb, -⟩ := hindex hnames.2
    obtain ⟨a', ha', hends'⟩ := ha.wrap (value.precedence < atomPrecedence)
    have hbase : endsScript '_' a' = value.isSubscript := by
      rw [hends']
      by_cases hloose : value.precedence < atomPrecedence
      · have hnot : value.isSubscript = false := by
          rw [Bool.eq_false_iff]
          intro hsubscript
          exact absurd (Expr.precedence_of_isSubscript hsubscript) (Nat.ne_of_lt hloose)
        simp [hloose, hnot]
      · have htight : BinaryOp.pow.precedence < value.precedence :=
          Nat.lt_of_lt_of_le (by decide) (Nat.le_of_not_lt hloose)
        simp [hloose, (hends htight).2]
    have htext : Operand (captured place (.subscript value index p)) (a' ++ '_' :: braced b)
        (value.nestsSubscripts || endsScript '_' a' && decide ('_' = '_') || index.nestsSubscripts) :=
      ha'.script (.inl rfl) hb (fun h => absurd h (by decide)) (q := r"_{") rfl
        (by simp [formulaTemplates])
    rw [hbase, decide_eq_true rfl, Bool.and_true] at htext
    refine ⟨_, htext, fun _ => ?_⟩
    have hclosed := ha'.part.closed
    exact ⟨endsScript_scripted (by decide) (by decide) hclosed hb.part.closed,
      endsScript_scripted (by decide) (by decide) hclosed hb.part.closed⟩

/-- No base has two superscripts, and one has two subscripts exactly if a subscript is the base of a
subscript somewhere. -/
theorem renderText_scripts {locate : π → Except Fault Location} {e : Expr π} {t : Tree} {text : String}
    (he : e.Supported allowed) (hnames : e.NamedBy fun id => '_' ∉ id.toList)
    (hcapture : capture locate e = .ok t)
    (hrender : (Interpret.renderText Dialect.latex Config.default t).result = .ok text) :
    ¬DoubleScript '^' text.toList ∧ (DoubleScript '_' text.toList ↔ e.nestsSubscripts = true) := by
  obtain ⟨chars, ⟨hwrites, hpart, -⟩, -⟩ := operand_captured (placed locate) he hnames
  rw [captured_of_capture he hcapture] at hwrites
  obtain ⟨f, hf, rfl⟩ := hwrites
  obtain ⟨r, hr, rfl⟩ := Interpret.evaluate_of_renderText hrender
  obtain rfl : Rendered.one f = r := Except.ok.inj (hf.symm.trans hr)
  have hraised : doubled '^' f.text.toList = false := hpart.raised
  have hlowered : doubled '_' f.text.toList = e.nestsSubscripts := hpart.lowered
  refine ⟨fun hdouble => ?_, ?_⟩
  · exact Bool.false_ne_true (hraised.symm.trans (doubled_iff.mpr hdouble))
  · rw [← hlowered]
    exact doubled_iff.symm

/-- `(x[i] ** alpha) ** y[k]`, with one place everywhere. -/
def powers (p : π) : Expr π :=
  .binary .pow
    (.binary .pow (.subscript (.name (.text "x") p) (.name (.text "i") p) p) (.name (.text "alpha") p) p)
    (.subscript (.name (.text "y") p) (.name (.text "k") p) p) p

/-- Both scripts of one base, and one more after parentheses. -/
theorem renderText_scripts_powers :
    ∃ (t : Tree) (text : String), capture (fun _ => .ok default) (powers ()) = .ok t ∧
      (Interpret.renderText Dialect.latex Config.default t).result = .ok text ∧
      text = r"\left( x_{i}^{\alpha} \right)^{y_{k}}" ∧
      ¬DoubleScript '^' text.toList ∧
      (DoubleScript '_' text.toList ↔ (powers ()).nestsSubscripts = true) := by
  have hsupported : (powers ()).Supported fun _ => True := by
    simp only [powers, Expr.Supported]
    decide +kernel
  have hnames : (powers ()).NamedBy fun id => '_' ∉ id.toList := by
    simp only [powers, Expr.NamedBy]
    decide +kernel
  have hcapture : capture (fun _ => .ok default) (powers ()) =
      .ok (captured (fun _ => default) (powers ())) :=
    capture_eq_captured (fun _ => rfl) hsupported
  have hrender : (Interpret.renderText Dialect.latex Config.default
      (captured (fun _ => default) (powers ()))).result =
        .ok r"\left( x_{i}^{\alpha} \right)^{y_{k}}" :=
    toOption_eq_some.mp (by decide +kernel)
  exact ⟨_, _, hcapture, hrender, rfl, renderText_scripts hsupported hnames hcapture hrender⟩

/-- `x[i][j]`, with one place everywhere. -/
def nestedScripts (p : π) : Expr π :=
  .subscript (.subscript (.name (.text "x") p) (.name (.text "i") p) p) (.name (.text "j") p) p

/-- The base of a subscript gets a second one. -/
theorem renderText_scripts_nested :
    ∃ t : Tree, (nestedScripts ()).Supported (fun _ => True) ∧
      (nestedScripts ()).NamedBy (fun id => '_' ∉ id.toList) ∧
      capture (fun _ => .ok default) (nestedScripts ()) = .ok t ∧
      (Interpret.renderText Dialect.latex Config.default t).result = .ok "x_{i}_{j}" ∧
      DoubleScript '_' "x_{i}_{j}".toList := by
  have hsupported : (nestedScripts ()).Supported fun _ => True := by
    simp only [nestedScripts, Expr.Supported]
    decide +kernel
  have hnames : (nestedScripts ()).NamedBy fun id => '_' ∉ id.toList := by
    simp only [nestedScripts, Expr.NamedBy]
    decide +kernel
  have hcapture : capture (fun _ => .ok default) (nestedScripts ()) =
      .ok (captured (fun _ => default) (nestedScripts ())) :=
    capture_eq_captured (fun _ => rfl) hsupported
  have hrender : (Interpret.renderText Dialect.latex Config.default
      (captured (fun _ => default) (nestedScripts ()))).result = .ok "x_{i}_{j}" :=
    toOption_eq_some.mp (by decide +kernel)
  exact ⟨_, hsupported, hnames, hcapture, hrender, doubled_iff.mp (by decide +kernel)⟩

end Typeset

end ExprMarkup
