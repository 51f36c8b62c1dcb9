import ExprMarkup.Dialect.Latex
import ExprMarkup.Proofs.Evaluation
import ExprMarkup.Proofs.Grammar.ReadBack
import ExprMarkup.Proofs.Typeset.Lexeme

namespace ExprMarkup

namespace Source.Expr

variable {π : Type}

/-- Formulas: names that are written as they are, operators, single comparisons and subscripts. -/
def Formula : Expr π → Prop
  | .name (.scalar (.text id)) _ =>
    Text.isIdentifier id = true ∧ id ∉ Dialect.latexSymbols.map Prod.fst
  | .binary op left right _ => op.head?.isSome = true ∧ left.Formula ∧ right.Formula
  | .unary op operand _ => op.head?.isSome = true ∧ operand.Formula
  | .compare left [(op, right)] _ => op.head?.isSome = true ∧ left.Formula ∧ right.Formula
  | .subscript value index _ => value.Formula ∧ index.Formula
  | _ => False

/-- Induction over formulas, one case for each way to make one. -/
@[elab_as_elim]
theorem Formula.induction {motive : (e : Expr π) → e.Formula → Prop}
    (name : ∀ id p (hid : Text.isIdentifier id = true)
      (hkey : id ∉ Dialect.latexSymbols.map Prod.fst), motive (.name (.text id) p) ⟨hid, hkey⟩)
    (binary : ∀ (op : BinaryOp) head left right p (hhead : op.head? = some head)
      (hleft : left.Formula) (hright : right.Formula), motive left hleft → motive right hright →
      motive (.binary op left right p) ⟨Option.isSome_of_eq_some hhead, hleft, hright⟩)
    (unary : ∀ (op : UnaryOp) head operand p (hhead : op.head? = some head)
      (hoperand : operand.Formula), motive operand hoperand →
      motive (.unary op operand p) ⟨Option.isSome_of_eq_some hhead, hoperand⟩)
    (compare : ∀ (op : CompareOp) head left right p (hhead : op.head? = some head)
      (hleft : left.Formula) (hright : right.Formula), motive left hleft → motive right hright →
      motive (.compare left [(op, right)] p) ⟨Option.isSome_of_eq_some hhead, hleft, hright⟩)
    (subscript : ∀ value index p (hvalue : value.Formula) (hindex : index.Formula),
      motive value hvalue → motive index hindex →
      motive (.subscript value index p) ⟨hvalue, hindex⟩)
    (e : Expr π) (he : e.Formula) : motive e he := by
  induction e with
  | name id p =>
    cases id with
    | scalar s =>
      cases s with
      | text id => exact name id p he.1 he.2
      | _ => exact he.elim
    | _ => exact he.elim
  | binary op left right p ihleft ihright =>
    obtain ⟨head, hhead⟩ := Option.isSome_iff_exists.mp he.1
    exact binary op head left right p hhead he.2.1 he.2.2 (ihleft he.2.1) (ihright he.2.2)
  | unary op operand p ihoperand =>
    obtain ⟨head, hhead⟩ := Option.isSome_iff_exists.mp he.1
    exact unary op head operand p hhead he.2 (ihoperand he.2)
  | compare left rest p ihleft ihrest =>
    cases rest with
    | nil => exact he.elim
    | cons first more =>
      obtain ⟨op, right⟩ := first
      cases more with
      | nil =>
        obtain ⟨head, hhead⟩ := Option.isSome_iff_exists.mp he.1
        exact compare op head left right p hhead he.2.1 he.2.2 (ihleft he.2.1)
          (ihrest (op, right) (by simp) he.2.2)
      | cons second more => exact he.elim
  | subscript value index p ihvalue ihindex =>
    exact subscript value index p he.1 he.2 (ihvalue he.1) (ihindex he.2)
  | _ => exact he.elim

mutual

/-- An expression without its places. -/
def unplaced : Expr π → Expr Unit
  | .constant value _ => .constant value ()
  | .name id _ => .name id ()
  | .sequence isTuple items _ => .sequence isTuple (unplacedAll items) ()
  | .call head args keywords _ =>
    .call (unplaced head) (unplacedAll args) (unplacedKeywords keywords) ()
  | .binary op left right _ => .binary op (unplaced left) (unplaced right) ()
  | .unary op operand _ => .unary op (unplaced operand) ()
  | .compare left rest _ => .compare (unplaced left) (unplacedCompared rest) ()
  | .subscript value index _ => .subscript (unplaced value) (unplaced index) ()
  | .starred value _ => .starred (unplaced value) ()
  | .other kind parts _ => .other kind (unplacedAll parts) ()
  | .defect fault _ => .defect fault ()

def unplacedAll : List (Expr π) → List (Expr Unit)
  | [] => []
  | e :: rest => unplaced e :: unplacedAll rest

def unplacedKeywords : List (Option Value × Expr π) → List (Option Value × Expr Unit)
  | [] => []
  | (key, e) :: rest => (key, unplaced e) :: unplacedKeywords rest

def unplacedCompared : List (CompareOp × Expr π) → List (CompareOp × Expr Unit)
  | [] => []
  | (op, e) :: rest => (op, unplaced e) :: unplacedCompared rest

end

end Source.Expr

namespace Typeset

open Source hiding Token
open Grammar Capture Dialect

/-- The tokens that a mark stands for. What a closed brace stands for was settled where it was
opened. -/
def Mark.tokens : Mark → List Token
  | .plus | .positive => [.sign .plus]
  | .minus | .negative => [.sign .minus]
  | .times => [.sign .star]
  | .over => [.sign .slash]
  | .modulo => [.sign .percent]
  | .equal => [.sign .equal]
  | .notEqual => [.sign .notEqual]
  | .less => [.sign .less]
  | .lessEqual => [.sign .lessEqual]
  | .greater => [.sign .greater]
  | .greaterEqual => [.sign .greaterEqual]
  | .raise => [.sign .doubleStar, .opening .exponent]
  | .lower => [.opening .index]
  | .under => [.sign .doubleSlash]
  | .openGroup => [.opening .group]
  | .closeGroup => [.closing .group]
  | .invert => [.sign .tilde]
  | .comma => [.sign .at]
  | .close | .floor | .endFloor | .matmul | .closeCall => []

/-- What the brace that a mark leaves open will stand for when it is closed. -/
def Mark.opens : Mark → List (List Token)
  | .raise => [[.closing .exponent]]
  | .lower => [[.closing .index]]
  | .floor => [[]]
  | _ => []

/-- Lexemes as tokens, given what the open braces stand for. -/
def translate : List (List Token) → List Lexeme → List Token
  | _, [] => []
  | braces, .name id :: ls => .name id :: translate braces ls
  | braces, .mark .close :: ls => braces.headD [] ++ translate braces.tail ls
  | braces, .mark m :: ls => m.tokens ++ translate (m.opens ++ braces) ls

/-- The lexemes of an operand are proper before any mark, and stand for its tokens. -/
structure Lexes (ls : List Lexeme) (ts : List Token) : Prop where
  proper : ∀ rest, Proper rest → StartsWithMark rest → Proper (ls ++ rest)
  translates : ∀ braces rest, translate braces (ls ++ rest) = ts ++ translate braces rest

abbrev written (ms : List Mark) : List Lexeme := ms.map .mark

theorem proper_written {ms : List Mark} {rest : List Lexeme} (h : Proper rest) :
    Proper (written ms ++ rest) := by
  induction ms with
  | nil => exact h
  | cons m ms ih => exact ih

theorem startsWithMark_written {ms : List Mark} {rest : List Lexeme} (h : StartsWithMark rest) :
    StartsWithMark (written ms ++ rest) := by
  cases ms with
  | nil => exact h
  | cons m ms => simp [StartsWithMark]

theorem lexes_name {id : String} (h : Text.isIdentifier id = true) :
    Lexes [.name id] [.name id] := by
  refine ⟨?_, fun braces rest => rfl⟩
  intro rest hrest hmark
  exact ⟨h, hmark, hrest⟩

/-- One operand between marks. -/
theorem Lexes.enclose {before after : List Mark} {us vs ts : List Token} {ls : List Lexeme}
    (h : Lexes ls ts)
    (hbefore : ∀ braces rest, translate braces (written before ++ rest) = us ++ translate braces rest)
    (hafter : ∀ braces rest, translate braces (written after ++ rest) = vs ++ translate braces rest) :
    Lexes (written before ++ (ls ++ written after)) (us ++ (ts ++ vs)) := by
  constructor
  · intro rest hrest hmark
    simp only [List.append_assoc]
    exact proper_written (h.proper _ (proper_written hrest) (startsWithMark_written hmark))
  · intro braces rest
    simp only [List.append_assoc, hbefore, h.translates, hafter]

/-- Two operands around and between marks. The marks before the second one may open a brace, and those
after it close it again. -/
theorem Lexes.join {m : Mark} {before between after : List Mark} {us vs ws ts ts' : List Token}
    {ls ls' : List Lexeme} (h : Lexes ls ts) (h' : Lexes ls' ts')
    (open₁ open₂ : List (List Token) → List (List Token))
    (hbefore : ∀ braces rest,
      translate braces (written before ++ rest) = us ++ translate (open₁ braces) rest)
    (hbetween : ∀ braces rest, translate (open₁ braces) (written (m :: between) ++ rest) =
      vs ++ translate (open₂ braces) rest)
    (hafter : ∀ braces rest,
      translate (open₂ braces) (written after ++ rest) = ws ++ translate braces rest) :
    Lexes (written before ++ (ls ++ (written (m :: between) ++ (ls' ++ written after))))
      (us ++ (ts ++ (vs ++ (ts' ++ ws)))) := by
  constructor
  · intro rest hrest hmark
    simp only [List.append_assoc]
    have htail : Proper (ls' ++ (written after ++ rest)) :=
      h'.proper _ (proper_written hrest) (startsWithMark_written hmark)
    exact proper_written (h.proper _ (proper_written htail) (by simp [StartsWithMark]))
  · intro braces rest
    simp only [List.append_assoc, hbefore, h.translates, hbetween, h'.translates, hafter]

theorem nodup_latexTemplates : (latexTemplates.map Prod.fst).Nodup := by decide +kernel

theorem nodup_latexSymbols : (latexSymbols.map Prod.fst).Nodup := by decide +kernel

/-- The templates of the operators in formulas. Two of these operators have none. -/
def formulaTemplates : List (String × Option Template) :=
  [("add", some (.binary Mark.plus.text)), ("sub", some (.binary Mark.minus.text)),
   ("mul", some (.binary Mark.times.text)), ("truediv", some (.binary Mark.over.text)),
   ("floordiv", some (.slots [r"\left\lfloor \frac{", r"}{", r"} \right\rfloor"])),
   ("mod", some (.binary Mark.modulo.text)), ("pow", some (.slots ["", r"^{", r"}"])),
   ("matmul", none), ("getitem", some (.slots ["", r"_{", r"}"])),
   ("neg", some (.unary Mark.negative.text "")), ("pos", some (.unary Mark.positive.text "")),
   ("invert", none), ("eq", some (.binary Mark.equal.text)), ("ne", some (.binary Mark.notEqual.text)),
   ("lt", some (.binary Mark.less.text)), ("le", some (.binary Mark.lessEqual.text)),
   ("gt", some (.binary Mark.greater.text)), ("ge", some (.binary Mark.greaterEqual.text)),
   (group, some (.unary r"\left( " r" \right)"))]

theorem find?_latexTemplates : ∀ used ∈ formulaTemplates,
    (latexTemplates.find? fun e => e.1 == used.1).map Prod.snd = used.2 := by decide +kernel

/-- A head has the operator of its template, or else the fallback. -/
theorem rendererFor_latex (config : Config) (head : String) :
    Dialect.latex.rendererFor config head =
      match (latexTemplates.find? fun e => e.1 == head).map Prod.snd with
      | some template => .operator head template
      | none => .mathFallback head config.separator := by
  have hfind : Dialect.latex.operators.find? head =
      ((latexTemplates.map fun e => (e.1, Renderer.operator e.1 e.2)).find?
        fun e => e.1 == head).map Prod.snd :=
    Table.find?_ofList (by simpa [Function.comp_def] using nodup_latexTemplates) head
  rw [rendererFor, hfind, List.find?_map]
  simp only [Function.comp_def]
  cases h : latexTemplates.find? fun e => e.1 == head with
  | none => rfl
  | some e =>
    have hname : e.1 = head := by simpa using List.find?_some h
    simp [hname]

theorem print_enclose {head : String} {p q : String}
    (h : (head, some (.slots [p, q])) ∈ formulaTemplates) (f : Fragment) :
    (Dialect.latex.rendererFor Config.default head).run [.one f] [] =
      .ok ⟨p ++ (f.text ++ q ++ "")⟩ := by
  rw [rendererFor_latex, find?_latexTemplates _ h]
  rfl

theorem print_join {head : String} {p q r : String}
    (h : (head, some (.slots [p, q, r])) ∈ formulaTemplates) (f g : Fragment) :
    (Dialect.latex.rendererFor Config.default head).run [.one f, .one g] [] =
      .ok ⟨p ++ (f.text ++ q ++ (g.text ++ r ++ ""))⟩ := by
  rw [rendererFor_latex, find?_latexTemplates _ h]
  rfl

/-- A tree whose rendering is what lexemes are written as, and whose tokens they stand for. -/
structure Typesets (t : Tree) (ls : List Lexeme) : Prop where
  renders : ∃ f, Dialect.latex.evaluate Config.default t = .ok (.one f) ∧ f.text.toList = write ls
  lexes : Lexes ls (tokens t)

theorem latexSpecial_of_isNameChar {c : Char} (h : Text.isNameChar c = true) :
    Text.latexSpecial c = none := by
  unfold Text.latexSpecial
  split
  all_goals first | rfl | exact absurd h (by decide)

/-- A name that is no key of the symbols is written as it is. -/
theorem symbolText_latex {id : String} (hid : Text.isIdentifier id = true)
    (h : id ∉ latexSymbols.map Prod.fst) : (Dialect.latex.symbolText id).text = id := by
  have hfind : Dialect.latex.symbols.find? id =
      ((latexSymbols.map fun e => (e.1, (⟨e.2⟩ : Fragment))).find? fun e => e.1 == id).map Prod.snd :=
    Table.find?_ofList (by simpa [Function.comp_def] using nodup_latexSymbols) id
  have hnone : (latexSymbols.map fun e => (e.1, (⟨e.2⟩ : Fragment))).find? (fun e => e.1 == id) =
      none := by
    rw [List.find?_eq_none]
    intro e he heq
    obtain ⟨e', he', rfl⟩ := List.mem_map.mp he
    rw [beq_iff_eq] at heq
    exact h (heq ▸ List.mem_map_of_mem he')
  rw [Dialect.symbolText, hfind, hnone]
  apply String.toList_inj.mp
  change (Text.escapeLatex id).toList = id.toList
  rw [Text.escapeLatex, Text.toList_escapeWith]
  exact Text.escapeChars_eq_self fun c hc =>
    latexSpecial_of_isNameChar ((Text.isNameChar_of_isIdentifier hid).2 c hc)

theorem typesets_name {id : String} {location : Option Location} (hid : Text.isIdentifier id = true)
    (h : id ∉ latexSymbols.map Prod.fst) : Typesets (.symbol id location) [.name id] := by
  refine ⟨⟨_, rfl, ?_⟩, lexes_name hid⟩
  rw [symbolText_latex hid h]
  simp [Lexeme.chars]

theorem typesets_enclose {head : String} {before after : List Mark} {us vs : List Token} {t : Tree}
    {ls : List Lexeme} {location : Option Location} (ht : Typesets t ls)
    (hprint : ∀ f, ∃ text : String,
      (Dialect.latex.rendererFor Config.default head).run [.one f] [] = .ok ⟨text⟩ ∧
        text.toList = write (written before) ++ (f.text.toList ++ write (written after)))
    (htokens : tokens (.call head [t] [] location) = us ++ (tokens t ++ vs))
    (hbefore : ∀ braces rest, translate braces (written before ++ rest) = us ++ translate braces rest)
    (hafter : ∀ braces rest, translate braces (written after ++ rest) = vs ++ translate braces rest) :
    Typesets (.call head [t] [] location) (written before ++ (ls ++ written after)) := by
  obtain ⟨⟨f, hf, hwrite⟩, hlexes⟩ := ht
  obtain ⟨text, hrun, htext⟩ := hprint f
  refine ⟨⟨⟨text⟩, ?_, ?_⟩, ?_⟩
  · rw [evaluate_call_ok]
    exact ⟨[.one f], [], ⟨text⟩, by rw [evaluateArgs, hf]; rfl, rfl, hrun, rfl⟩
  · rw [htext, hwrite, write_append, write_append]
  · rw [htokens]
    exact hlexes.enclose hbefore hafter

theorem typesets_join {head : String} {m : Mark} {before between after : List Mark}
    {us vs ws : List Token} {s t : Tree} {ls ls' : List Lexeme} {location : Option Location}
    (hs : Typesets s ls) (ht : Typesets t ls')
    (hprint : ∀ f g, ∃ text : String,
      (Dialect.latex.rendererFor Config.default head).run [.one f, .one g] [] = .ok ⟨text⟩ ∧
        text.toList = write (written before) ++ (f.text.toList ++ (write (written (m :: between)) ++
          (g.text.toList ++ write (written after)))))
    (htokens : tokens (.call head [s, t] [] location) =
      us ++ (tokens s ++ (vs ++ (tokens t ++ ws))))
    (open₁ open₂ : List (List Token) → List (List Token))
    (hbefore : ∀ braces rest,
      translate braces (written before ++ rest) = us ++ translate (open₁ braces) rest)
    (hbetween : ∀ braces rest, translate (open₁ braces) (written (m :: between) ++ rest) =
      vs ++ translate (open₂ braces) rest)
    (hafter : ∀ braces rest,
      translate (open₂ braces) (written after ++ rest) = ws ++ translate braces rest) :
    Typesets (.call head [s, t] [] location)
      (written before ++ (ls ++ (written (m :: between) ++ (ls' ++ written after)))) := by
  obtain ⟨⟨f, hf, hwritef⟩, hlexesf⟩ := hs
  obtain ⟨⟨g, hg, hwriteg⟩, hlexesg⟩ := ht
  obtain ⟨text, hrun, htext⟩ := hprint f g
  refine ⟨⟨⟨text⟩, ?_, ?_⟩, ?_⟩
  · rw [evaluate_call_ok]
    exact ⟨[.one f, .one g], [], ⟨text⟩, by rw [evaluateArgs, hf, evaluateArgs, hg]; rfl, rfl, hrun, rfl⟩
  · simp only [htext, hwritef, hwriteg, write_append]
  · rw [htokens]
    exact hlexesf.join hlexesg open₁ open₂ hbefore hbetween hafter

/-- What a template with one slot prints. -/
theorem prints_enclose {head : String} {p q : String} {before after : List Mark}
    (h : (head, some (.slots [p, q])) ∈ formulaTemplates)
    (hp : p.toList = write (written before)) (hq : q.toList = write (written after)) (f : Fragment) :
    ∃ text : String,
      (Dialect.latex.rendererFor Config.default head).run [.one f] [] = .ok ⟨text⟩ ∧
        text.toList = write (written before) ++ (f.text.toList ++ write (written after)) := by
  refine ⟨_, print_enclose h f, ?_⟩
  simp [hp, hq]

/-- What a template with two slots prints. -/
theorem prints_join {head : String} {p q r : String} {before between after : List Mark}
    (h : (head, some (.slots [p, q, r])) ∈ formulaTemplates)
    (hp : p.toList = write (written before)) (hq : q.toList = write (written between))
    (hr : r.toList = write (written after)) (f g : Fragment) :
    ∃ text : String,
      (Dialect.latex.rendererFor Config.default head).run [.one f, .one g] [] = .ok ⟨text⟩ ∧
        text.toList = write (written before) ++ (f.text.toList ++ (write (written between) ++
          (g.text.toList ++ write (written after)))) := by
  refine ⟨_, print_join h f g, ?_⟩
  simp [hp, hq, hr]

theorem typesets_group {t : Tree} {ls : List Lexeme} {location : Option Location}
    (ht : Typesets t ls) : ∃ ls', Typesets (.call group [t] [] location) ls' := by
  have hprint := @prints_enclose group r"\left( " r" \right)" [.openGroup] [.closeGroup]
    (by simp [formulaTemplates, Template.unary]) rfl rfl
  exact ⟨_, typesets_enclose ht hprint (tokens_group t location) (fun _ _ => rfl) (fun _ _ => rfl)⟩

theorem typesets_wrap {grouped : Bool} {t : Tree} (ht : ∃ ls, Typesets t ls) :
    ∃ ls, Typesets (wrap grouped t) ls := by
  obtain ⟨ls, ht⟩ := ht
  cases grouped with
  | false => exact ⟨ls, ht⟩
  | true => exact typesets_group ht

/-- An operator whose template has one mark, between its operands. -/
theorem typesets_infix {head : String} {m : Mark} {s : Sign} {a b : Tree}
    {location : Option Location}
    (htemplate : (head, some (.binary m.text)) ∈ formulaTemplates)
    (hform : forms.lookup head = some (.binary s))
    (hmark : ∀ braces rest, translate braces (.mark m :: rest) = .sign s :: translate braces rest)
    (ha : ∃ ls, Typesets a ls) (hb : ∃ ls, Typesets b ls) :
    ∃ ls, Typesets (.call head [a, b] [] location) ls := by
  obtain ⟨la, ha⟩ := ha
  obtain ⟨lb, hb⟩ := hb
  have hprint := @prints_join head "" m.text "" [] [m] [] htemplate rfl (by simp [Lexeme.chars]) rfl
  have htokens : tokens (.call head [a, b] [] location) =
      [] ++ (tokens a ++ ([.sign s] ++ (tokens b ++ []))) := by
    rw [tokens_binary hform]
    simp
  exact ⟨_, typesets_join ha hb hprint htokens id id (fun _ _ => rfl) hmark (fun _ _ => rfl)⟩

theorem typesets_power {a b : Tree} {location : Option Location} (ha : ∃ ls, Typesets a ls)
    (hb : ∃ ls, Typesets b ls) : ∃ ls, Typesets (.call "pow" [a, b] [] location) ls := by
  obtain ⟨la, ha⟩ := ha
  obtain ⟨lb, hb⟩ := hb
  have hprint := @prints_join "pow" "" r"^{" r"}" [] [.raise] [.close]
    (by simp [formulaTemplates]) rfl rfl rfl
  have htokens : tokens (.call "pow" [a, b] [] location) =
      [] ++ (tokens a ++ ([.sign .doubleStar, .opening .exponent] ++
        (tokens b ++ [.closing .exponent]))) := rfl
  exact ⟨_, typesets_join ha hb hprint htokens id ([.closing .exponent] :: ·) (fun _ _ => rfl)
    (fun _ _ => rfl) (fun _ _ => rfl)⟩

theorem typesets_subscript {a b : Tree} {location : Option Location} (ha : ∃ ls, Typesets a ls)
    (hb : ∃ ls, Typesets b ls) : ∃ ls, Typesets (.call "getitem" [a, b] [] location) ls := by
  obtain ⟨la, ha⟩ := ha
  obtain ⟨lb, hb⟩ := hb
  have hprint := @prints_join "getitem" "" r"_{" r"}" [] [.lower] [.close]
    (by simp [formulaTemplates]) rfl rfl rfl
  have htokens : tokens (.call "getitem" [a, b] [] location) =
      [] ++ (tokens a ++ ([.opening .index] ++ (tokens b ++ [.closing .index]))) := rfl
  exact ⟨_, typesets_join ha hb hprint htokens id ([.closing .index] :: ·) (fun _ _ => rfl)
    (fun _ _ => rfl) (fun _ _ => rfl)⟩

/-- A floor is a fraction between brackets; the brace after its denominator stands for nothing. -/
theorem typesets_floor {a b : Tree} {location : Option Location} (ha : ∃ ls, Typesets a ls)
    (hb : ∃ ls, Typesets b ls) : ∃ ls, Typesets (.call "floordiv" [a, b] [] location) ls := by
  obtain ⟨la, ha⟩ := ha
  obtain ⟨lb, hb⟩ := hb
  have hprint := @prints_join "floordiv" r"\left\lfloor \frac{" r"}{"
    r"} \right\rfloor" [.floor] [.under] [.close, .endFloor]
    (by simp [formulaTemplates]) rfl rfl rfl
  have htokens : tokens (.call "floordiv" [a, b] [] location) =
      [] ++ (tokens a ++ ([.sign .doubleSlash] ++ (tokens b ++ []))) := by
    rw [tokens_binary (s := .doubleSlash) rfl]
    simp
  exact ⟨_, typesets_join ha hb hprint htokens ([] :: ·) ([] :: ·) (fun _ _ => rfl) (fun _ _ => rfl)
    (fun _ _ => rfl)⟩

/-- An operator without a template is written as a function of its operands. -/
theorem typesets_matmul {a b : Tree} {location : Option Location} (ha : ∃ ls, Typesets a ls)
    (hb : ∃ ls, Typesets b ls) : ∃ ls, Typesets (.call "matmul" [a, b] [] location) ls := by
  obtain ⟨la, ha⟩ := ha
  obtain ⟨lb, hb⟩ := hb
  have hnone := find?_latexTemplates ("matmul", none) (by simp [formulaTemplates])
  have hprint : ∀ f g : Fragment, ∃ text : String,
      (Dialect.latex.rendererFor Config.default "matmul").run [.one f, .one g] [] = .ok ⟨text⟩ ∧
        text.toList = write (written [.matmul]) ++ (f.text.toList ++ (write (written [.comma]) ++
          (g.text.toList ++ write (written [.closeCall])))) := by
    intro f g
    refine ⟨r"\mathrm{" ++ "matmul" ++ r"}(" ++ (f.text ++ ", " ++ g.text) ++ ")", ?_, ?_⟩
    · rw [rendererFor_latex, hnone]
      rfl
    · simp [Lexeme.chars, Mark.text]
  have htokens : tokens (.call "matmul" [a, b] [] location) =
      [] ++ (tokens a ++ ([.sign .at] ++ (tokens b ++ []))) := by
    rw [tokens_binary (s := .at) rfl]
    simp
  exact ⟨_, typesets_join ha hb hprint htokens id id (fun _ _ => rfl) (fun _ _ => rfl)
    (fun _ _ => rfl)⟩

theorem typesets_invert {a : Tree} {location : Option Location} (ha : ∃ ls, Typesets a ls) :
    ∃ ls, Typesets (.call "invert" [a] [] location) ls := by
  obtain ⟨la, ha⟩ := ha
  have hnone := find?_latexTemplates ("invert", none) (by simp [formulaTemplates])
  have hprint : ∀ f : Fragment, ∃ text : String,
      (Dialect.latex.rendererFor Config.default "invert").run [.one f] [] = .ok ⟨text⟩ ∧
        text.toList = write (written [.invert]) ++ (f.text.toList ++
          write (written [.closeCall])) := by
    intro f
    refine ⟨r"\mathrm{" ++ "invert" ++ r"}(" ++ f.text ++ ")", ?_, ?_⟩
    · rw [rendererFor_latex, hnone]
      rfl
    · simp [Lexeme.chars, Mark.text]
  have htokens : tokens (.call "invert" [a] [] location) = [.sign .tilde] ++ (tokens a ++ []) := by
    rw [tokens_unary (s := .tilde) rfl]
    simp
  exact ⟨_, typesets_enclose ha hprint htokens (fun _ _ => rfl) (fun _ _ => rfl)⟩

/-- A sign before its operand. -/
theorem typesets_prefixed {head : String} {m : Mark} {s : Sign} {a : Tree}
    {location : Option Location}
    (htemplate : (head, some (.unary m.text "")) ∈ formulaTemplates)
    (hform : forms.lookup head = some (.unary s))
    (hmark : ∀ braces rest, translate braces (.mark m :: rest) = .sign s :: translate braces rest)
    (ha : ∃ ls, Typesets a ls) : ∃ ls, Typesets (.call head [a] [] location) ls := by
  obtain ⟨la, ha⟩ := ha
  have hprint := @prints_enclose head m.text "" [m] [] htemplate (by simp [Lexeme.chars]) rfl
  have htokens : tokens (.call head [a] [] location) = [.sign s] ++ (tokens a ++ []) := by
    rw [tokens_unary hform]
    simp
  exact ⟨_, typesets_enclose ha hprint htokens hmark (fun _ _ => rfl)⟩

theorem typesets_binary {op : BinaryOp} {head : String} {a b : Tree} {location : Option Location}
    (hhead : op.head? = some head) (ha : ∃ ls, Typesets a ls) (hb : ∃ ls, Typesets b ls) :
    ∃ ls, Typesets (.call head [a, b] [] location) ls := by
  cases op <;> cases hhead
  case add => exact typesets_infix (m := .plus) (by simp [formulaTemplates]) rfl (fun _ _ => rfl) ha hb
  case sub => exact typesets_infix (m := .minus) (by simp [formulaTemplates]) rfl (fun _ _ => rfl) ha hb
  case mul => exact typesets_infix (m := .times) (by simp [formulaTemplates]) rfl (fun _ _ => rfl) ha hb
  case truediv => exact typesets_infix (m := .over) (by simp [formulaTemplates]) rfl (fun _ _ => rfl) ha hb
  case floordiv => exact typesets_floor ha hb
  case mod => exact typesets_infix (m := .modulo) (by simp [formulaTemplates]) rfl (fun _ _ => rfl) ha hb
  case pow => exact typesets_power ha hb
  case matmul => exact typesets_matmul ha hb

theorem typesets_unary {op : UnaryOp} {head : String} {a : Tree} {location : Option Location}
    (hhead : op.head? = some head) (ha : ∃ ls, Typesets a ls) :
    ∃ ls, Typesets (.call head [a] [] location) ls := by
  cases op <;> cases hhead
  case neg => exact typesets_prefixed (m := .negative) (by simp [formulaTemplates]) rfl (fun _ _ => rfl) ha
  case pos => exact typesets_prefixed (m := .positive) (by simp [formulaTemplates]) rfl (fun _ _ => rfl) ha
  case invert => exact typesets_invert ha

theorem typesets_compare {op : CompareOp} {head : String} {a b : Tree} {location : Option Location}
    (hhead : op.head? = some head) (ha : ∃ ls, Typesets a ls) (hb : ∃ ls, Typesets b ls) :
    ∃ ls, Typesets (.call head [a, b] [] location) ls := by
  cases op <;> cases hhead
  case eq => exact typesets_infix (m := .equal) (by simp [formulaTemplates]) rfl (fun _ _ => rfl) ha hb
  case ne => exact typesets_infix (m := .notEqual) (by simp [formulaTemplates]) rfl (fun _ _ => rfl) ha hb
  case lt => exact typesets_infix (m := .less) (by simp [formulaTemplates]) rfl (fun _ _ => rfl) ha hb
  case le => exact typesets_infix (m := .lessEqual) (by simp [formulaTemplates]) rfl (fun _ _ => rfl) ha hb
  case gt => exact typesets_infix (m := .greater) (by simp [formulaTemplates]) rfl (fun _ _ => rfl) ha hb
  case ge => exact typesets_infix (m := .greaterEqual) (by simp [formulaTemplates]) rfl (fun _ _ => rfl) ha hb

variable {π π' : Type} {place : π → Location}

/-- Every formula has lexemes. -/
theorem typesets_captured {e : Expr π} (he : e.Formula) : ∃ ls, Typesets (captured place e) ls := by
  induction e, he using Expr.Formula.induction with
  | name id p hid hkey => exact ⟨_, typesets_name hid hkey⟩
  | binary op head left right p hhead _ _ hleft hright =>
    rw [captured, hhead]
    exact typesets_binary hhead (typesets_wrap hleft) (typesets_wrap hright)
  | unary op head operand p hhead _ hoperand =>
    rw [captured, hhead]
    exact typesets_unary hhead (typesets_wrap hoperand)
  | compare op head left right p hhead _ _ hleft hright =>
    rw [captured, hhead]
    exact typesets_compare hhead (typesets_wrap hleft) (typesets_wrap hright)
  | subscript value index p _ _ hvalue hindex =>
    exact typesets_subscript (typesets_wrap hvalue) hindex

theorem supported_of_formula {allowed : String → Prop} {e : Expr π} (he : e.Formula) :
    e.Supported allowed := by
  induction e, he using Expr.Formula.induction with
  | name id p hid hkey => exact hid
  | binary op head left right p hhead _ _ hleft hright =>
    exact ⟨by simp [hhead], hleft, hright⟩
  | unary op head operand p hhead _ hoperand => exact ⟨by simp [hhead], hoperand⟩
  | compare op head left right p hhead _ _ hleft hright =>
    exact ⟨by simp [hhead], hleft, hright⟩
  | subscript value index p _ _ hvalue hindex => exact ⟨hvalue, hindex⟩

/-- A formula has neither lists nor keywords, so its tree loses nothing but places. -/
theorem plain_of_formula {e : Expr π} (he : e.Formula) : e.plain = e.unplaced := by
  induction e, he using Expr.Formula.induction with
  | name id p => rfl
  | binary op head left right p _ _ _ hleft hright =>
    rw [Expr.plain, Expr.unplaced, hleft, hright]
  | unary op head operand p _ _ hoperand => rw [Expr.plain, Expr.unplaced, hoperand]
  | compare op head left right p _ _ _ hleft hright =>
    simp only [Expr.plain, Expr.plainCompared, Expr.unplaced, Expr.unplacedCompared, hleft, hright]
  | subscript value index p _ _ hvalue hindex => rw [Expr.plain, Expr.unplaced, hvalue, hindex]

/-- What is read from the text of a formula's tree: proper lexemes, and from them the expression. -/
theorem read_of_renderText {locate : π → Except Fault Location} {e : Expr π} {t : Tree} {text : String}
    (he : e.Formula) (hcapture : capture locate e = .ok t)
    (hrender : (Interpret.renderText Dialect.latex Config.default t).result = .ok text) :
    ∃ ls, Proper ls ∧ text.toList = write ls ∧ read (translate [] ls) = some e.unplaced := by
  have hsupported : e.Supported (· ∉ operatorNames) := supported_of_formula he
  obtain ⟨ls, htypesets⟩ : ∃ ls, Typesets (captured (placed locate) e) ls := typesets_captured he
  rw [captured_of_capture hsupported hcapture] at htypesets
  obtain ⟨⟨f, hf, hwrite⟩, hlexes⟩ := htypesets
  obtain ⟨r, hr, rfl⟩ := Interpret.evaluate_of_renderText hrender
  obtain rfl : Rendered.one f = r := Except.ok.inj (hf.symm.trans hr)
  have hproper : Proper ls := by simpa using hlexes.proper [] trivial (by simp [StartsWithMark])
  have htokens : translate [] ls = tokens t := by simpa [translate] using hlexes.translates [] []
  have hfits : Fits (level e) (tokens (captured (placed locate) e)) e.plain :=
    fits_captured hsupported
  rw [captured_of_capture hsupported hcapture, plain_of_formula he] at hfits
  refine ⟨ls, hproper, hwrite, ?_⟩
  rw [htokens]
  exact read_fits (hfits.mono (Nat.zero_le _))

/-- Formulas with one text are the same but for their places. -/
theorem unplaced_eq_of_renderText {locate : π → Except Fault Location}
    {locate' : π' → Except Fault Location} {e : Expr π} {e' : Expr π'} {t t' : Tree} {text : String}
    (he : e.Formula) (he' : e'.Formula) (hcapture : capture locate e = .ok t)
    (hcapture' : capture locate' e' = .ok t')
    (hrender : (Interpret.renderText Dialect.latex Config.default t).result = .ok text)
    (hrender' : (Interpret.renderText Dialect.latex Config.default t').result = .ok text) :
    e.unplaced = e'.unplaced := by
  obtain ⟨ls, hproper, hwrite, hread⟩ := read_of_renderText he hcapture hrender
  obtain ⟨ls', hproper', hwrite', hread'⟩ := read_of_renderText he' hcapture' hrender'
  obtain rfl : ls = ls' := write_injective hproper hproper' (hwrite.symm.trans hwrite')
  exact Option.some.inj (hread.symm.trans hread')

/-- `x_[i] @ (-y // z ** ~w)`, with one place everywhere. -/
def scripts (p : π) : Expr π :=
  .binary .matmul (.subscript (.name (.text "x_") p) (.name (.text "i") p) p)
    (.binary .floordiv (.unary .neg (.name (.text "y") p) p)
      (.binary .pow (.name (.text "z") p) (.unary .invert (.name (.text "w") p) p) p) p) p

/-- The places of the two expressions are of different kinds, and their text is one. -/
theorem unplaced_eq_of_renderText_scripts :
    ∃ t t' : Tree, ∃ text : String,
      capture (fun p : Nat => .ok ⟨.int p, .int 1, .absent, .absent, .absent⟩) (scripts 3) = .ok t ∧
        capture (fun _ => .ok default) (scripts ()) = .ok t' ∧
        (Interpret.renderText Dialect.latex Config.default t).result = .ok text ∧
        (Interpret.renderText Dialect.latex Config.default t').result = .ok text ∧
        (scripts 3).unplaced = (scripts ()).unplaced := by
  have h : (scripts 3).Formula := by
    simp only [scripts, Expr.Formula]
    decide +kernel
  have h' : (scripts ()).Formula := by
    simp only [scripts, Expr.Formula]
    decide +kernel
  have hcapture : capture (fun p : Nat => .ok ⟨.int p, .int 1, .absent, .absent, .absent⟩) (scripts 3) =
      .ok (captured (fun p : Nat => ⟨.int p, .int 1, .absent, .absent, .absent⟩) (scripts 3)) :=
    @capture_eq_captured _ (fun _ => True) _ _ _ (fun _ => rfl) (supported_of_formula h)
  have hcapture' : capture (fun _ => .ok default) (scripts ()) =
      .ok (captured (fun _ => default) (scripts ())) :=
    @capture_eq_captured _ (fun _ => True) _ _ _ (fun _ => rfl) (supported_of_formula h')
  have hrender : (Interpret.renderText Dialect.latex Config.default
      (captured (fun p : Nat => ⟨.int p, .int 1, .absent, .absent, .absent⟩) (scripts 3))).result =
        .ok (r"\mathrm{matmul}(x__{i}, \left( \left\lfloor \frac{-y}" ++
          r"{z^{\mathrm{invert}(w)}} \right\rfloor \right))") :=
    toOption_eq_some.mp (by decide +kernel)
  have hrender' : (Interpret.renderText Dialect.latex Config.default
      (captured (fun _ => default) (scripts ()))).result =
        .ok (r"\mathrm{matmul}(x__{i}, \left( \left\lfloor \frac{-y}" ++
          r"{z^{\mathrm{invert}(w)}} \right\rfloor \right))") :=
    toOption_eq_some.mp (by decide +kernel)
  exact ⟨_, _, _, hcapture, hcapture', hrender, hrender',
    unplaced_eq_of_renderText h h' hcapture hcapture' hrender hrender'⟩

end Typeset

end ExprMarkup
