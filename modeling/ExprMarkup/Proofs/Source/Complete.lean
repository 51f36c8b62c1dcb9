import ExprMarkup.Proofs.Source.Yields
import ExprMarkup.Source.Parser

namespace ExprMarkup.Source

/-- An expression that lacks nothing where it is captured. What has no counterpart among trees is refused
as it stands, whatever is in it. -/
inductive Expr.Complete {π : Type} : Expr π → Prop
  | constant {value : Constant} {p : π} : Complete (.constant value p)
  | name {id : String} {p : π} : Complete (.name (.text id) p)
  | sequence {isTuple : Bool} {items : List (Expr π)} {p : π} : Complete (.sequence isTuple items p)
  | call {head : Expr π} {args : List (Expr π)} {keywords : List (Option Value × Expr π)} {p : π}
      (hhead : Complete head) (hargs : ∀ e ∈ args, Complete e)
      (hvalues : ∀ k ∈ keywords, Complete k.2)
      (hnames : ∀ k ∈ keywords, ∀ name, k.1 = some name → ∃ s, name = .text s) :
      Complete (.call head args keywords p)
  | binary {op : BinaryOp} {left right : Expr π} {p : π} (hleft : Complete left)
      (hright : Complete right) : Complete (.binary op left right p)
  | unary {op : UnaryOp} {operand : Expr π} {p : π} (hoperand : Complete operand) :
      Complete (.unary op operand p)
  | compare {left : Expr π} {rest : List (CompareOp × Expr π)} {p : π} (hleft : Complete left)
      (hrest : ∀ c ∈ rest, Complete c.2) : Complete (.compare left rest p)
  | subscript {value index : Expr π} {p : π} (hvalue : Complete value) (hindex : Complete index) :
      Complete (.subscript value index p)
  | starred {value : Expr π} {p : π} : Complete (.starred value p)
  | other {kind : String} {parts : List (Expr π)} {p : π} : Complete (.other kind parts p)

namespace Rules

open Reader
open Source.Expr (Complete)

variable {g : Rules}

/-- Whatever is asked for in the middle of an expression is complete. -/
def ReadsComplete (g : Rules) : Prop := ∀ goal, Yields (g.read goal) Complete

theorem yields_named (hg : g.ReadsComplete) : Yields g.named Complete := by
  unfold named
  refine .after fun isNamed => ?_
  split
  · exact .after fun _ => .after fun _ => .after fun _ => .after fun _ => .after fun _ =>
      .after fun _ => .pure .other
  · exact hg .expression

theorem yields_starred (goal : Goal) : Yields (g.starred goal) Complete :=
  .after fun _ => .after fun _ => .after fun _ => .after fun _ => .pure .starred

theorem yields_element (hg : g.ReadsComplete) : Yields g.element Complete := by
  unfold element
  refine .after fun isStarred => ?_
  split
  · exact yields_starred .bitwiseOr
  · exact yields_named hg

theorem yields_tupleFrom {first : Position} {item : Expr Span} {closed : Reader Bool}
    {read : Reader (Expr Span)} : Yields (g.tupleFrom first item closed read) Complete := by
  unfold tupleFrom
  refine .after fun _ => .after fun isClosed => ?_
  split
  · exact .after fun _ => .after fun _ => .pure .sequence
  · exact .after fun _ => .after fun _ => .pure .sequence

/-- Arguments of which a call is complete. -/
structure Ready (a : Arguments) : Prop where
  args : ∀ e ∈ a.args, Complete e
  values : ∀ k ∈ a.keywords, Complete k.2
  names : ∀ k ∈ a.keywords, ∀ name, k.1 = some name → ∃ s, name = .text s

theorem Ready.addArg {a : Arguments} (h : Ready a) {e : Expr Span} (he : Complete e) :
    Ready { a with args := e :: a.args } :=
  ⟨List.forall_mem_cons.mpr ⟨he, h.args⟩, h.values, h.names⟩

theorem Ready.addKeyword {a : Arguments} (h : Ready a) {key : Option Value} {e : Expr Span}
    (he : Complete e) (hkey : ∀ name, key = some name → ∃ s, name = .text s) (spread : Bool) :
    Ready { a with keywords := (key, e) :: a.keywords, spread := spread } :=
  ⟨h.args, List.forall_mem_cons.mpr ⟨he, h.values⟩, List.forall_mem_cons.mpr ⟨hkey, h.names⟩⟩

theorem Ready.call {a : Arguments} (h : Ready a) {head : Expr Span} (hhead : Complete head) (p : Span) :
    Complete (.call head a.args.reverse a.keywords.reverse p) :=
  .call hhead (by simpa using h.args) (by simpa using h.values) (by simpa using h.names)

theorem yields_argument (hg : g.ReadsComplete) {a : Arguments} (ha : Ready a) :
    Yields (g.argument a) Ready := by
  unfold argument
  refine .after fun isStarred => ?_
  split
  · split
    · exact .fail
    · exact .bind (yields_starred .expression) fun e he => .pure (ha.addArg he)
  refine .after fun isSpread => ?_
  split
  · exact .bind (hg .expression) fun e he => .pure (ha.addKeyword he (by simp) true)
  refine .after fun isKeyword => ?_
  split
  · refine .after fun id => .after fun _ => .bind (hg .expression) fun e he => .pure ?_
    refine ha.addKeyword he ?_ a.spread
    rintro name ⟨⟩
    exact ⟨id, rfl⟩
  split
  · exact .bind (yields_named hg) fun e he => .pure (ha.addArg he)
  · exact .fail

theorem yields_callRest (hg : g.ReadsComplete) (first : Position) {head : Expr Span}
    (hhead : Complete head) : Yields (g.callRest first head) Complete := by
  have hnone : Ready ⟨[], [], false⟩ := ⟨by simp, by simp, by simp⟩
  unfold callRest
  refine .after fun _ => .after fun _ => .after fun isClosed => ?_
  split
  · exact .after fun p => .pure (hnone.call hhead p)
  refine .bind (yields_argument hg hnone) fun a ha => ?_
  dsimp only
  refine .after fun isClause => ?_
  split
  · exact .after fun _ => .after fun _ => .after fun span => .after fun p =>
      .pure (.call hhead (List.forall_mem_singleton.mpr .other) (by simp) (by simp))
  have hclose : ∀ a, Ready a → Yields (do
      mark ")"
      return .call head a.args.reverse a.keywords.reverse (← spanFrom first)) Complete :=
    fun a ha => .after fun _ => .after fun p => .pure (ha.call hhead p)
  refine .after fun isMore => ?_
  split
  · refine .after fun isClosed => ?_
    split
    · exact .bind (.pure ha) hclose
    · exact .bind (.steps (fun a ha => yields_argument hg ha) g.limit ha) hclose
  · exact .bind (.pure ha) hclose

theorem yields_sliceRest (first : Position) (lower : List (Expr Span)) :
    Yields (g.sliceRest first lower) Complete := by
  unfold sliceRest
  refine .after fun _ => .after fun _ => .after fun isMore => ?_
  split
  · exact .after fun _ => .after fun _ => .pure .other
  · exact .after fun _ => .after fun _ => .pure .other

theorem yields_slice (hg : g.ReadsComplete) : Yields g.slice Complete := by
  unfold slice
  refine .after fun first => .after fun isStarred => ?_
  split
  · exact yields_starred .expression
  refine .after fun isColon => ?_
  split
  · exact yields_sliceRest first []
  refine .after fun isNamed => ?_
  split
  · exact yields_named hg
  refine .bind (hg .expression) fun e he => .after fun isSlice => ?_
  split
  · exact yields_sliceRest first [e]
  · exact .pure he

theorem yields_index (hg : g.ReadsComplete) : Yields g.index Complete := by
  unfold index
  refine .after fun first => .bind (yields_slice hg) fun e he => .after fun isTuple => ?_
  split
  · exact yields_tupleFrom
  · split
    · exact .after fun _ => .pure .sequence
    · exact .pure he

theorem yields_subscriptRest (hg : g.ReadsComplete) (first : Position) {value : Expr Span}
    (hvalue : Complete value) : Yields (g.subscriptRest first value) Complete :=
  .after fun _ => .bind (yields_index hg) fun _ he => .after fun _ => .after fun _ =>
    .pure (.subscript hvalue he)

theorem yields_comprehension (kind closing : String) (first : Position) (parts : List (Expr Span)) :
    Yields (g.comprehension kind closing first parts) Complete := by
  unfold comprehension
  split
  · exact .fail
  · exact .after fun _ => .after fun _ => .after fun _ => .pure .other

theorem yields_yieldExpr : Yields g.yieldExpr Complete := by
  unfold yieldExpr
  refine .after fun _ => .after fun _ => .after fun isFrom => ?_
  split
  · exact .after fun _ => .after fun _ => .pure .other
  refine .after fun isClosed => ?_
  split
  · exact .after fun _ => .pure .other
  refine .after fun _ => .after fun _ => .after fun isTuple => ?_
  split
  · exact .after fun _ => .after fun _ => .pure .other
  · exact .after fun _ => .after fun _ => .pure .other

theorem yields_parenthesized (hg : g.ReadsComplete) (first : Position) :
    Yields (g.parenthesized first) Complete := by
  unfold parenthesized
  refine .after fun isClosed => ?_
  split
  · exact .after fun _ => .pure .sequence
  refine .after fun isYield => ?_
  split
  · exact .bind yields_yieldExpr fun e he => .after fun _ => .pure he
  refine .bind (yields_element hg) fun e he => .after fun isClause => ?_
  split
  · exact yields_comprehension _ _ _ _
  refine .after fun isTuple => ?_
  split
  · refine .after fun isClosed => ?_
    split
    · exact .after fun _ => .after fun _ => .after fun _ => .pure .sequence
    · exact .after fun _ => .after fun _ => .after fun _ => .pure .sequence
  split
  · exact .fail
  · exact .after fun _ => .pure he

theorem yields_list (first : Position) : Yields (g.list first) Complete := by
  have hclose : ∀ all : List (Expr Span), Yields (do
      mark "]"
      return .sequence false all (← spanFrom first)) Complete :=
    fun all => .after fun _ => .after fun _ => .pure .sequence
  unfold list
  refine .after fun isClosed => ?_
  split
  · exact .after fun _ => .pure .sequence
  refine .after fun e => .after fun isClause => ?_
  split
  · exact yields_comprehension _ _ _ _
  refine .after fun isMore => ?_
  split
  · refine .after fun isClosed => ?_
    split
    · exact .after hclose
    · exact .after hclose
  · exact .after hclose

theorem yields_closeDict (first : Position) (parts : List (Expr Span)) :
    Yields (g.closeDict first parts) Complete := by
  have hclose : ∀ more : List (List (Expr Span)), Yields (do
      mark r"}"
      return .other "Dict" (parts ++ more.flatten) (← spanFrom first)) Complete :=
    fun more => .after fun _ => .after fun _ => .pure .other
  unfold closeDict
  refine .after fun isMore => ?_
  split
  · refine .after fun isClosed => ?_
    split
    · exact .after hclose
    · exact .after hclose
  · exact .after hclose

theorem yields_closeSet (first : Position) (e : Expr Span) : Yields (g.closeSet first e) Complete := by
  have hclose : ∀ all : List (Expr Span), Yields (do
      mark r"}"
      return .other "Set" all (← spanFrom first)) Complete :=
    fun all => .after fun _ => .after fun _ => .pure .other
  unfold closeSet
  refine .after fun isClause => ?_
  split
  · exact yields_comprehension _ _ _ _
  refine .after fun isMore => ?_
  split
  · refine .after fun isClosed => ?_
    split
    · exact .after hclose
    · exact .after hclose
  · exact .after hclose

theorem yields_braces (first : Position) : Yields (g.braces first) Complete := by
  unfold braces
  refine .after fun isClosed => ?_
  split
  · exact .after fun _ => .pure .other
  refine .after fun isSpread => ?_
  split
  · exact .after fun parts => yields_closeDict first parts
  refine .after fun isStarred => .after fun isNamed => ?_
  split
  · exact .after fun e => yields_closeSet first e
  refine .after fun e => .after fun isDict => ?_
  split
  · refine .after fun value => .after fun isClause => ?_
    split
    · exact yields_comprehension _ _ _ _
    · exact yields_closeDict first _
  · exact yields_closeSet first e

theorem yields_lambda : Yields g.lambda Complete := by
  have hbody : ∀ (first : Position) (p : Parameters), Yields (do
      if p.isPending then Reader.fail
      else
        mark ":"
        let body ← g.read .expression
        return Expr.other "Lambda" (p.defaults.reverse ++ [body]) (← spanFrom first)) Complete := by
    intro first p
    split
    · exact .fail
    · exact .after fun _ => .after fun _ => .after fun _ => .pure .other
  unfold lambda
  refine .after fun first => .after fun _ => .after fun isBare => ?_
  split
  · exact .after (hbody first)
  · exact .after (hbody first)

theorem joinQuoted_complete {pieces : List Token} {span : Span} {e : Expr Span}
    (h : g.joinQuoted pieces span = some e) : Complete e := by
  unfold joinQuoted at h
  split at h
  · split at h
    · cases h
      exact .constant
    · cases h
  split at h
  · obtain ⟨parts, -, h⟩ := Option.bind_eq_some_iff.mp h
    cases h
    exact .other
  · cases h
    exact .constant

theorem yields_quotedAtom : Yields g.quotedAtom Complete := by
  unfold quotedAtom
  refine .after fun _ => .after fun pieces => .after fun span => ?_
  split
  · next e he => exact .pure (joinQuoted_complete he)
  · exact .fail

theorem yields_atom (hg : g.ReadsComplete) : Yields g.atom Complete := by
  unfold atom
  refine .after fun token => ?_
  split
  · exact .after fun _ => .pure .name
  · exact .after fun _ => .pure .constant
  · split
    · exact .after fun _ => .pure .constant
    · exact .fail
  · refine .after fun _ => ?_
    split
    · exact yields_parenthesized hg _
    split
    · exact yields_list _
    split
    · exact yields_braces _
    split
    · exact .pure .constant
    · exact .fail
  · exact .fail
  · exact yields_quotedAtom
  · exact .fail

theorem yields_trailer (hg : g.ReadsComplete) (first : Position) {e : Expr Span} (he : Complete e) :
    Yields (g.trailer? first e) fun one => ∀ more ∈ one, Complete more := by
  unfold trailer?
  refine .after fun isCall => ?_
  split
  · exact .bind (yields_callRest hg first he) fun call hcall => .pure (by simpa using hcall)
  refine .after fun isSubscript => ?_
  split
  · exact .bind (yields_subscriptRest hg first he) fun s hs => .pure (by simpa using hs)
  refine .after fun isAttribute => ?_
  split
  · exact .after fun _ => .after fun _ => .pure (by simpa using .other)
  · exact .pure (by simp)

theorem yields_primary (hg : g.ReadsComplete) : Yields g.primary Complete :=
  .after fun first => .bind (yields_atom hg) fun _ he =>
    .extend (fun _ he => yields_trailer hg first he) g.limit he

theorem yields_awaited (hg : g.ReadsComplete) : Yields g.awaited Complete := by
  unfold awaited
  refine .after fun _ => .after fun isAwait => ?_
  split
  · exact .after fun _ => .after fun _ => .pure .other
  · exact yields_primary hg

theorem yields_power (hg : g.ReadsComplete) : Yields g.power Complete := by
  unfold power
  refine .after fun _ => .bind (yields_awaited hg) fun base hbase => .after fun isPower => ?_
  split
  · exact .bind (hg .factor) fun _ hexponent => .after fun _ => .pure (.binary hbase hexponent)
  · exact .pure hbase

theorem yields_factor (hg : g.ReadsComplete) : Yields g.factor Complete := by
  unfold factor
  refine .after fun _ => .after fun sign => ?_
  split
  · exact .bind (hg .factor) fun _ hoperand => .after fun _ => .pure (.unary hoperand)
  · exact yields_power hg

theorem yields_operations {operand : Reader (Expr Span)} (hoperand : Yields operand Complete)
    (table : List (String × BinaryOp)) : Yields (g.operations table operand) Complete := by
  unfold operations
  refine .after fun first => .bind hoperand fun e he => .extend (fun left hleft => ?_) g.limit he
  unfold operation?
  refine .after fun op => ?_
  split
  · exact .bind hoperand fun _ hright => .after fun _ =>
      .pure (by simpa using .binary hleft hright)
  · exact .pure (by simp)

theorem yields_bitwiseOr (hg : g.ReadsComplete) : Yields g.bitwiseOr Complete := by
  have hsum : Yields g.sum Complete := yields_operations (yields_operations (yields_factor hg) _) _
  exact yields_operations (yields_operations (yields_operations (yields_operations hsum _) _) _) _

theorem yields_comparison (hg : g.ReadsComplete) : Yields g.comparison Complete := by
  unfold comparison
  refine .after fun _ => .bind (yields_bitwiseOr hg) fun left hleft => ?_
  refine .bind (p := fun rest => ∀ c ∈ rest, Complete c.2)
    (.collect (.after fun op => ?_) g.limit (by simp)) fun rest hrest => ?_
  · split
    · exact .bind (yields_bitwiseOr hg) fun _ he => .pure (by simpa using he)
    · exact .pure (by simp)
  · split
    · exact .pure hleft
    · exact .after fun _ => .pure (.compare hleft hrest)

theorem yields_inversion (hg : g.ReadsComplete) : Yields g.inversion Complete := by
  unfold inversion
  refine .after fun _ => .after fun isNot => ?_
  split
  · exact .bind (hg .inversion) fun _ hoperand => .after fun _ => .pure (.unary hoperand)
  · exact yields_comparison hg

theorem yields_connected {operand : Reader (Expr Span)} (hoperand : Yields operand Complete)
    (w : String) : Yields (g.connected w operand) Complete := by
  unfold connected
  refine .after fun _ => .bind hoperand fun e he => .after fun rest => ?_
  split
  · exact .pure he
  · exact .after fun _ => .pure .other

theorem yields_disjunction (hg : g.ReadsComplete) : Yields g.disjunction Complete :=
  yields_connected (yields_connected (yields_inversion hg) _) _

theorem yields_expression (hg : g.ReadsComplete) : Yields g.expression Complete := by
  unfold expression
  refine .after fun _ => .after fun isLambda => ?_
  split
  · exact yields_lambda
  refine .bind (yields_disjunction hg) fun e he => .after fun isConditional => ?_
  split
  · exact .after fun _ => .after fun _ => .after fun _ => .after fun _ => .pure .other
  · exact .pure he

theorem yields_readGoal (limit fuel : Nat) (goal : Goal) : Yields (readGoal limit fuel goal) Complete := by
  induction fuel generalizing goal with
  | zero => exact .fail
  | succ fuel ih =>
    have hg : ReadsComplete ⟨limit, readGoal limit fuel⟩ := ih
    cases goal with
    | expression => exact yields_expression hg
    | disjunction => exact yields_disjunction hg
    | inversion => exact yields_inversion hg
    | bitwiseOr => exact yields_bitwiseOr hg
    | factor => exact yields_factor hg
    | primary => exact yields_primary hg

theorem yields_whole (hg : g.ReadsComplete) : Yields g.whole Complete := by
  unfold whole
  refine .after fun _ => .bind (hg .expression) fun e he => .after fun isTuple => ?_
  split
  · refine .bind yields_tupleFrom fun e he => .after fun _ => .after fun token => ?_
    split
    · exact .pure he
    · exact .fail
  · refine .bind (.pure he) fun e he => .after fun _ => .after fun token => ?_
    split
    · exact .pure he
    · exact .fail

end Rules

/-- What a text is read as is complete. -/
theorem complete_of_parse {text : List Char} {e : Expr Span} (h : parse? text = some e) :
    e.Complete := by
  obtain ⟨tokens, -, h⟩ := Option.bind_eq_some_iff.mp h
  obtain ⟨⟨e', c⟩, hwhole, h⟩ := Option.bind_eq_some_iff.mp h
  cases h
  have hg : Rules.ReadsComplete ⟨(unifyLines text).length + 2,
      Rules.readGoal ((unifyLines text).length + 2) ((unifyLines text).length + 2)⟩ :=
    Rules.yields_readGoal _ _
  exact Rules.yields_whole hg _ _ _ hwhole

end ExprMarkup.Source
