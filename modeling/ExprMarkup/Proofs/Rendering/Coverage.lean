import ExprMarkup.Proofs.Evaluation
import ExprMarkup.Proofs.Walk

namespace ExprMarkup

namespace Scope

/-- The scope binds the symbols of a tree as the dialect writes them, and heads as it registers
them. -/
structure Covers (scope : Scope) (d : Dialect) (t : Tree) : Prop where
  symbol : ∀ name location, .symbol name location ∈ t.preorder →
    scope.resolve name = some (.fragment (d.symbolText name))
  head : ∀ head, scope.resolveCall head = (d.operators.find? head).map .renderer

/-- Two scopes bind the symbols and the heads of a tree alike. -/
structure AgreeOn (scope scope' : Scope) (t : Tree) : Prop where
  symbol : ∀ name location, .symbol name location ∈ t.preorder →
    scope.resolve name = scope'.resolve name
  head : ∀ head args named location, .call head args named location ∈ t.preorder →
    scope.resolveCall head = scope'.resolveCall head

variable {scope scope' : Scope} {d : Dialect} {t s : Tree}

theorem Covers.part (h : scope.Covers d t) (hs : s ∈ t.preorder) : scope.Covers d s where
  symbol name location hn := h.symbol name location (Tree.mem_preorder_trans hs hn)
  head := h.head

theorem AgreeOn.part (h : scope.AgreeOn scope' t) (hs : s ∈ t.preorder) :
    scope.AgreeOn scope' s where
  symbol name location hn := h.symbol name location (Tree.mem_preorder_trans hs hn)
  head head args named location hn :=
    h.head head args named location (Tree.mem_preorder_trans hs hn)

theorem Covers.agreeOn (h : scope.Covers d t) (h' : scope'.Covers d t) : scope.AgreeOn scope' t where
  symbol name location hn := by rw [h.symbol name location hn, h'.symbol name location hn]
  head head _ _ _ _ := by rw [h.head, h'.head]

end Scope

namespace Dialect

/-- The ambient layer is filled from the whole tree, so the scope covers each part of it. -/
theorem covers_scopeFor (d : Dialect) {root t : Tree} (ht : t ∈ root.preorder) :
    (d.scopeFor root).Covers d t where
  symbol name location hn := by
    have hmem : name ∈ root.symbols := Tree.mem_symbols.mpr ⟨location, Tree.mem_preorder_trans ht hn⟩
    rw [resolve_scopeFor, if_pos (.inr hmem)]
  head := d.resolveCall_scopeFor root

theorem covers_scopeFor_self (d : Dialect) (root : Tree) : (d.scopeFor root).Covers d root :=
  d.covers_scopeFor root.self_mem_preorder

/-- Rendering in the scope that the dialect builds for the tree. -/
def rendering (d : Dialect) (config : Config) (root : Tree) : Run Rendered :=
  Interpret.render (some d) config (d.scopeFor root) root

end Dialect

namespace Interpret

variable {d d' : Dialect} {config : Config} {scope scope' : Scope}

theorem symbol_of_covers {name : String} {location : Option Location}
    (h : scope.Covers d (.symbol name location)) :
    symbol scope name location = pure (some (.one (d.symbolText name))) := by
  have hbound := h.symbol name location (Tree.self_mem_preorder _)
  rw [symbol, hbound]

theorem chooseRenderer_of_covers {t : Tree} (h : scope.Covers d t) (head : String) :
    chooseRenderer (some d) config scope head =
      ⟨if (d.operators.find? head).isSome then [] else [.fallback head],
        .ok (some (d.rendererFor config head))⟩ := by
  rw [chooseRenderer, h.head, Dialect.rendererFor]
  cases d.operators.find? head with
  | none => rfl
  | some r => rfl

theorem chooseRenderer_congr (hfallback : d.fallback = d'.fallback) {head : String}
    (h : scope.resolveCall head = scope'.resolveCall head) :
    chooseRenderer (some d) config scope head = chooseRenderer (some d') config scope' head := by
  simp only [chooseRenderer, h, hfallback]

mutual

/-- Only the bindings of the symbols and of the heads of a tree count, and of a dialect its escaper and
its fallback. -/
theorem node_congr (hescaper : d.escaper = d'.escaper) (hfallback : d.fallback = d'.fallback)
    {t : Tree} (h : scope.AgreeOn scope' t) (depth : Nat) :
    node (some d) config scope depth t = node (some d') config scope' depth t := by
  cases t with
  | literal value location => simp only [node, literal, hescaper]
  | symbol name location =>
    have hbound := h.symbol name location (Tree.self_mem_preorder _)
    simp only [node, symbol, hbound]
  | call head args named location =>
    have hchoose : chooseRenderer (some d) config scope head =
        chooseRenderer (some d') config scope' head :=
      chooseRenderer_congr hfallback (h.head head args named location (Tree.self_mem_preorder _))
    have hargs := positional_congr hescaper hfallback
      (fun t ht => h.part (Tree.mem_preorder_arg ht)) (depth + 1)
    have hnamed := keyed_congr hescaper hfallback
      (fun e he => h.part (Tree.mem_preorder_named he)) (depth + 1)
    simp only [node, hchoose, hargs, hnamed]
  | bare location => simp only [node]

theorem positional_congr (hescaper : d.escaper = d'.escaper) (hfallback : d.fallback = d'.fallback)
    {args : List Tree} (h : ∀ t ∈ args, scope.AgreeOn scope' t) (depth : Nat) :
    positional (some d) config scope depth args = positional (some d') config scope' depth args := by
  cases args with
  | nil => rfl
  | cons t rest =>
    rw [List.forall_mem_cons] at h
    have hfirst := node_congr hescaper hfallback h.1 depth
    have hothers := positional_congr hescaper hfallback h.2 depth
    simp only [positional, hfirst, hothers]

theorem keyed_congr (hescaper : d.escaper = d'.escaper) (hfallback : d.fallback = d'.fallback)
    {named : List (String × Tree)} (h : ∀ e ∈ named, scope.AgreeOn scope' e.2) (depth : Nat) :
    keyed (some d) config scope depth named = keyed (some d') config scope' depth named := by
  cases named with
  | nil => rfl
  | cons e rest =>
    obtain ⟨name, t⟩ := e
    rw [List.forall_mem_cons] at h
    have hfirst := node_congr hescaper hfallback h.1 depth
    have hothers := keyed_congr hescaper hfallback h.2 depth
    simp only [keyed, hfirst, hothers]

end

/-- Scopes that cover a tree cannot be told apart by it. -/
theorem node_eq_of_covers {t : Tree} (h : scope.Covers d t) (h' : scope'.Covers d t) (depth : Nat) :
    node (some d) config scope depth t = node (some d) config scope' depth t :=
  node_congr rfl rfl (h.agreeOn h') depth

end Interpret

end ExprMarkup
