import Mathlib.Data.List.Basic
import ExprMarkup.Proofs.Walk.Visit

namespace ExprMarkup.Tree

/-- The names that are found are all those of the list, each once, as they first appear in it. -/
structure FirstAppearances (names found : List String) : Prop where
  complete : ∀ name, name ∈ found ↔ name ∈ names
  distinct : found.Nodup
  inOrder : found.Pairwise fun a b => names.idxOf a < names.idxOf b

namespace FirstAppearances

variable {names found : List String}

/-- What comes later in the list does not change where the names appear that were found. -/
theorem inOrder_append (h : FirstAppearances names found) (later : List String) :
    found.Pairwise fun a b => (names ++ later).idxOf a < (names ++ later).idxOf b := by
  refine h.inOrder.imp_of_mem fun {a b} ha hb hlt => ?_
  rwa [List.idxOf_append_of_mem ((h.complete a).mp ha),
    List.idxOf_append_of_mem ((h.complete b).mp hb)]

/-- One name more: it is added after the others, unless it was found before. -/
theorem snoc (h : FirstAppearances names found) (name : String) :
    FirstAppearances (names ++ [name])
      (if found.contains name then found else found ++ [name]) := by
  by_cases hname : name ∈ found
  · rw [if_pos (List.contains_iff_mem.mpr hname)]
    refine ⟨fun other => ?_, h.distinct, h.inOrder_append [name]⟩
    rw [h.complete, List.mem_append, List.mem_singleton]
    constructor
    · exact .inl
    · rintro (hother | rfl)
      · exact hother
      · exact (h.complete other).mp hname
  · have hnew : name ∉ names := fun hmem => hname ((h.complete name).mpr hmem)
    rw [if_neg (by simpa using hname)]
    refine ⟨fun other => ?_, ?_, ?_⟩
    · rw [List.mem_append, List.mem_append, h.complete]
    · refine List.nodup_append.mpr ⟨h.distinct, by simp, ?_⟩
      rintro a ha b hb rfl
      exact hname (List.mem_singleton.mp hb ▸ ha)
    · refine List.pairwise_append.mpr ⟨h.inOrder_append [name], List.pairwise_singleton _ _, ?_⟩
      intro a ha b hb
      have hmem : a ∈ names := (h.complete a).mp ha
      obtain rfl := List.mem_singleton.mp hb
      rw [List.idxOf_append_of_mem hmem, List.idxOf_append_of_notMem hnew]
      exact Nat.lt_add_right _ (List.idxOf_lt_length_of_mem hmem)

end FirstAppearances

theorem firstAppearances_distinct (names : List String) :
    FirstAppearances names (Tree.distinct names) := by
  have hfold : ∀ (later before found : List String), FirstAppearances before found →
      FirstAppearances (before ++ later) (later.foldl
        (fun seen name => if seen.contains name then seen else seen ++ [name]) found) := by
    intro later
    induction later with
    | nil =>
      intro before found h
      rwa [List.append_nil]
    | cons name rest ih =>
      intro before found h
      rw [List.foldl_cons, List.append_cons]
      exact ih _ _ (h.snoc name)
  exact hfold names [] [] ⟨by simp, List.nodup_nil, .nil⟩

/-- The loop ends and yields the nodes in pre-order, which is the order of their addresses; a visit
calls handlers on the same nodes, whatever they answer, and gives the answer of the root; and the
collectors keep the names of the same nodes where they first appear. -/
theorem walks_agree {m : Type → Type} [Monad m] [LawfulMonad m] {ρ α : Type} (root : Tree)
    (handlers : Handlers ρ) (acting : Handlers (m α)) :
    (Loop.turn^[root.size] ⟨[], [root]⟩ = ⟨root.nodes, []⟩ ∧
      (∀ n < root.size, (Loop.turn^[n] ⟨[], [root]⟩).stack ≠ []) ∧
      root.nodes = root.preorder ∧ root.nodes.length = root.size ∧
      ∃ addresses : List (List Nat), addresses.Pairwise (List.Lex (· < ·)) ∧
        (∀ a, a ∈ addresses ↔ (root.at? a).isSome = true) ∧
        addresses.map (fun a => root.at? a) = root.nodes.map some) ∧
    (visit handlers root = root.nodes.filterMap (fun n =>
        (handlers (n.handlerKind handlers)).map fun f => ⟨n.handlerKind handlers, n, f n⟩) ∧
      ((handlers .default).isSome = true → (visit handlers root).map Handled.node = root.nodes) ∧
      visitResult handlers root = (handlers (root.handlerKind handlers)).map (fun f => f root) ∧
      perform acting root = (do
        let answer ← act acting root
        actAll acting root.nodes.tail
        return answer)) ∧
    FirstAppearances (root.nodes.filterMap symbolName?) root.symbols ∧
      FirstAppearances (root.nodes.filterMap callHead?) root.calls ∧
      (∀ name, name ∈ root.symbols ↔ ∃ location, .symbol name location ∈ root.nodes) ∧
      ∀ head, head ∈ root.calls ↔ ∃ args named location, .call head args named location ∈ root.nodes := by
  have hnodes := nodes_eq_preorder root
  obtain ⟨hturns, hrunning⟩ := Loop.turns_root root
  refine ⟨⟨?_, hrunning, hnodes, length_nodes root, ?_⟩, ⟨?_, ?_, ?_, ?_⟩, ?_, ?_, ?_, ?_⟩
  · rw [hnodes, hturns]
  · rw [hnodes]
    exact root.preorder_by_address
  · rw [visit_eq_filterMap, hnodes, funext (dispatch_eq handlers)]
  · exact fun h => map_node_visit h root
  · rw [visitResult, dispatch_eq, Option.map_map]
    rfl
  · rw [perform_eq, hnodes, preorder_eq_cons, List.tail_cons]
  · exact firstAppearances_distinct _
  · exact firstAppearances_distinct _
  · intro name
    rw [hnodes]
    exact mem_symbols
  · intro head
    rw [hnodes]
    exact mem_calls

/-- `f(g(a, k=f), a, m=1, n=b)`, where `f` is a head and a symbol. -/
def branching : Tree :=
  .call "f" [.call "g" [.symbol "a" none] [("k", .symbol "f" none)] none, .symbol "a" none]
    [("m", .literal (.scalar (.int 1)) none), ("n", .symbol "b" none)] none

/-- Calls and symbols have handlers, which note what they are called for and how many came before. -/
def noting : Handlers (StateM (List String) Nat)
  | .call => some fun t => modifyGet fun notes => (notes.length, notes ++ t.callHead?.toList)
  | .symbol => some fun t => modifyGet fun notes => (notes.length, notes ++ t.symbolName?.toList)
  | _ => none

theorem walks_agree_branching :
    LawfulMonad (StateM (List String)) ∧ branching.nodes = branching.preorder ∧
      branching.nodes.length = 7 ∧
      (perform noting branching).run ["start"] =
        (some 1, ["start", "f", "g", "a", "f", "a", "b"]) ∧
      FirstAppearances ["a", "f", "a", "b"] branching.symbols ∧
      FirstAppearances ["f", "g"] branching.calls := by
  obtain ⟨⟨-, -, hnodes, hlength, -⟩, ⟨-, -, -, hperform⟩, hsymbols, hcalls, -⟩ :=
    walks_agree (m := StateM (List String)) branching noting noting
  rw [hnodes] at hsymbols hcalls
  refine ⟨inferInstance, hnodes, hlength, ?_, hsymbols, hcalls⟩
  rw [hperform, hnodes]
  rfl

end ExprMarkup.Tree
