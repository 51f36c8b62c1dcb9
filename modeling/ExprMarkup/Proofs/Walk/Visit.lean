import Mathlib.Logic.Function.Iterate
import ExprMarkup.Proofs.Walk.Address

namespace ExprMarkup.Tree

/-- The loop over a stack: the nodes that came out so far, and the stack, whose top is its last node. -/
structure Loop where
  yielded : List Tree
  stack : List Tree

namespace Loop

/-- One turn: the top comes out, and its children are put on the stack from the last to the first. -/
def turn (w : Loop) : Loop :=
  match w.stack.getLast? with
  | some t => ⟨w.yielded ++ [t], w.stack.dropLast ++ t.children.reverse⟩
  | none => w

/-- What has come out, and then all that is to come. -/
def total (w : Loop) : List Tree := w.yielded ++ preorderArgs w.stack.reverse

theorem turn_concat (yielded rest : List Tree) (t : Tree) :
    turn ⟨yielded, rest ++ [t]⟩ = ⟨yielded ++ [t], rest ++ t.children.reverse⟩ := by
  simp [turn]

theorem turn_of_empty {w : Loop} (h : w.stack = []) : w.turn = w := by
  rw [turn, h]
  rfl

/-- A turn changes nothing of what comes out in all. -/
theorem total_turn (w : Loop) : w.turn.total = w.total := by
  obtain ⟨yielded, stack⟩ := w
  rcases List.eq_nil_or_concat stack with rfl | ⟨rest, t, rfl⟩
  · rw [turn_of_empty rfl]
  · rw [List.concat_eq_append, turn_concat, total, total]
    simp only [List.reverse_append, List.reverse_reverse, List.reverse_singleton, preorderArgs,
      preorder_eq_cons, preorderArgs_append, List.append_assoc, List.cons_append, List.nil_append]

theorem sizeArgs_reverse (stack : List Tree) : sizeArgs stack.reverse = sizeArgs stack := by
  induction stack with
  | nil => rfl
  | cons t rest ih =>
    rw [List.reverse_cons, sizeArgs_append, ih]
    simp only [sizeArgs]
    omega

/-- A turn takes one node of those still to come. -/
theorem sizeArgs_turn (w : Loop) : sizeArgs w.turn.stack = sizeArgs w.stack - 1 := by
  obtain ⟨yielded, stack⟩ := w
  rcases List.eq_nil_or_concat stack with rfl | ⟨rest, t, rfl⟩
  · rw [turn_of_empty rfl]
    rfl
  · have hsize := size_eq_children t
    rw [List.concat_eq_append, turn_concat]
    simp only [sizeArgs_append, sizeArgs_reverse, sizeArgs]
    omega

theorem total_turns (n : Nat) (w : Loop) : (turn^[n] w).total = w.total := by
  induction n generalizing w with
  | zero => rfl
  | succ n ih => rw [Function.iterate_succ_apply, ih, total_turn]

theorem sizeArgs_turns (n : Nat) (w : Loop) : sizeArgs (turn^[n] w).stack = sizeArgs w.stack - n := by
  induction n generalizing w with
  | zero => rfl
  | succ n ih =>
    rw [Function.iterate_succ_apply, ih, sizeArgs_turn]
    omega

theorem sizeArgs_eq_zero {stack : List Tree} : sizeArgs stack = 0 ↔ stack = [] := by
  cases stack with
  | nil => simp [sizeArgs]
  | cons t rest =>
    have hsize := size_eq_children t
    simp only [sizeArgs, reduceCtorEq, iff_false]
    omega

/-- The loop ends after as many turns as there are nodes, and has yielded them in pre-order. -/
theorem turns_root (root : Tree) :
    turn^[root.size] ⟨[], [root]⟩ = ⟨root.preorder, []⟩ ∧
      ∀ n < root.size, (turn^[n] ⟨[], [root]⟩).stack ≠ [] := by
  have hsize : sizeArgs [root] = root.size := by rw [sizeArgs, sizeArgs, Nat.add_zero]
  constructor
  · have htotal := total_turns root.size ⟨[], [root]⟩
    have hleft := sizeArgs_turns root.size ⟨[], [root]⟩
    rw [hsize, Nat.sub_self, sizeArgs_eq_zero] at hleft
    simp only [total, hleft, List.reverse_nil, List.reverse_singleton, preorderArgs, List.append_nil,
      List.nil_append] at htotal
    exact congr (congrArg Loop.mk htotal) hleft
  · intro n hn hempty
    have hleft := sizeArgs_turns n ⟨[], [root]⟩
    rw [sizeArgs_eq_zero.mpr hempty, hsize] at hleft
    omega

end Loop

theorem length_nodes (root : Tree) : root.nodes.length = root.size := by
  have hargs : ∀ ts : List Tree, (∀ t ∈ ts, t.preorder.length = t.size) →
      (preorderArgs ts).length = sizeArgs ts := by
    intro ts h
    induction ts with
    | nil => rfl
    | cons t rest ih =>
      rw [List.forall_mem_cons] at h
      rw [preorderArgs, List.length_append, h.1, ih h.2, sizeArgs]
  rw [nodes_eq_preorder]
  induction root using children_induction with
  | step t ih => rw [preorder_eq_cons, List.length_cons, hargs t.children ih, size_eq_children]; omega

section

variable {ρ : Type}

/-- The handler that a node goes to: the one of its kind if there is one, and else the default. -/
def handlerKind (handlers : Handlers ρ) (t : Tree) : HandlerKind :=
  if (handlers t.ownKind).isSome then t.ownKind else .default

theorem dispatch_eq (handlers : Handlers ρ) (t : Tree) :
    dispatch handlers t =
      (handlers (t.handlerKind handlers)).map fun f => ⟨t.handlerKind handlers, t, f t⟩ := by
  rw [dispatch, handlerKind]
  cases h : handlers t.ownKind with
  | some f => simp [h]
  | none => simp

/-- Calls of handlers follow the pre-order; a node that no handler takes is passed over. -/
theorem visit_eq_filterMap (handlers : Handlers ρ) (t : Tree) :
    visit handlers t = t.preorder.filterMap (dispatch handlers) := by
  have hargs : ∀ args : List Tree,
      (∀ t ∈ args, visit handlers t = t.preorder.filterMap (dispatch handlers)) →
        visitArgs handlers args = (preorderArgs args).filterMap (dispatch handlers) := by
    intro args h
    induction args with
    | nil => rfl
    | cons t rest ih =>
      rw [List.forall_mem_cons] at h
      rw [visitArgs, preorderArgs, List.filterMap_append, h.1, ih h.2]
  have hnamed : ∀ named : List (String × Tree),
      visitNamed handlers named = visitArgs handlers (named.map Prod.snd) := by
    intro named
    induction named with
    | nil => rfl
    | cons e rest ih => rw [visitNamed, ih, List.map_cons, visitArgs]
  have hself : ∀ (t : Tree) (below : List Tree),
      (t :: below).filterMap (dispatch handlers) =
        (dispatch handlers t).toList ++ below.filterMap (dispatch handlers) := by
    intro t below
    rw [List.filterMap_cons]
    cases dispatch handlers t <;> rfl
  induction t using children_induction with
  | step t ih =>
    rw [preorder_eq_cons, hself]
    cases t with
    | call head args named location =>
      have hchildren : ∀ c ∈ args ++ named.map Prod.snd,
          visit handlers c = c.preorder.filterMap (dispatch handlers) := ih
      rw [List.forall_mem_append] at hchildren
      rw [visit, hnamed, hargs args hchildren.1, hargs _ hchildren.2, children, preorderArgs_append,
        List.filterMap_append]
    | _ => simp [visit, children, preorderArgs]

/-- With a default handler no node is passed over. -/
theorem map_node_visit {handlers : Handlers ρ} (h : (handlers .default).isSome = true) (root : Tree) :
    (visit handlers root).map Handled.node = root.nodes := by
  have hsome : ∀ n : Tree, (dispatch handlers n).map Handled.node = some n := by
    intro n
    have hkind : (handlers (n.handlerKind handlers)).isSome = true := by
      rw [handlerKind]
      split
      · assumption
      · exact h
    obtain ⟨f, hf⟩ := Option.isSome_iff_exists.mp hkind
    rw [dispatch_eq, hf]
    rfl
  rw [visit_eq_filterMap, List.map_filterMap, nodes_eq_preorder, funext hsome, List.filterMap_some]

end

section

variable {m : Type → Type} [Monad m] {ρ : Type}

/-- What a visit does at a node, and the answer of the handler if there is one. -/
def act (handlers : Handlers (m ρ)) (t : Tree) : m (Option ρ) :=
  match handlers (t.handlerKind handlers) with
  | some f => some <$> f t
  | none => pure none

mutual

/-- A visit as a program: the node is handled, its children are visited, and the answer is given. -/
def perform (handlers : Handlers (m ρ)) : Tree → m (Option ρ)
  | .call head args named location => do
    let answer ← act handlers (.call head args named location)
    performArgs handlers args
    performNamed handlers named
    return answer
  | .literal value location => act handlers (.literal value location)
  | .symbol name location => act handlers (.symbol name location)
  | .bare location => act handlers (.bare location)

def performArgs (handlers : Handlers (m ρ)) : List Tree → m PUnit
  | [] => pure ()
  | t :: rest => do
    let _ ← perform handlers t
    performArgs handlers rest

def performNamed (handlers : Handlers (m ρ)) : List (String × Tree) → m PUnit
  | [] => pure ()
  | (_, t) :: rest => do
    let _ ← perform handlers t
    performNamed handlers rest

end

/-- Handles one node after the other, and drops the answers. -/
def actAll (handlers : Handlers (m ρ)) (ts : List Tree) : m PUnit :=
  ts.forM fun t => do
    let _ ← act handlers t

variable [LawfulMonad m]

theorem actAll_append (handlers : Handlers (m ρ)) (ts us : List Tree) :
    actAll handlers (ts ++ us) = (do
      actAll handlers ts
      actAll handlers us) := by
  simp [actAll]

theorem actAll_cons (handlers : Handlers (m ρ)) (t : Tree) (ts : List Tree) :
    actAll handlers (t :: ts) = (do
      let _ ← act handlers t
      actAll handlers ts) := by
  simp [actAll]

/-- A visit handles the root, then all nodes below it in pre-order, and answers what the root did. -/
theorem perform_eq (handlers : Handlers (m ρ)) (t : Tree) :
    perform handlers t = (do
      let answer ← act handlers t
      actAll handlers (preorderArgs t.children)
      return answer) := by
  have hargs : ∀ args : List Tree, (∀ t ∈ args, perform handlers t = (do
      let answer ← act handlers t
      actAll handlers (preorderArgs t.children)
      return answer)) → performArgs handlers args = actAll handlers (preorderArgs args) := by
    intro args h
    induction args with
    | nil => rfl
    | cons t rest ih =>
      rw [List.forall_mem_cons] at h
      rw [performArgs, preorderArgs, actAll_append, preorder_eq_cons, actAll_cons, h.1, ih h.2]
      simp only [bind_assoc, pure_bind]
  have hnamed : ∀ named : List (String × Tree),
      performNamed handlers named = performArgs handlers (named.map Prod.snd) := by
    intro named
    induction named with
    | nil => rfl
    | cons e rest ih => rw [performNamed, ih, List.map_cons, performArgs]
  induction t using children_induction with
  | step t ih =>
    cases t with
    | call head args named location =>
      have hchildren : ∀ c ∈ args ++ named.map Prod.snd, perform handlers c = (do
        let answer ← act handlers c
        actAll handlers (preorderArgs c.children)
        return answer) := ih
      rw [List.forall_mem_append] at hchildren
      rw [perform, hnamed, hargs args hchildren.1, hargs _ hchildren.2, children, preorderArgs_append,
        actAll_append]
      simp only [bind_assoc]
    | _ => simp [perform, children, preorderArgs, actAll]

end

end ExprMarkup.Tree
