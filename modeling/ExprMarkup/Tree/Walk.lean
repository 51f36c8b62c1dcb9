import ExprMarkup.Tree

namespace ExprMarkup.Tree

mutual

/-- The nodes of a tree: a node comes before its children, the positional ones before the named ones. -/
def preorder : Tree → List Tree
  | .call head args named location =>
    .call head args named location :: (preorderArgs args ++ preorderNamed named)
  | .literal value location => [.literal value location]
  | .symbol name location => [.symbol name location]
  | .bare location => [.bare location]

def preorderArgs : List Tree → List Tree
  | [] => []
  | t :: rest => preorder t ++ preorderArgs rest

def preorderNamed : List (String × Tree) → List Tree
  | [] => []
  | (_, t) :: rest => preorder t ++ preorderNamed rest

end

theorem mem_preorderArgs {args : List Tree} {n : Tree} :
    n ∈ preorderArgs args ↔ ∃ t ∈ args, n ∈ t.preorder := by
  induction args with
  | nil => simp [preorderArgs]
  | cons t rest ih => simp [preorderArgs, ih]

theorem mem_preorderNamed {named : List (String × Tree)} {n : Tree} :
    n ∈ preorderNamed named ↔ ∃ e ∈ named, n ∈ e.2.preorder := by
  induction named with
  | nil => simp [preorderNamed]
  | cons e rest ih =>
    obtain ⟨name, t⟩ := e
    rw [preorderNamed, List.mem_append, ih]
    simp

/-- What holds of all nodes of a call holds of the call and of all nodes of its arguments. -/
theorem forall_preorder_call {p : Tree → Prop} {head : String} {args : List Tree}
    {named : List (String × Tree)} {location : Option Location} :
    (∀ n ∈ (call head args named location).preorder, p n) ↔
      p (.call head args named location) ∧ (∀ t ∈ args, ∀ n ∈ t.preorder, p n) ∧
        ∀ e ∈ named, ∀ n ∈ e.2.preorder, p n := by
  simp only [preorder, List.mem_cons, List.mem_append, mem_preorderArgs, mem_preorderNamed]
  constructor
  · intro h
    exact ⟨h _ (.inl rfl), fun t ht n hn => h n (.inr (.inl ⟨t, ht, hn⟩)),
      fun e he n hn => h n (.inr (.inr ⟨e, he, hn⟩))⟩
  · rintro ⟨hself, hargs, hnamed⟩ n (rfl | ⟨t, ht, hn⟩ | ⟨e, he, hn⟩)
    · exact hself
    · exact hargs t ht n hn
    · exact hnamed e he n hn

mutual

/-- The number of nodes. -/
def size : Tree → Nat
  | .call _ args named _ => 1 + (sizeArgs args + sizeNamed named)
  | .literal _ _ => 1
  | .symbol _ _ => 1
  | .bare _ => 1

def sizeArgs : List Tree → Nat
  | [] => 0
  | t :: rest => size t + sizeArgs rest

def sizeNamed : List (String × Tree) → Nat
  | [] => 0
  | (_, t) :: rest => size t + sizeNamed rest

end

theorem sizeArgs_append (a b : List Tree) : sizeArgs (a ++ b) = sizeArgs a + sizeArgs b := by
  induction a with
  | nil => simp [sizeArgs]
  | cons t rest ih => simp [sizeArgs, ih, Nat.add_assoc]

theorem sizeArgs_map_snd (named : List (String × Tree)) :
    sizeArgs (named.map Prod.snd) = sizeNamed named := by
  induction named with
  | nil => rfl
  | cons e rest ih => simp [sizeArgs, sizeNamed, ih]

theorem size_eq_children (t : Tree) : t.size = 1 + sizeArgs t.children := by
  cases t <;> simp [size, children, sizeArgs, sizeArgs_append, sizeArgs_map_snd]

/-- Takes the nodes from a stack, each time putting the children of the top node in its place. -/
def iterate (stack : List Tree) : List Tree :=
  match stack with
  | [] => []
  | t :: rest => t :: iterate (t.children ++ rest)
termination_by sizeArgs stack
decreasing_by
  have h := size_eq_children t
  simp [sizeArgs, sizeArgs_append]
  omega

def nodes (root : Tree) : List Tree := iterate [root]

/-- The kinds of handlers: one for each kind of node, and one for what has none of its own. -/
inductive HandlerKind
  | literal
  | symbol
  | call
  | default
  deriving DecidableEq

/-- The handlers that there are. -/
abbrev Handlers (ρ : Type) := HandlerKind → Option (Tree → ρ)

/-- A call of a handler. -/
structure Handled (ρ : Type) where
  kind : HandlerKind
  node : Tree
  result : ρ

def ownKind : Tree → HandlerKind
  | .literal _ _ => .literal
  | .symbol _ _ => .symbol
  | .call _ _ _ _ => .call
  | .bare _ => .default

/-- Calls the handler of a node's own kind, or else the default one, if there is one. -/
def dispatch {ρ : Type} (handlers : Handlers ρ) (t : Tree) : Option (Handled ρ) :=
  match handlers t.ownKind with
  | some f => some ⟨t.ownKind, t, f t⟩
  | none => (handlers .default).map fun f => ⟨.default, t, f t⟩

mutual

/-- The calls of handlers in the order in which they are made. -/
def visit {ρ : Type} (handlers : Handlers ρ) : Tree → List (Handled ρ)
  | .call head args named location =>
    (dispatch handlers (.call head args named location)).toList ++
      (visitArgs handlers args ++ visitNamed handlers named)
  | .literal value location => (dispatch handlers (.literal value location)).toList
  | .symbol name location => (dispatch handlers (.symbol name location)).toList
  | .bare location => (dispatch handlers (.bare location)).toList

def visitArgs {ρ : Type} (handlers : Handlers ρ) : List Tree → List (Handled ρ)
  | [] => []
  | t :: rest => visit handlers t ++ visitArgs handlers rest

def visitNamed {ρ : Type} (handlers : Handlers ρ) : List (String × Tree) → List (Handled ρ)
  | [] => []
  | (_, t) :: rest => visit handlers t ++ visitNamed handlers rest

end

/-- What the visit of a root returns: the result of the root's own handler. -/
def visitResult {ρ : Type} (handlers : Handlers ρ) (root : Tree) : Option ρ :=
  (dispatch handlers root).map Handled.result

def symbolName? : Tree → Option String
  | .symbol name _ => some name
  | _ => none

def callHead? : Tree → Option String
  | .call head _ _ _ => some head
  | _ => none

/-- The different names among those given, in the order in which they first appear. -/
def distinct (names : List String) : List String :=
  names.foldl (fun seen name => if seen.contains name then seen else seen ++ [name]) []

theorem foldl_distinct (names seen : List String) (h : seen.Nodup) :
    (names.foldl (fun seen name => if seen.contains name then seen else seen ++ [name]) seen).Nodup ∧
      ∀ name, name ∈ names.foldl (fun seen name => if seen.contains name then seen
        else seen ++ [name]) seen ↔ name ∈ seen ∨ name ∈ names := by
  induction names generalizing seen with
  | nil => simp [h]
  | cons first rest ih =>
    rw [List.foldl_cons]
    by_cases hmem : first ∈ seen
    · simp only [List.contains_iff_mem.mpr hmem, if_true]
      obtain ⟨hnodup, hiff⟩ := ih seen h
      refine ⟨hnodup, fun name => ?_⟩
      rw [hiff, List.mem_cons]
      constructor
      · rintro (hs | hr)
        · exact .inl hs
        · exact .inr (.inr hr)
      · rintro (hs | rfl | hr)
        · exact .inl hs
        · exact .inl hmem
        · exact .inr hr
    · have hc : seen.contains first = false := by simpa using hmem
      have hnext : (seen ++ [first]).Nodup := by
        rw [List.nodup_append]
        refine ⟨h, by simp, ?_⟩
        intro a ha b hb hab
        rw [List.mem_singleton] at hb
        exact hmem (hb ▸ hab ▸ ha)
      simp only [hc]
      obtain ⟨hnodup, hiff⟩ := ih _ hnext
      refine ⟨hnodup, fun name => ?_⟩
      rw [if_neg (by simp), hiff, List.mem_append, List.mem_singleton, List.mem_cons, or_assoc]

theorem nodup_distinct (names : List String) : (distinct names).Nodup :=
  (foldl_distinct names [] List.nodup_nil).1

theorem mem_distinct (names : List String) (name : String) :
    name ∈ distinct names ↔ name ∈ names :=
  ((foldl_distinct names [] List.nodup_nil).2 name).trans (by simp)

/-- The names of the symbols of a tree. Heads of calls are not symbols. -/
def symbols (root : Tree) : List String := distinct (root.nodes.filterMap symbolName?)

theorem nodup_symbols (root : Tree) : root.symbols.Nodup := nodup_distinct _

def calls (root : Tree) : List String := distinct (root.nodes.filterMap callHead?)

end ExprMarkup.Tree
