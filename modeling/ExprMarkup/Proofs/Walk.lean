import ExprMarkup.Tree.Walk

namespace ExprMarkup.Tree

theorem self_mem_preorder (t : Tree) : t ∈ t.preorder := by
  cases t <;> simp [preorder]

/-- The nodes of a part of a tree are nodes of the tree. -/
theorem mem_preorder_trans {t s n : Tree} (hs : s ∈ t.preorder) (hn : n ∈ s.preorder) :
    n ∈ t.preorder := by
  induction t with
  | literal value location =>
    obtain rfl : s = .literal value location := by simpa [preorder] using hs
    exact hn
  | symbol name location =>
    obtain rfl : s = .symbol name location := by simpa [preorder] using hs
    exact hn
  | bare location =>
    obtain rfl : s = .bare location := by simpa [preorder] using hs
    exact hn
  | call head args named location hargs hnamed =>
    have hs' := hs
    rw [preorder, List.mem_cons, List.mem_append, mem_preorderArgs, mem_preorderNamed] at hs'
    rw [preorder, List.mem_cons, List.mem_append, mem_preorderArgs, mem_preorderNamed]
    rcases hs' with rfl | ⟨t, ht, hst⟩ | ⟨e, he, hse⟩
    · rwa [preorder, List.mem_cons, List.mem_append, mem_preorderArgs, mem_preorderNamed] at hn
    · exact .inr (.inl ⟨t, ht, hargs t ht hst⟩)
    · exact .inr (.inr ⟨e, he, hnamed e he hse⟩)

theorem wellFormed_of_mem_preorder {t n : Tree} (ht : t.WellFormed) (hn : n ∈ t.preorder) :
    n.WellFormed := by
  induction t with
  | literal value location =>
    obtain rfl : n = .literal value location := by simpa [preorder] using hn
    exact ht
  | symbol name location =>
    obtain rfl : n = .symbol name location := by simpa [preorder] using hn
    exact ht
  | bare location =>
    obtain rfl : n = .bare location := by simpa [preorder] using hn
    exact ht
  | call head args named location hargs hnamed =>
    have hparts := ht
    rw [WellFormed, allWellFormed_iff, namedWellFormed_iff] at hparts
    rw [preorder, List.mem_cons, List.mem_append, mem_preorderArgs, mem_preorderNamed] at hn
    rcases hn with rfl | ⟨t, ht, hn⟩ | ⟨e, he, hn⟩
    · exact ht
    · exact hargs t ht (hparts.2.2.1 t ht) hn
    · exact hnamed e he (hparts.2.2.2 e he).2 hn

theorem mem_preorder_arg {head : String} {args : List Tree} {named : List (String × Tree)}
    {location : Option Location} {t : Tree} (ht : t ∈ args) :
    t ∈ (call head args named location).preorder := by
  rw [preorder, List.mem_cons, List.mem_append, mem_preorderArgs]
  exact .inr (.inl ⟨t, ht, t.self_mem_preorder⟩)

theorem mem_preorder_named {head : String} {args : List Tree} {named : List (String × Tree)}
    {location : Option Location} {e : String × Tree} (he : e ∈ named) :
    e.2 ∈ (call head args named location).preorder := by
  rw [preorder, List.mem_cons, List.mem_append, mem_preorderNamed]
  exact .inr (.inr ⟨e, he, e.2.self_mem_preorder⟩)

theorem preorderArgs_append (a b : List Tree) :
    preorderArgs (a ++ b) = preorderArgs a ++ preorderArgs b := by
  induction a with
  | nil => rfl
  | cons t rest ih => rw [List.cons_append, preorderArgs, preorderArgs, ih, List.append_assoc]

theorem preorderArgs_map_snd (named : List (String × Tree)) :
    preorderArgs (named.map Prod.snd) = preorderNamed named := by
  induction named with
  | nil => rfl
  | cons e rest ih => rw [List.map_cons, preorderArgs, preorderNamed, ih]

theorem preorder_eq_cons (t : Tree) : t.preorder = t :: preorderArgs t.children := by
  cases t <;> simp [preorder, children, preorderArgs, preorderArgs_append, preorderArgs_map_snd]

theorem iterate_eq_preorderArgs (stack : List Tree) : iterate stack = preorderArgs stack := by
  induction stack using iterate.induct with
  | case1 => rw [iterate, preorderArgs]
  | case2 t rest ih =>
    rw [iterate, ih, preorderArgs, preorder_eq_cons, preorderArgs_append, List.cons_append]

theorem nodes_eq_preorder (root : Tree) : root.nodes = root.preorder := by
  rw [nodes, iterate_eq_preorderArgs, preorderArgs, preorderArgs, List.append_nil]

theorem mem_symbols {root : Tree} {name : String} :
    name ∈ root.symbols ↔ ∃ location, .symbol name location ∈ root.preorder := by
  rw [symbols, mem_distinct, nodes_eq_preorder, List.mem_filterMap]
  constructor
  · rintro ⟨n, hn, hname⟩
    cases n with
    | symbol other location =>
      obtain rfl : other = name := by simpa [symbolName?] using hname
      exact ⟨location, hn⟩
    | literal => simp [symbolName?] at hname
    | call => simp [symbolName?] at hname
    | bare => simp [symbolName?] at hname
  · rintro ⟨location, hn⟩
    exact ⟨_, hn, rfl⟩

theorem mem_calls {root : Tree} {head : String} :
    head ∈ root.calls ↔ ∃ args named location, .call head args named location ∈ root.preorder := by
  rw [calls, mem_distinct, nodes_eq_preorder, List.mem_filterMap]
  constructor
  · rintro ⟨n, hn, hhead⟩
    cases n with
    | call other args named location =>
      obtain rfl : other = head := by simpa [callHead?] using hhead
      exact ⟨args, named, location, hn⟩
    | literal => simp [callHead?] at hhead
    | symbol => simp [callHead?] at hhead
    | bare => simp [callHead?] at hhead
  · rintro ⟨args, named, location, hn⟩
    exact ⟨_, hn, rfl⟩

end ExprMarkup.Tree
