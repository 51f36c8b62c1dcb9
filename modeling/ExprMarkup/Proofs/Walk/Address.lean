import ExprMarkup.Proofs.Walk

namespace ExprMarkup.Tree

/-- What holds of a tree if it holds of its children holds of all trees. -/
theorem children_induction {motive : Tree → Prop}
    (step : ∀ t : Tree, (∀ c ∈ t.children, motive c) → motive t) (t : Tree) : motive t := by
  induction t with
  | literal value location => exact step _ (by simp [children])
  | symbol name location => exact step _ (by simp [children])
  | call head args named location hargs hnamed =>
    refine step _ fun c hc => ?_
    rcases List.mem_append.mp hc with hc | hc
    · exact hargs c hc
    · obtain ⟨e, he, rfl⟩ := List.mem_map.mp hc
      exact hnamed e he
  | bare location => exact step _ (by simp [children])

/-- The node at an address, if there is one. -/
def at? : List Nat → Tree → Option Tree
  | [], t => some t
  | i :: below, t => t.children[i]?.bind (at? below)

mutual

/-- The nodes in pre-order, each with its address. -/
def addressed : Tree → List (List Nat × Tree)
  | .call head args named location =>
    ([], .call head args named location) :: (addressedArgs 0 args ++ addressedNamed args.length named)
  | .literal value location => [([], .literal value location)]
  | .symbol name location => [([], .symbol name location)]
  | .bare location => [([], .bare location)]

/-- The nodes of some children, the first of which has the given number. -/
def addressedArgs (i : Nat) : List Tree → List (List Nat × Tree)
  | [] => []
  | t :: rest => (addressed t).map (fun e => (i :: e.1, e.2)) ++ addressedArgs (i + 1) rest

def addressedNamed (i : Nat) : List (String × Tree) → List (List Nat × Tree)
  | [] => []
  | (_, t) :: rest => (addressed t).map (fun e => (i :: e.1, e.2)) ++ addressedNamed (i + 1) rest

end

/-- The nodes of one child with their addresses from the parent. -/
def fromParent (c : Tree × Nat) : List (List Nat × Tree) := c.1.addressed.map fun e => (c.2 :: e.1, e.2)

theorem addressedArgs_eq_flatMap (i : Nat) (args : List Tree) :
    addressedArgs i args = (args.zipIdx i).flatMap fromParent := by
  induction args generalizing i with
  | nil => rfl
  | cons t rest ih => rw [addressedArgs, ih, List.zipIdx_cons, List.flatMap_cons, fromParent]

theorem addressedNamed_eq_flatMap (i : Nat) (named : List (String × Tree)) :
    addressedNamed i named = ((named.map Prod.snd).zipIdx i).flatMap fromParent := by
  induction named generalizing i with
  | nil => rfl
  | cons e rest ih =>
    rw [addressedNamed, ih, List.map_cons, List.zipIdx_cons, List.flatMap_cons, fromParent]

theorem addressed_eq_cons (t : Tree) : t.addressed = ([], t) :: t.children.zipIdx.flatMap fromParent := by
  cases t with
  | call head args named location =>
    rw [addressed, children, List.zipIdx_append, List.flatMap_append, Nat.zero_add,
      addressedArgs_eq_flatMap, addressedNamed_eq_flatMap]
  | _ => simp [addressed, children]

theorem map_snd_addressed (t : Tree) : t.addressed.map Prod.snd = t.preorder := by
  induction t using children_induction with
  | step t ih =>
    have hchildren : ∀ (ts : List Tree) (i : Nat), (∀ c ∈ ts, c.addressed.map Prod.snd = c.preorder) →
        ((ts.zipIdx i).flatMap fromParent).map Prod.snd = preorderArgs ts := by
      intro ts
      induction ts with
      | nil => intro i h; rfl
      | cons c rest ihrest =>
        intro i h
        rw [List.forall_mem_cons] at h
        have hfirst : (fromParent (c, i)).map Prod.snd = c.preorder := by
          rw [fromParent, List.map_map, ← h.1]
          rfl
        rw [List.zipIdx_cons, List.flatMap_cons, List.map_append, hfirst, ihrest (i + 1) h.2,
          preorderArgs]
    rw [addressed_eq_cons, preorder_eq_cons, List.map_cons, hchildren t.children 0 ih]

/-- Each address of a tree comes with its node, and nothing else does. -/
theorem mem_addressed {t n : Tree} {a : List Nat} : (a, n) ∈ t.addressed ↔ t.at? a = some n := by
  induction t using children_induction generalizing a with
  | step t ih =>
    rw [addressed_eq_cons, List.mem_cons, List.mem_flatMap]
    cases a with
    | nil =>
      constructor
      · rintro (h | ⟨c, -, h⟩)
        · rw [at?, (Prod.mk.inj h).2]
        · simp [fromParent] at h
      · intro h
        exact .inl (by rw [Option.some.inj h])
    | cons i rest =>
      rw [at?, Option.bind_eq_some_iff]
      constructor
      · rintro (h | ⟨c, hc, h⟩)
        · simp at h
        · obtain ⟨e, he, heq⟩ := List.mem_map.mp h
          obtain ⟨hi, rfl⟩ := Prod.mk.inj heq
          obtain ⟨rfl, rfl⟩ := List.cons.inj hi
          have hget := List.mem_zipIdx_iff_getElem?.mp hc
          exact ⟨c.1, hget, (ih c.1 (List.mem_of_getElem? hget)).mp he⟩
      · rintro ⟨c, hget, h⟩
        refine .inr ⟨(c, i), List.mem_zipIdx_iff_getElem?.mpr hget, ?_⟩
        exact List.mem_map.mpr ⟨(rest, n), (ih c (List.mem_of_getElem? hget)).mpr h, rfl⟩

theorem pairwise_snd_zipIdx {α : Type} (l : List α) (k : Nat) :
    (l.zipIdx k).Pairwise fun a b => a.2 < b.2 := by
  induction l generalizing k with
  | nil => exact .nil
  | cons a rest ih =>
    rw [List.zipIdx_cons, List.pairwise_cons]
    exact ⟨fun b hb => List.le_snd_of_mem_zipIdx hb, ih (k + 1)⟩

/-- The addresses come in their order as words, so none comes twice. -/
theorem pairwise_addressed (t : Tree) : t.addressed.Pairwise fun a b => List.Lex (· < ·) a.1 b.1 := by
  induction t using children_induction with
  | step t ih =>
    rw [addressed_eq_cons, List.pairwise_cons, List.pairwise_flatMap]
    refine ⟨?_, ?_, ?_⟩
    · intro e he
      obtain ⟨c, -, he⟩ := List.mem_flatMap.mp he
      obtain ⟨own, -, rfl⟩ := List.mem_map.mp he
      exact List.Lex.nil
    · intro c hc
      have hmem : c.1 ∈ t.children :=
        List.mem_of_getElem? (List.mem_zipIdx_iff_getElem?.mp hc)
      rw [fromParent, List.pairwise_map]
      exact (ih c.1 hmem).imp fun h => List.Lex.cons h
    · refine (pairwise_snd_zipIdx t.children 0).imp fun hlt a ha b hb => ?_
      obtain ⟨a, -, rfl⟩ := List.mem_map.mp ha
      obtain ⟨b, -, rfl⟩ := List.mem_map.mp hb
      exact List.Lex.rel hlt

/-- Pre-order goes through the addresses of a tree in their order, and meets each of them once. -/
theorem preorder_by_address (t : Tree) :
    ∃ addresses : List (List Nat), addresses.Pairwise (List.Lex (· < ·)) ∧
      (∀ a, a ∈ addresses ↔ (t.at? a).isSome = true) ∧
      addresses.map (fun a => t.at? a) = t.preorder.map some := by
  refine ⟨t.addressed.map Prod.fst, List.pairwise_map.mpr t.pairwise_addressed, ?_, ?_⟩
  · intro a
    rw [Option.isSome_iff_exists]
    constructor
    · intro ha
      obtain ⟨e, he, rfl⟩ := List.mem_map.mp ha
      exact ⟨e.2, mem_addressed.mp he⟩
    · rintro ⟨n, hn⟩
      exact List.mem_map.mpr ⟨(a, n), mem_addressed.mpr hn, rfl⟩
  · rw [← map_snd_addressed, List.map_map, List.map_map]
    exact List.map_congr_left fun e he => mem_addressed.mp he

end ExprMarkup.Tree
