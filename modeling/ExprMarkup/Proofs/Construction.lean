import ExprMarkup.Proofs.Folding
import ExprMarkup.Tree

namespace ExprMarkup

namespace Value

variable {α : Type}

theorem equal_text (a b : String) : (text a).equal (text b) = (a == b) := by
  have h : (Scalar.text a == Scalar.text b) = (a == b) := by
    rw [Bool.eq_iff_iff, beq_iff_eq, beq_iff_eq, Scalar.text.injEq]
  simp [equal, Scalar.equal, Scalar.number?, h]

theorem putPair_text (key : String) (item : α) (entries : List (String × α)) :
    putPair (text key) item (entries.map fun e => (text e.1, e.2)) =
      (Table.putEntry key item entries).map fun e => (text e.1, e.2) := by
  induction entries with
  | nil => rfl
  | cons e rest ih =>
    obtain ⟨name, old⟩ := e
    simp only [List.map_cons, putPair, equal_text, Table.putEntry]
    by_cases h : name = key
    · simp [h]
    · simp [h, ih]

theorem foldPairs_append (pairs later : List (Value × α)) :
    foldPairs (pairs ++ later) =
      later.foldl (fun folded e => putPair e.1 e.2 folded) (foldPairs pairs) :=
  List.foldl_append

theorem foldPairs_concat (pairs : List (Value × α)) (e : Value × α) :
    foldPairs (pairs ++ [e]) = putPair e.1 e.2 (foldPairs pairs) :=
  foldPairs_append pairs [e]

/-- A list under texts folds to the entries of its table. -/
theorem foldPairs_text (pairs : List (String × α)) :
    foldPairs (pairs.map fun e => (text e.1, e.2)) =
      (Table.ofList pairs).entries.map fun e => (text e.1, e.2) := by
  induction pairs using List.reverseRecOn with
  | nil => rfl
  | append_singleton pairs e ih =>
    rw [List.map_append, List.map_singleton, foldPairs_concat, ih, putPair_text, Table.ofList_concat]
    rfl

theorem item_of_mem_putPair {key : Value} {item : α} {pairs : List (Value × α)} {e : Value × α}
    (h : e ∈ putPair key item pairs) : e.2 = item ∨ e ∈ pairs := by
  induction pairs with
  | nil => exact .inl (congrArg Prod.snd (List.mem_singleton.mp h))
  | cons first rest ih =>
    rw [putPair] at h
    split at h
    · rcases List.mem_cons.mp h with rfl | h
      · exact .inl rfl
      · exact .inr (List.mem_cons_of_mem _ h)
    · rcases List.mem_cons.mp h with rfl | h
      · exact .inr List.mem_cons_self
      · exact (ih h).imp_right (List.mem_cons_of_mem _)

theorem keys_putPair (key : Value) (item : α) (pairs : List (Value × α)) :
    (putPair key item pairs).map Prod.fst =
      if pairs.any fun e => e.1.equal key then pairs.map Prod.fst else pairs.map Prod.fst ++ [key] := by
  induction pairs with
  | nil => rfl
  | cons e rest ih =>
    by_cases h : e.1.equal key = true
    · simp [putPair, h]
    · rw [Bool.not_eq_true] at h
      simp only [putPair, h, Bool.false_eq_true, if_false, List.map_cons, ih, List.any_cons,
        Bool.false_or]
      split <;> rfl

/-- Folding brings in no keys. -/
theorem mem_keys_of_foldPairs {pairs : List (Value × α)} {key : Value}
    (h : key ∈ (foldPairs pairs).map Prod.fst) : key ∈ pairs.map Prod.fst := by
  induction pairs using List.reverseRecOn with
  | nil => exact h
  | append_singleton pairs last ih =>
    rw [foldPairs_concat, keys_putPair] at h
    rw [List.map_append]
    split at h
    · exact List.mem_append_left _ (ih h)
    · rcases List.mem_append.mp h with h | h
      · exact List.mem_append_left _ (ih h)
      · exact List.mem_append_right _ h

/-- Folding brings in no items. -/
theorem exists_of_mem_foldPairs {pairs : List (Value × α)} {e : Value × α} (h : e ∈ foldPairs pairs) :
    ∃ p ∈ pairs, p.2 = e.2 := by
  induction pairs using List.reverseRecOn with
  | nil => cases h
  | append_singleton pairs last ih =>
    rw [foldPairs_concat] at h
    obtain hitem | h := item_of_mem_putPair h
    · exact ⟨last, by simp, hitem.symm⟩
    · obtain ⟨p, hp, hitem⟩ := ih h
      exact ⟨p, List.mem_append_left _ hp, hitem⟩

end Value

namespace Tree

theorem identifier_text {role : NameRole} {name : String} {location : Option Location}
    (h : Text.isIdentifier name = true) : identifier role (.text name) location = .ok name := by
  simp [identifier, h]

theorem newSymbol_text {name : String} {location : Option Location}
    (h : Text.isIdentifier name = true) :
    newSymbol (.text name) location = .ok (.symbol name location) := by
  rw [newSymbol, identifier_text h]
  rfl

theorem checkArgs_node (location : Option Location) (head : String) (args : List Tree) :
    checkArgs location head (args.map .node) = .ok args := by
  induction args with
  | nil => rfl
  | cons t rest ih =>
    rw [List.map_cons, checkArgs, ih]
    rfl

theorem checkNamed_node {location : Option Location} {seen : List String}
    {named : List (String × Tree)} (hnames : ∀ e ∈ named, Text.isIdentifier e.1 = true)
    (hnodup : (named.map Prod.fst).Nodup) (hseen : ∀ e ∈ named, e.1 ∉ seen) :
    checkNamed location seen (named.map fun e => (.text e.1, .node e.2)) = .ok named := by
  induction named generalizing seen with
  | nil => rfl
  | cons e rest ih =>
    obtain ⟨name, t⟩ := e
    have hname := hnames (name, t) (by simp)
    have hnew : seen.contains name = false := by simpa using hseen (name, t) (by simp)
    rw [List.map_cons, List.nodup_cons] at hnodup
    have hrest : ∀ e ∈ rest, e.1 ∉ name :: seen := by
      intro e he
      have hmem : e.1 ∈ rest.map Prod.fst := List.mem_map_of_mem he
      have hne : e.1 ≠ name := fun heq => hnodup.1 (heq ▸ hmem)
      simp [hne, hseen e (by simp [he])]
    have htail := ih (fun e he => hnames e (by simp [he])) hnodup.2 hrest
    simp only [List.map_cons, checkNamed, identifier_text hname, bind, Except.bind, hnew, htail]
    rfl

/-- A call of an identifier with named arguments under identifiers. -/
theorem newCall_text {head : String} {args : List Tree} {pairs : List (String × Tree)}
    {location : Option Location} (hhead : Text.isIdentifier head = true)
    (hnames : ∀ e ∈ pairs, Text.isIdentifier e.1 = true) :
    newCall (.text head) (args.map .node)
        (Value.foldPairs (pairs.map fun e => (.text e.1, .node e.2))) location =
      .ok (.call head args (Table.ofList pairs).entries location) := by
  have hfold : Value.foldPairs (pairs.map fun e => (.text e.1, .node e.2)) =
      (Table.ofList pairs).entries.map fun e => (Value.text e.1, Argument.node e.2) := by
    have htext := Value.foldPairs_text (pairs.map fun e => (e.1, Argument.node e.2))
    rw [Table.ofList_map] at htext
    simpa [Table.map, Function.comp_def] using htext
  have hnamed : checkNamed location []
      ((Table.ofList pairs).entries.map fun e => (Value.text e.1, Argument.node e.2)) =
        .ok (Table.ofList pairs).entries :=
    checkNamed_node (fun e he => hnames e (Table.mem_ofList he)) (Table.ofList pairs).nodup
      (by simp)
  simp only [newCall, identifier_text hhead, hfold, hnamed, checkArgs_node, bind, Except.bind]
  rfl

theorem build_text {head : String} {args : List Tree} {pairs : List (String × Tree)}
    {location : Option Location} (hhead : Text.isIdentifier head = true)
    (hnames : ∀ e ∈ pairs, Text.isIdentifier e.1 = true) :
    build (.text head) (args.map .node) (pairs.map fun e => (.text e.1, .node e.2)) location =
      .ok (.call head args (Table.ofList pairs).entries location) := by
  have hkeys : (pairs.map fun e => (Value.text e.1, Argument.node e.2)).all
      (fun e => e.1.isHashable) = true := by
    simp [Value.isHashable]
  rw [build, if_pos hkeys, newCall_text hhead hnames]

end Tree

end ExprMarkup
