import ExprMarkup.Proofs.Document

namespace ExprMarkup.Tree

/-- The elements of a list. -/
def elementsOf : Value → List Value
  | .list items => items
  | .tuple items => items
  | _ => []

/-- What stands with a name. -/
def named? : Value → Option Value
  | .list [_, v] => some v
  | .tuple [_, v] => some v
  | _ => none

def elementsUnder (entries : List (String × Value)) (key : String) : List Value :=
  ((field? entries key).map elementsOf).getD []

/-- The documents of the arguments, the positional ones first. -/
def parts : Value → List Value
  | .dict entries => elementsUnder entries "args" ++ (elementsUnder entries "named").filterMap named?
  | _ => []

theorem sizeOf_of_mem_elementsOf {v w : Value} (h : w ∈ elementsOf v) : sizeOf w < sizeOf v := by
  cases v with
  | list items =>
    have hitem : sizeOf w < sizeOf items := List.sizeOf_lt_of_mem h
    simp only [Value.list.sizeOf_spec]
    omega
  | tuple items =>
    have hitem : sizeOf w < sizeOf items := List.sizeOf_lt_of_mem h
    simp only [Value.tuple.sizeOf_spec]
    omega
  | _ => cases h

theorem sizeOf_of_mem_elementsUnder {entries : List (String × Value)} {key : String} {w : Value}
    (h : w ∈ elementsUnder entries key) : sizeOf w < sizeOf (Value.dict entries) := by
  unfold elementsUnder field? at h
  cases hfind : entries.find? fun e => e.1 == key with
  | none => simp [hfind] at h
  | some e =>
    have hw : w ∈ elementsOf e.2 := by simpa [hfind] using h
    have hsmall := sizeOf_of_mem_elementsOf hw
    have hentry := List.sizeOf_lt_of_mem (List.mem_of_find?_eq_some hfind)
    have hpair : sizeOf e.2 < sizeOf e := by
      obtain ⟨k, v⟩ := e
      simp only [Prod.mk.sizeOf_spec]
      omega
    simp only [Value.dict.sizeOf_spec]
    omega

theorem mem_elementsOf_of_named? {v w : Value} (h : named? v = some w) : w ∈ elementsOf v := by
  unfold named? at h
  split at h
  · cases h
    simp [elementsOf]
  · cases h
    simp [elementsOf]
  · cases h

theorem sizeOf_of_mem_parts {d w : Value} (h : w ∈ parts d) : sizeOf w < sizeOf d := by
  cases d with
  | dict entries =>
    rcases List.mem_append.mp h with h | h
    · exact sizeOf_of_mem_elementsUnder h
    · obtain ⟨pair, hpair, hw⟩ := List.mem_filterMap.mp h
      exact Nat.lt_trans (sizeOf_of_mem_elementsOf (mem_elementsOf_of_named? hw))
        (sizeOf_of_mem_elementsUnder hpair)
  | _ => cases h

/-- What holds of a document if it holds of its parts holds of all documents. -/
theorem parts_induction {motive : Value → Prop}
    (step : ∀ d, (∀ w ∈ parts d, motive w) → motive d) (d : Value) : motive d :=
  step d fun w _ => parts_induction step w
termination_by sizeOf d
decreasing_by exact sizeOf_of_mem_parts ‹_›

theorem mapM_ok {ε α β : Type} {f : α → Except ε β} {items : List α} {bs : List β}
    (h : items.mapM f = .ok bs) : ∀ b ∈ bs, ∃ a ∈ items, f a = .ok b := by
  induction items generalizing bs with
  | nil =>
    cases h
    simp
  | cons a rest ih =>
    rw [List.mapM_cons] at h
    obtain ⟨first, hfirst, h⟩ := bind_eq_ok.mp h
    obtain ⟨others, hothers, h⟩ := bind_eq_ok.mp h
    obtain rfl := pure_eq_ok.mp h
    rintro b (_ | ⟨_, hb⟩)
    · exact ⟨a, by simp, hfirst⟩
    · obtain ⟨c, hc, hok⟩ := ih hothers b hb
      exact ⟨c, by simp [hc], hok⟩

theorem mapM_error {ε α β : Type} {f : α → Except ε β} {items : List α} {e : ε}
    (h : items.mapM f = .error e) : ∃ a ∈ items, f a = .error e := by
  induction items with
  | nil => cases h
  | cons a rest ih =>
    rw [List.mapM_cons] at h
    rcases bind_eq_error.mp h with hfirst | ⟨first, -, h⟩
    · exact ⟨a, by simp, hfirst⟩
    · rcases bind_eq_error.mp h with hrest | ⟨others, -, h⟩
      · obtain ⟨b, hb, herror⟩ := ih hrest
        exact ⟨b, by simp [hb], herror⟩
      · cases h

theorem readNodes_eq_mapM (items : List Value) : readNodes items = items.mapM ofDocument := by
  induction items with
  | nil => rw [readNodes]; rfl
  | cons v rest ih => rw [readNodes, List.mapM_cons, ih]

theorem readPairs_eq_mapM (items : List Value) : readPairs items = items.mapM readPair := by
  induction items with
  | nil => rw [readPairs]; rfl
  | cons v rest ih => rw [readPairs, List.mapM_cons, ih]

theorem readElements_ok {v : Value} {ts : List Tree} (h : readElements v = .ok ts) :
    ∀ t ∈ ts, ∃ w ∈ elementsOf v, ofDocument w = .ok t := by
  unfold readElements at h
  split at h
  · rw [readNodes_eq_mapM] at h
    exact mapM_ok h
  · rw [readNodes_eq_mapM] at h
    exact mapM_ok h
  · obtain ⟨-, -, h⟩ := bind_eq_ok.mp h
    cases h
    simp
  · obtain ⟨-, -, h⟩ := bind_eq_ok.mp h
    cases h
    simp
  · split at h
    · cases h
      simp
    · cases h
  · cases h

theorem readPair_ok {v : Value} {p : Value × Tree} (h : readPair v = .ok p) :
    ∃ w, named? v = some w ∧ ofDocument w = .ok p.2 := by
  have hpair : ∀ (name w : Value), (do
      let t ← ofDocument w
      if name.isHashable then return (name, t) else throw (DocumentError.unhashableName name)) = .ok p →
        ofDocument w = .ok p.2 := by
    intro name w h
    obtain ⟨t, ht, h⟩ := bind_eq_ok.mp h
    split at h
    · obtain rfl := pure_eq_ok.mp h
      exact ht
    · cases h
  unfold readPair at h
  split at h
  · exact ⟨_, rfl, hpair _ _ h⟩
  · exact ⟨_, rfl, hpair _ _ h⟩
  all_goals cases h

theorem readPairsOf_ok {v : Value} {ps : List (Value × Tree)} (h : readPairsOf v = .ok ps) :
    ∀ p ∈ ps, ∃ w ∈ (elementsOf v).filterMap named?, ofDocument w = .ok p.2 := by
  have hpairs : ∀ items, readPairs items = .ok ps →
      ∀ p ∈ ps, ∃ w ∈ items.filterMap named?, ofDocument w = .ok p.2 := by
    intro items h p hp
    rw [readPairs_eq_mapM] at h
    obtain ⟨v, hv, hok⟩ := mapM_ok h p hp
    obtain ⟨w, hw, hok⟩ := readPair_ok hok
    exact ⟨w, List.mem_filterMap.mpr ⟨v, hv, hw⟩, hok⟩
  unfold readPairsOf at h
  split at h
  · exact hpairs _ h
  · exact hpairs _ h
  · split at h
    · cases h
      simp
    · cases h
  · split at h
    · cases h
      simp
    · cases h
  · split at h
    · cases h
      simp
    · cases h
  · cases h

theorem readArgs_ok {entries : List (String × Value)} {ts : List Tree} (h : readArgs entries = .ok ts) :
    ∀ t ∈ ts, ∃ w ∈ parts (.dict entries), ofDocument w = .ok t := by
  rw [readArgs_eq] at h
  cases hfield : field? entries "args" with
  | none =>
    rw [hfield] at h
    cases h
    simp
  | some v =>
    rw [hfield] at h
    intro t ht
    obtain ⟨w, hw, hok⟩ := readElements_ok h t ht
    exact ⟨w, List.mem_append_left _ (by simpa [elementsUnder, hfield] using hw), hok⟩

theorem readNamed_ok {entries : List (String × Value)} {ps : List (Value × Tree)}
    (h : readNamed entries = .ok ps) :
    ∀ p ∈ ps, ∃ w ∈ parts (.dict entries), ofDocument w = .ok p.2 := by
  rw [readNamed_eq] at h
  cases hfield : field? entries "named" with
  | none =>
    rw [hfield] at h
    cases h
    simp
  | some v =>
    rw [hfield] at h
    intro p hp
    obtain ⟨w, hw, hok⟩ := readPairsOf_ok h p hp
    exact ⟨w, List.mem_append_right _ (by simpa [elementsUnder, hfield] using hw), hok⟩

/-- A document is read as what a constructor makes, and a call is made of trees that its parts are read
as. -/
theorem ofDocument_ok {d : Value} {t : Tree} (h : ofDocument d = .ok t) :
    ∃ location, (∃ value, newLiteral value location = .ok t) ∨
      (∃ name, newSymbol name location = .ok t) ∨
      ∃ (head : Value) (args : List Tree) (named : List (Value × Tree)),
        newCall head (args.map .node) (Value.foldPairs (named.map fun e => (e.1, .node e.2)))
          location = .ok t ∧
        (∀ s ∈ args, ∃ w ∈ parts d, ofDocument w = .ok s) ∧
        ∀ e ∈ named, ∃ w ∈ parts d, ofDocument w = .ok e.2 := by
  cases d with
  | dict entries =>
    rw [ofDocument] at h
    split at h
    · cases h
    · cases h
    · obtain ⟨location, -, h⟩ := bind_eq_ok.mp h
      refine ⟨location, ?_⟩
      split at h
      · left
        unfold readLiteral at h
        split at h
        · cases h
        · exact ⟨_, mapError_eq_ok.mp h⟩
        · exact ⟨_, mapError_eq_ok.mp h⟩
      · right; left
        unfold readSymbol at h
        split at h
        · cases h
        · exact ⟨_, mapError_eq_ok.mp h⟩
      · right; right
        split at h
        · cases h
        · next head _ =>
          obtain ⟨-, -, h⟩ := bind_eq_ok.mp h
          obtain ⟨-, -, h⟩ := bind_eq_ok.mp h
          obtain ⟨named, hnamed, h⟩ := bind_eq_ok.mp h
          obtain ⟨args, hargs, h⟩ := bind_eq_ok.mp h
          exact ⟨head, args, named, mapError_eq_ok.mp h, readArgs_ok (mapError_eq_ok.mp hargs),
            readNamed_ok (mapError_eq_ok.mp hnamed)⟩
      · cases h
  | _ =>
    rw [ofDocument] at h
    · cases h
    all_goals simp

end ExprMarkup.Tree
