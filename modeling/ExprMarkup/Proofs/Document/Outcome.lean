import ExprMarkup.Proofs.Construction.Checks
import ExprMarkup.Proofs.Document.Parts

namespace ExprMarkup.Tree

/-- The errors of the decoder itself: of a wrong or missing value, and of a node that is none, because
something is malformed, or has a number for a name that is too long to be shown. -/
def DocumentError.IsDocumented : DocumentError → Prop
  | .notObject _ | .missingType | .unknownType _ | .missingField _ _ | .pairLength _ => True
  | .invalid (.error error) => ∃ why, error.cause = .malformed why
  | .invalid (.fault fault) => fault = .digitLimit
  | _ => False

/-- A document, its parts, the parts of these and so on. -/
inductive Inside : Value → Value → Prop
  | self (d : Value) : Inside d d
  | part {n w d : Value} (hw : w ∈ parts d) (h : Inside n w) : Inside n d

/-- What stands for named arguments, one by one. The elements of a byte string are numbers. -/
def offeredPairs : Value → List Value
  | .bytes data => data.map fun byte => .int byte.toNat
  | v => elementsOf v

/-- Where an error comes from that is made by no check. -/
inductive DocumentError.Misfit : DocumentError → Value → Prop
  /-- The outermost document has a location that lacks a place. -/
  | place {entries location : List (String × Value)} {field : String}
      (hfield : field ∈ ["lineno", "col_offset"])
      (hlocation : field? entries "location" = some (.dict location))
      (hnone : field? location field = none) : Misfit (.missingPlace field) (.dict entries)
  /-- A document has a location that is something, but no object. -/
  | location {entries : List (String × Value)} {v d : Value} (hinside : Inside (.dict entries) d)
      (hlocation : field? entries "location" = some v) (htruthy : v.isTruthy = true)
      (hobject : ∀ location, v ≠ .dict location) : Misfit (.locationNotObject v) d
  /-- Something that cannot be gone through stands for the arguments of a call. -/
  | args {entries : List (String × Value)} {v d : Value} (hinside : Inside (.dict entries) d)
      (hargs : field? entries "args" = some v) (hv : isIterable v = false) : Misfit (.notIterable v) d
  /-- Something that cannot be gone through stands for the named arguments of a call. -/
  | named {entries : List (String × Value)} {v d : Value} (hinside : Inside (.dict entries) d)
      (hnamed : field? entries "named" = some v) (hv : isIterable v = false) : Misfit (.notIterable v) d
  /-- Something that cannot be gone through stands for one named argument. -/
  | pair {entries : List (String × Value)} {v pair d : Value} (hinside : Inside (.dict entries) d)
      (hnamed : field? entries "named" = some v) (hpair : pair ∈ offeredPairs v)
      (hiterable : isIterable pair = false) : Misfit (.notUnpackable pair) d
  /-- A named argument has a list or an object for its name. -/
  | name {entries : List (String × Value)} {name pair w d : Value}
      (hinside : Inside (.dict entries) d) (hpair : pair ∈ elementsUnder entries "named")
      (helements : elementsOf pair = [name, w]) (hname : name.isHashable = false) :
      Misfit (.unhashableName name) d

open DocumentError (Misfit)

theorem readLocation_error {entries : List (String × Value)} {e : DocumentError}
    (h : readLocation entries = .error e) : Misfit e (.dict entries) := by
  unfold readLocation at h
  split at h
  · cases h
  · next v hv =>
    split at h
    · cases h
    · next htruthy =>
      split at h
      · next location =>
        split at h
        · next hnone =>
          cases h
          exact .place (by simp) hv hnone
        · split at h
          · next hnone =>
            cases h
            exact .place (by simp) hv hnone
          · cases h
      · next hobject =>
        cases h
        exact .location (.self _) hv (by simpa using htruthy) hobject

theorem checkIterable_error {entries : List (String × Value)} {key : String} {e : DocumentError}
    (h : checkIterable entries key = .error e) :
    ∃ v, e = .notIterable v ∧ field? entries key = some v ∧ isIterable v = false := by
  unfold checkIterable at h
  split at h
  · cases h
  · next v hv =>
    split at h
    · cases h
    · next hiterable =>
      cases h
      exact ⟨v, rfl, hv, by simpa using hiterable⟩

theorem checkIterable_ok {entries : List (String × Value)} {key : String} {v : Value}
    (h : checkIterable entries key = .ok ()) (hv : field? entries key = some v) :
    isIterable v = true := by
  simp only [checkIterable, hv] at h
  by_contra hiterable
  simp [hiterable] at h

/-- What a constructor refuses is documented. -/
theorem isDocumented_of_decides {condition spoiled : Prop} {result : Tree → Prop}
    {check : Except Failure Tree} {location : Option Location} {e : DocumentError}
    (hdecides : Decides location condition spoiled result check)
    (h : check.mapError .invalid = .error e) : e.IsDocumented := by
  obtain ⟨failure, hfailure, rfl⟩ := mapError_eq_error.mp h
  rcases hdecides.of_error hfailure with ⟨why, rfl⟩ | ⟨-, rfl⟩
  · exact ⟨why, rfl⟩
  · rfl

theorem readLiteral_error {entries : List (String × Value)} {location : Option Location}
    {e : DocumentError} (h : readLiteral entries location = .error e) : e.IsDocumented := by
  unfold readLiteral at h
  split at h
  · cases h
    trivial
  · exact isDocumented_of_decides (newLiteral_decides _ location) h
  · exact isDocumented_of_decides (newLiteral_decides _ location) h

theorem readSymbol_error {entries : List (String × Value)} {location : Option Location}
    {e : DocumentError} (h : readSymbol entries location = .error e) : e.IsDocumented := by
  unfold readSymbol at h
  split at h
  · cases h
    trivial
  · exact isDocumented_of_decides (newSymbol_decides _ location) h

theorem noElements_error {size : Nat} {e : DocumentError} {next : Except DocumentError (List Tree)}
    (h : (noElements size >>= fun _ => next) = .error e) : e.IsDocumented ∨ next = .error e := by
  rcases bind_eq_error.mp h with h | ⟨-, -, h⟩
  · unfold noElements at h
    split at h
    · cases h
    · cases h
      exact .inl trivial
  · exact .inr h

/-- Reading the elements fails where reading one of them does, and on elements that are no objects. -/
theorem readElements_error {v : Value} {e : DocumentError} (hv : isIterable v = true)
    (h : readElements v = .error e) :
    e.IsDocumented ∨ ∃ w ∈ elementsOf v, ofDocument w = .error e := by
  unfold readElements at h
  split at h
  · rw [readNodes_eq_mapM] at h
    exact .inr (mapM_error h)
  · rw [readNodes_eq_mapM] at h
    exact .inr (mapM_error h)
  · rcases noElements_error h with h | h
    · exact .inl h
    · cases h
  · rcases noElements_error h with h | h
    · exact .inl h
    · cases h
  · split at h
    · cases h
    · cases h
      exact .inl trivial
  · simp_all [isIterable]

theorem isDocumented_noPair (size : Nat) : (noPair size).IsDocumented := by
  unfold noPair
  split <;> trivial

/-- Why a list of names and nodes cannot be read: over one of its pairs, if the reason is none of those that
are documented. -/
inductive PairTrouble (items : List Value) : DocumentError → Prop
  | documented {e : DocumentError} (h : e.IsDocumented) : PairTrouble items e
  | part {pair w : Value} {e : DocumentError} (hpair : pair ∈ items) (hw : named? pair = some w)
      (h : ofDocument w = .error e) : PairTrouble items e
  | name {pair name w : Value} (hpair : pair ∈ items) (helements : elementsOf pair = [name, w])
      (hname : name.isHashable = false) : PairTrouble items (.unhashableName name)
  | unpackable {pair : Value} (hpair : pair ∈ items) (hiterable : isIterable pair = false) :
      PairTrouble items (.notUnpackable pair)

theorem PairTrouble.mono {items items' : List Value} {e : DocumentError} (h : PairTrouble items e)
    (hitems : ∀ pair ∈ items, pair ∈ items') : PairTrouble items' e := by
  cases h with
  | documented h => exact .documented h
  | part hpair hw h => exact .part (hitems _ hpair) hw h
  | name hpair helements hname => exact .name (hitems _ hpair) helements hname
  | unpackable hpair hiterable => exact .unpackable (hitems _ hpair) hiterable

theorem readPair_error {v : Value} {e : DocumentError} (h : readPair v = .error e) :
    PairTrouble [v] e := by
  have hself : v ∈ [v] := List.mem_cons_self
  have hpair : ∀ (name w : Value), named? v = some w → elementsOf v = [name, w] → (do
      let t ← ofDocument w
      if name.isHashable then return (name, t) else throw (DocumentError.unhashableName name)) =
        .error e → PairTrouble [v] e := by
    intro name w hw helements h
    rcases bind_eq_error.mp h with h | ⟨t, -, h⟩
    · exact .part hself hw h
    · split at h
      · cases h
      · next hname =>
        cases h
        exact .name hself helements (by simpa using hname)
  unfold readPair at h
  split at h
  · exact hpair _ _ rfl rfl h
  · exact hpair _ _ rfl rfl h
  · cases h
    exact .documented trivial
  · cases h
    exact .documented trivial
  · cases h
    exact .documented (isDocumented_noPair _)
  · cases h
    exact .documented (isDocumented_noPair _)
  · cases h
    refine .documented ?_
    split <;> trivial
  · cases h
    refine .unpackable hself ?_
    unfold isIterable
    split <;> simp_all

theorem readPairs_error {items : List Value} {e : DocumentError} (h : readPairs items = .error e) :
    PairTrouble items e := by
  rw [readPairs_eq_mapM] at h
  obtain ⟨pair, hmem, hpair⟩ := mapM_error h
  exact (readPair_error hpair).mono fun _ hself => List.mem_singleton.mp hself ▸ hmem

theorem readPairsOf_error {v : Value} {e : DocumentError} (hv : isIterable v = true)
    (h : readPairsOf v = .error e) : PairTrouble (offeredPairs v) e := by
  unfold readPairsOf at h
  split at h
  · exact readPairs_error h
  · exact readPairs_error h
  · split at h
    · cases h
    · cases h
      exact .documented trivial
  · split at h
    · cases h
    · cases h
      exact .documented (isDocumented_noPair _)
  · split at h
    · cases h
    · cases h
      exact .unpackable (by simp [offeredPairs]) rfl
  · simp_all [isIterable]

/-- The elements of a byte string have no elements themselves. -/
theorem mem_elementsOf_of_mem_offeredPairs {v pair w : Value} (hpair : pair ∈ offeredPairs v)
    (hw : w ∈ elementsOf pair) : pair ∈ elementsOf v := by
  cases v with
  | bytes data =>
    obtain ⟨byte, -, rfl⟩ := List.mem_map.mp hpair
    cases hw
  | _ => exact hpair

theorem readArgs_error {entries : List (String × Value)} {e : DocumentError}
    (hcheck : checkIterable entries "args" = .ok ()) (h : readArgs entries = .error e) :
    e.IsDocumented ∨ ∃ w ∈ parts (.dict entries), ofDocument w = .error e := by
  rw [readArgs_eq] at h
  cases hfield : field? entries "args" with
  | none =>
    rw [hfield] at h
    cases h
  | some v =>
    rw [hfield] at h
    rcases readElements_error (checkIterable_ok hcheck hfield) h with h | ⟨w, hw, h⟩
    · exact .inl h
    · exact .inr ⟨w, List.mem_append_left _ (by simpa [elementsUnder, hfield] using hw), h⟩

theorem readNamed_error {entries : List (String × Value)} {e : DocumentError}
    (hcheck : checkIterable entries "named" = .ok ()) (h : readNamed entries = .error e) :
    e.IsDocumented ∨ Misfit e (.dict entries) ∨ ∃ w ∈ parts (.dict entries), ofDocument w = .error e := by
  rw [readNamed_eq] at h
  cases hfield : field? entries "named" with
  | none =>
    rw [hfield] at h
    cases h
  | some v =>
    rw [hfield] at h
    have hunder : elementsUnder entries "named" = elementsOf v := by simp [elementsUnder, hfield]
    cases readPairsOf_error (checkIterable_ok hcheck hfield) h with
    | documented h => exact .inl h
    | part hpair hw h =>
      have hmem := mem_elementsOf_of_mem_offeredPairs hpair (mem_elementsOf_of_named? hw)
      have hpart := List.mem_filterMap.mpr ⟨_, hmem, hw⟩
      exact .inr (.inr ⟨_, List.mem_append_right _ (hunder ▸ hpart), h⟩)
    | name hpair helements hname =>
      have hmem := mem_elementsOf_of_mem_offeredPairs hpair (helements ▸ List.mem_cons_self)
      exact .inr (.inl (.name (.self _) (hunder ▸ hmem) helements hname))
    | unpackable hpair hiterable => exact .inr (.inl (.pair (.self _) hfield hpair hiterable))

theorem DocumentError.IsDocumented.inCall {e : DocumentError} (h : e.IsDocumented) :
    e.inCall.IsDocumented := by
  cases e <;> first | exact h | trivial

/-- What is inside of one document is inside of the other, so a misfit of the first is one of the second,
unless it is a missing place, which in a call is a missing field. -/
theorem DocumentError.Misfit.inCall {e : DocumentError} {w d : Value} (h : Misfit e w)
    (hinside : ∀ n, Inside n w → Inside n d) : e.inCall.IsDocumented ∨ Misfit e.inCall d := by
  cases h with
  | place _ _ _ => exact .inl trivial
  | location hw hlocation htruthy hobject =>
    exact .inr (.location (hinside _ hw) hlocation htruthy hobject)
  | args hw hargs hv => exact .inr (.args (hinside _ hw) hargs hv)
  | named hw hnamed hv => exact .inr (.named (hinside _ hw) hnamed hv)
  | pair hw hnamed hpair hiterable => exact .inr (.pair (hinside _ hw) hnamed hpair hiterable)
  | name hw hpair helements hname => exact .inr (.name (hinside _ hw) hpair helements hname)

/-- An error of a document is its own or that of a part. In a call a missing place is a missing field. -/
theorem ofDocument_error {d : Value} {e : DocumentError} (h : ofDocument d = .error e) :
    e.IsDocumented ∨ Misfit e d ∨ ∃ w ∈ parts d, ∃ own, ofDocument w = .error own ∧ e = own.inCall := by
  cases d with
  | dict entries =>
    rw [ofDocument] at h
    split at h
    · cases h
      exact .inl trivial
    · cases h
      exact .inl trivial
    · rcases bind_eq_error.mp h with hlocation | ⟨location, -, h⟩
      · exact .inr (.inl (readLocation_error hlocation))
      · split at h
        · exact .inl (readLiteral_error h)
        · exact .inl (readSymbol_error h)
        · split at h
          · cases h
            exact .inl trivial
          · next head _ =>
            rcases bind_eq_error.mp h with hargs | ⟨_, hargs, h⟩
            · obtain ⟨v, rfl, hv, hiterable⟩ := checkIterable_error hargs
              exact .inr (.inl (.args (.self _) hv hiterable))
            rcases bind_eq_error.mp h with hnamed | ⟨_, hnamed, h⟩
            · obtain ⟨v, rfl, hv, hiterable⟩ := checkIterable_error hnamed
              exact .inr (.inl (.named (.self _) hv hiterable))
            rcases bind_eq_error.mp h with hread | ⟨named, -, h⟩
            · obtain ⟨own, hown, rfl⟩ := mapError_eq_error.mp hread
              rcases readNamed_error hnamed hown with hdoc | hmisfit | ⟨w, hw, hpart⟩
              · exact .inl hdoc.inCall
              · exact (hmisfit.inCall fun _ => id).imp_right .inl
              · exact .inr (.inr ⟨w, hw, own, hpart, rfl⟩)
            rcases bind_eq_error.mp h with hread | ⟨args, -, h⟩
            · obtain ⟨own, hown, rfl⟩ := mapError_eq_error.mp hread
              rcases readArgs_error hargs hown with hdoc | ⟨w, hw, hpart⟩
              · exact .inl hdoc.inCall
              · exact .inr (.inr ⟨w, hw, own, hpart, rfl⟩)
            · exact .inl (isDocumented_of_decides (newCall_decides _ _ _ location) h)
        · cases h
          exact .inl trivial
  | _ =>
    rw [ofDocument] at h
    · cases h
      exact .inl trivial
    all_goals simp

/-- Reading a document fails with an error that is documented, or with one that a misfit explains. -/
theorem ofDocument_fails_documented {d : Value} {e : DocumentError} (h : ofDocument d = .error e) :
    e.IsDocumented ∨ Misfit e d := by
  induction d using parts_induction generalizing e with
  | step d ih =>
    rcases ofDocument_error h with hdoc | hmisfit | ⟨w, hw, own, hown, rfl⟩
    · exact .inl hdoc
    · exact .inr hmisfit
    · rcases ih w hw hown with hdoc | hmisfit
      · exact .inl hdoc.inCall
      · exact hmisfit.inCall fun _ => .part hw

/-- A symbol with a location that has no line. -/
def unlinedSymbol : Value :=
  .dict [("_type", .text "Symbol"), ("name", .text "x"), ("location", .dict [("col_offset", .int 1)])]

/-- A call of a symbol without a line, and of one whose location is no object. -/
def unplacedCall : Value :=
  .dict [("_type", .text "Call"), ("head", .text "f"),
    ("named", .list [.list [.text "k", .dict [("_type", .text "Symbol"), ("name", .text "y"),
      ("location", .list [.int 3])]]]),
    ("args", .list [unlinedSymbol])]

theorem ofDocument_fails_documented_unplacedCall :
    ofDocument unplacedCall = .error (.locationNotObject (.list [.int 3])) ∧
      ((DocumentError.locationNotObject (.list [.int 3])).IsDocumented ∨
        Misfit (.locationNotObject (.list [.int 3])) unplacedCall) :=
  ⟨rfl, ofDocument_fails_documented (d := unplacedCall) rfl⟩

/-- The error of a missing place is none that is documented, although the same place that is missing in
an argument of a call is a missing field. -/
theorem ofDocument_unlinedSymbol :
    (∃ e, ofDocument unlinedSymbol = .error e ∧ ¬e.IsDocumented) ∧
      ofDocument (.dict [("_type", .text "Call"), ("head", .text "f"), ("args", .list [unlinedSymbol])]) =
        .error (.missingField "lineno" "Call") :=
  ⟨⟨.missingPlace "lineno", rfl, id⟩, rfl⟩

end ExprMarkup.Tree
