import ExprMarkup.Proofs.Document.Outcome

namespace ExprMarkup.Tree

/-- The field that an argument with this name, or with none, stands in. -/
def fieldOf : Option Value → String
  | none => "args"
  | some _ => "named"

/-- A place for an argument in the document of a call: the name that it stands with, what stands before
and after it in its list, and the fields of the call before and after the list. -/
structure Place where
  name : Option Value
  left : List Value
  right : List Value
  before : List (String × Value)
  after : List (String × Value)
  first : field? before (fieldOf name) = none
  isCall : field? (before ++ after) "_type" = some (.text "Call")

namespace Place

/-- What stands in the list for an argument. -/
def element (p : Place) (d : Value) : Value :=
  match p.name with
  | none => d
  | some name => .list [name, d]

def entries (p : Place) (d : Value) : List (String × Value) :=
  p.before ++ (fieldOf p.name, .list (p.left ++ p.element d :: p.right)) :: p.after

/-- The document of the call with an argument at the place. -/
def fill (p : Place) (d : Value) : Value := .dict (p.entries d)

/-- The call is read if a node stands at the place. -/
def Accepts (p : Place) : Prop :=
  ∃ d t, ofDocument d = .ok t ∧ ∃ call, ofDocument (p.fill d) = .ok call

end Place

/-- A document at a place of a document at a place and so on, the innermost place last. -/
def enclose (places : List Place) (d : Value) : Value := places.foldr Place.fill d

/-- The node has a location that lacks a place: the line, or else the column. -/
def LacksPlace (d : Value) (place : String) : Prop :=
  ∃ entries type location, d = .dict entries ∧ field? entries "_type" = some type ∧ type ≠ .absent ∧
    field? entries "location" = some (.dict location) ∧ location ≠ [] ∧
    (place = "lineno" ∧ field? location "lineno" = none ∨
      place = "col_offset" ∧ (field? location "lineno").isSome = true ∧
        field? location "col_offset" = none)

theorem field?_append_or (a b : List (String × Value)) (key : String) :
    field? (a ++ b) key = (field? a key).or (field? b key) := by
  simp [field?, List.find?_append, Option.map_or]

namespace Place

variable {p : Place}

theorem field?_entries_self (d : Value) :
    field? (p.entries d) (fieldOf p.name) = some (.list (p.left ++ p.element d :: p.right)) := by
  rw [entries, field?_append_or, p.first]
  simp [field?]

theorem field?_entries_of_ne {key : String} (h : key ≠ fieldOf p.name) (d : Value) :
    field? (p.entries d) key = field? (p.before ++ p.after) key := by
  have hskip : field? ((fieldOf p.name, .list (p.left ++ p.element d :: p.right)) :: p.after) key =
      field? p.after key := by
    simp [field?, h.symm]
  rw [entries, field?_append_or, field?_append_or, hskip]

theorem ne_fieldOf {key : String} (hargs : key ≠ "args") (hnamed : key ≠ "named")
    (name : Option Value) : key ≠ fieldOf name := by
  cases name with
  | none => exact hargs
  | some name => exact hnamed

theorem field?_type (d : Value) : field? (p.entries d) "_type" = some (.text "Call") := by
  rw [field?_entries_of_ne (ne_fieldOf (by decide) (by decide) p.name), p.isCall]

end Place

theorem mapM_exchange {ε α β : Type} {f : α → Except ε β} {left right : List α} {a b : α}
    {items : List β} {e : ε} (hok : (left ++ a :: right).mapM f = .ok items) (h : f b = .error e) :
    (left ++ b :: right).mapM f = .error e := by
  rw [List.mapM_append] at hok ⊢
  obtain ⟨first, hfirst, -⟩ := bind_eq_ok.mp hok
  rw [hfirst, ok_bind, List.mapM_cons, h]
  rfl

theorem ofDocument_of_isCall {entries : List (String × Value)}
    (htype : field? entries "_type" = some (.text "Call")) :
    ofDocument (.dict entries) = (do
      let location ← readLocation entries
      match field? entries "head" with
      | none => throw (.missingField "head" "Call")
      | some head =>
        checkIterable entries "args"
        checkIterable entries "named"
        let named ← (readNamed entries).mapError .inCall
        let args ← (readArgs entries).mapError .inCall
        (newCall head (args.map .node) (Value.foldPairs (named.map fun e => (e.1, .node e.2)))
          location).mapError .invalid) := by
  rw [ofDocument, htype]
  rfl

/-- What has been read before the arguments of a call are. -/
structure Opened (entries : List (String × Value)) : Prop where
  location : ∃ location, readLocation entries = .ok location
  head : ∃ head, field? entries "head" = some head
  args : checkIterable entries "args" = .ok ()
  named : checkIterable entries "named" = .ok ()

theorem opened_of_ofDocument {entries : List (String × Value)} {call : Tree}
    (htype : field? entries "_type" = some (.text "Call")) (h : ofDocument (.dict entries) = .ok call) :
    Opened entries ∧ (∃ named, readNamed entries = .ok named) ∧ ∃ args, readArgs entries = .ok args := by
  rw [ofDocument_of_isCall htype] at h
  obtain ⟨location, hlocation, h⟩ := bind_eq_ok.mp h
  split at h
  · cases h
  · next head hhead =>
    obtain ⟨_, hargs, h⟩ := bind_eq_ok.mp h
    obtain ⟨_, hnamed, h⟩ := bind_eq_ok.mp h
    obtain ⟨named, hreadNamed, h⟩ := bind_eq_ok.mp h
    obtain ⟨args, hreadArgs, -⟩ := bind_eq_ok.mp h
    exact ⟨⟨⟨location, hlocation⟩, ⟨head, hhead⟩, hargs, hnamed⟩, ⟨named, mapError_eq_ok.mp hreadNamed⟩,
      ⟨args, mapError_eq_ok.mp hreadArgs⟩⟩

/-- Once a call is opened, the first error of its arguments is the error of the call. -/
theorem ofDocument_error_of_opened {entries : List (String × Value)} {e : DocumentError}
    (htype : field? entries "_type" = some (.text "Call")) (hopened : Opened entries)
    (h : readNamed entries = .error e ∨
      (∃ named, readNamed entries = .ok named) ∧ readArgs entries = .error e) :
    ofDocument (.dict entries) = .error e.inCall := by
  obtain ⟨⟨location, hlocation⟩, ⟨head, hhead⟩, hargs, hnamed⟩ := hopened
  rw [ofDocument_of_isCall htype]
  simp only [hlocation, ok_bind, hhead, hargs, hnamed]
  rcases h with h | ⟨⟨named, hok⟩, h⟩
  · rw [h]
    rfl
  · rw [hok, ok_mapError, ok_bind, h]
    rfl

namespace Place

variable {p : Place}

/-- Which node stands at a place does not matter to what is read before the arguments. -/
theorem opened_entries {w : Value} (h : Opened (p.entries w)) (d : Value) : Opened (p.entries d) := by
  have hsame {key : String} (hargs : key ≠ "args") (hnamed : key ≠ "named") :
      field? (p.entries d) key = field? (p.entries w) key := by
    have hne := ne_fieldOf hargs hnamed p.name
    rw [field?_entries_of_ne hne, field?_entries_of_ne hne]
  have hcheck {key : String} (hw : checkIterable (p.entries w) key = .ok ()) :
      checkIterable (p.entries d) key = .ok () := by
    by_cases hkey : key = fieldOf p.name
    · simp [checkIterable, hkey, field?_entries_self, isIterable]
    · rw [checkIterable, field?_entries_of_ne hkey] at hw ⊢
      exact hw
  constructor
  · have hlocation := h.location
    rw [readLocation, hsame (by decide) (by decide)]
    exact hlocation
  · rw [hsame (by decide) (by decide)]
    exact h.head
  · exact hcheck h.args
  · exact hcheck h.named

/-- The call fails as the document at the place does. -/
theorem ofDocument_fill_error (hp : p.Accepts) {d : Value} {e : DocumentError}
    (h : ofDocument d = .error e) : ofDocument (p.fill d) = .error e.inCall := by
  obtain ⟨w, t, hw, call, hcall⟩ := hp
  obtain ⟨hopened, ⟨named, hnamed⟩, args, hargs⟩ := opened_of_ofDocument (p.field?_type w) hcall
  have hself := field?_entries_self (p := p)
  refine ofDocument_error_of_opened (p.field?_type d) (opened_entries hopened d) ?_
  cases hname : p.name with
  | none =>
    have hother : "named" ≠ fieldOf p.name := by rw [hname]; decide
    rw [hname] at hself
    simp only [fieldOf, element, hname] at hself
    right
    constructor
    · refine ⟨named, ?_⟩
      rw [readNamed_eq, field?_entries_of_ne hother] at hnamed ⊢
      exact hnamed
    · rw [readArgs_eq, hself, Option.map_some, Option.getD_some, readElements,
        readNodes_eq_mapM] at hargs ⊢
      exact mapM_exchange hargs h
  | some name =>
    simp only [fieldOf, element, hname] at hself
    left
    rw [readNamed_eq, hself, Option.map_some, Option.getD_some, readPairsOf,
      readPairs_eq_mapM] at hnamed ⊢
    refine mapM_exchange hnamed ?_
    rw [readPair, h]
    rfl

end Place

theorem DocumentError.inCall_eq_self {e : DocumentError} (h : ∀ place, e ≠ .missingPlace place) :
    e.inCall = e := by
  cases e with
  | missingPlace place => exact absurd rfl (h place)
  | _ => rfl

theorem DocumentError.inCall_inCall (e : DocumentError) : e.inCall.inCall = e.inCall := by
  cases e <;> rfl

theorem DocumentError.inCall_ne_missingPlace (e : DocumentError) (place : String) :
    e.inCall ≠ .missingPlace place := by
  cases e <;> nofun

theorem readLocation_eq_missingPlace_iff {entries : List (String × Value)} {place : String} :
    readLocation entries = .error (.missingPlace place) ↔
      ∃ location, field? entries "location" = some (.dict location) ∧ location ≠ [] ∧
        (place = "lineno" ∧ field? location "lineno" = none ∨
          place = "col_offset" ∧ (field? location "lineno").isSome = true ∧
            field? location "col_offset" = none) := by
  constructor
  · intro h
    unfold readLocation at h
    split at h
    · cases h
    · next v hv =>
      split at h
      · cases h
      · next htruthy =>
        split at h
        · next location =>
          have hlocation : location ≠ [] := by
            rintro rfl
            simp [Value.isTruthy] at htruthy
          split at h
          · next hline =>
            cases h
            exact ⟨location, hv, hlocation, .inl ⟨rfl, hline⟩⟩
          · next line hline =>
            split at h
            · next hcolumn =>
              cases h
              exact ⟨location, hv, hlocation, .inr ⟨rfl, by simp [hline], hcolumn⟩⟩
            · cases h
        · cases h
  · rintro ⟨location, hv, hlocation, ⟨rfl, hline⟩ | ⟨rfl, hline, hcolumn⟩⟩
    · simp [readLocation, hv, Value.isTruthy, hlocation, hline]
    · obtain ⟨line, hline⟩ := Option.isSome_iff_exists.mp hline
      simp [readLocation, hv, Value.isTruthy, hlocation, hline, hcolumn]

/-- A place is reported as missing exactly if the location of the node itself lacks it. -/
theorem ofDocument_eq_missingPlace_iff {d : Value} {place : String} :
    ofDocument d = .error (.missingPlace place) ↔ LacksPlace d place := by
  constructor
  · intro h
    cases d with
    | dict entries =>
      rw [ofDocument] at h
      split at h
      · cases h
      · cases h
      · next type habsent htype =>
        rcases bind_eq_error.mp h with hlocation | ⟨location, -, h⟩
        · obtain ⟨location, hv, hlocation, hlacks⟩ := readLocation_eq_missingPlace_iff.mp hlocation
          exact ⟨entries, type, location, rfl, htype, habsent, hv, hlocation, hlacks⟩
        · exfalso
          split at h
          · exact readLiteral_error h
          · exact readSymbol_error h
          · split at h
            · cases h
            · rcases bind_eq_error.mp h with hargs | ⟨_, -, h⟩
              · obtain ⟨v, hv, -⟩ := checkIterable_error hargs
                cases hv
              rcases bind_eq_error.mp h with hnamed | ⟨_, -, h⟩
              · obtain ⟨v, hv, -⟩ := checkIterable_error hnamed
                cases hv
              rcases bind_eq_error.mp h with hread | ⟨named, -, h⟩
              · obtain ⟨own, -, hown⟩ := mapError_eq_error.mp hread
                exact own.inCall_ne_missingPlace place hown
              rcases bind_eq_error.mp h with hread | ⟨args, -, h⟩
              · obtain ⟨own, -, hown⟩ := mapError_eq_error.mp hread
                exact own.inCall_ne_missingPlace place hown
              · obtain ⟨own, -, hown⟩ := mapError_eq_error.mp h
                cases hown
          · cases h
    | _ =>
      rw [ofDocument] at h
      · cases h
      all_goals simp
  · rintro ⟨entries, type, location, rfl, htype, habsent, hlacks⟩
    have hlocation := readLocation_eq_missingPlace_iff.mpr ⟨location, hlacks⟩
    rw [ofDocument]
    split
    · next hnone => cases hnone.symm.trans htype
    · next hnone =>
      cases hnone.symm.trans htype
      exact absurd rfl habsent
    · rw [hlocation]
      rfl

theorem ofDocument_enclose {d : Value} {e : DocumentError} (h : ofDocument d = .error e)
    {places : List Place} (hplaces : places ≠ []) (haccepts : ∀ p ∈ places, p.Accepts) :
    ofDocument (enclose places d) = .error e.inCall := by
  induction places with
  | nil => exact absurd rfl hplaces
  | cons p rest ih =>
    have hp : p.Accepts := haccepts p (by simp)
    by_cases hrest : rest = []
    · subst hrest
      exact p.ofDocument_fill_error hp h
    · have hinner := ih hrest fun q hq => haccepts q (by simp [hq])
      rw [← e.inCall_inCall]
      exact p.ofDocument_fill_error hp hinner

/-- Documents of calls that would be read with a node at their places fail with the error of what stands
there. A place that the location of the node lacks is the exception: it is missing from the call then. -/
theorem ofDocument_enclose_error {d : Value} {e : DocumentError} (h : ofDocument d = .error e)
    {places : List Place} (hplaces : places ≠ []) (haccepts : ∀ p ∈ places, p.Accepts) :
    ((∀ place, ¬LacksPlace d place) → ofDocument (enclose places d) = .error e) ∧
      ∀ place, LacksPlace d place → e = .missingPlace place ∧
        ofDocument (enclose places d) = .error (.missingField place "Call") := by
  have henclose := ofDocument_enclose h hplaces haccepts
  constructor
  · intro hlacks
    have hself : e.inCall = e := by
      refine DocumentError.inCall_eq_self fun place he => hlacks place ?_
      exact ofDocument_eq_missingPlace_iff.mp (he ▸ h)
    rw [henclose, hself]
  · intro place hlacks
    obtain rfl : DocumentError.missingPlace place = e :=
      Except.error.inj ((ofDocument_eq_missingPlace_iff.mpr hlacks).symm.trans h)
    exact ⟨rfl, henclose⟩

/-- The only argument of a call of `f`. -/
def onlyArgument : Place where
  name := none
  left := []
  right := []
  before := [("_type", .text "Call"), ("head", .text "f")]
  after := []
  first := rfl
  isCall := rfl

/-- The second of two keywords `k` of a call of `g`, which has a positional argument after them. -/
def secondKeyword : Place where
  name := some (.text "k")
  left := [.list [.text "k", .dict [("_type", .text "Literal"), ("value", .absent)]]]
  right := []
  before := [("head", .text "g")]
  after := [("args", .list [.dict [("_type", .text "Symbol"), ("name", .text "y")]]),
    ("_type", .text "Call")]
  first := rfl
  isCall := rfl

theorem onlyArgument_accepts : onlyArgument.Accepts :=
  ⟨.dict [("_type", .text "Symbol"), ("name", .text "x")], _, rfl, _, rfl⟩

theorem secondKeyword_accepts : secondKeyword.Accepts :=
  ⟨.dict [("_type", .text "Symbol"), ("name", .text "x")], _, rfl, _, rfl⟩

/-- A call without a head, as a keyword's value in an argument. -/
theorem ofDocument_enclose_error_headless :
    let d : Value := .dict [("_type", .text "Call")]
    ofDocument d = .error (.missingField "head" "Call") ∧
      (∀ p ∈ [onlyArgument, secondKeyword], p.Accepts) ∧ (∀ place, ¬LacksPlace d place) ∧
      ofDocument (enclose [onlyArgument, secondKeyword] d) = .error (.missingField "head" "Call") := by
  intro d
  have haccepts : ∀ p ∈ [onlyArgument, secondKeyword], p.Accepts := by
    simp [onlyArgument_accepts, secondKeyword_accepts]
  have hlacks : ∀ place, ¬LacksPlace d place := fun place h =>
    nomatch ofDocument_eq_missingPlace_iff.mpr h
  exact ⟨rfl, haccepts, hlacks, (ofDocument_enclose_error (d := d) rfl (by simp) haccepts).1 hlacks⟩

/-- A literal whose location has no line fails in another way as the argument of a call. -/
theorem ofDocument_enclose_unlined :
    let d : Value := .dict [("_type", .text "Literal"), ("value", .int 1),
      ("location", .dict [("col_offset", .int 1)])]
    ofDocument d = .error (.missingPlace "lineno") ∧ onlyArgument.Accepts ∧
      ofDocument (enclose [onlyArgument] d) = .error (.missingField "lineno" "Call") ∧
      ofDocument (enclose [onlyArgument] d) ≠ ofDocument d :=
  ⟨rfl, onlyArgument_accepts, rfl, nofun⟩

end ExprMarkup.Tree
