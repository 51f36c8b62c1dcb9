import ExprMarkup.Proofs.Construction
import ExprMarkup.Proofs.Json.ReadBack
import ExprMarkup.Tree.Document
import ExprMarkup.Tree.Walk

namespace ExprMarkup

def Location.parts (l : Location) : List Value := [l.line, l.column, l.endLine, l.endColumn, l.file]

namespace Tree

theorem field?_eq_some_iff {entries : List (String × Value)} (hkeys : (entries.map Prod.fst).Nodup)
    {key : String} {v : Value} : field? entries key = some v ↔ (key, v) ∈ entries := by
  induction entries with
  | nil => simp [field?]
  | cons e rest ih =>
    obtain ⟨name, w⟩ := e
    rw [List.map_cons, List.nodup_cons] at hkeys
    by_cases h : name = key
    · subst h
      have hnew : (name, v) ∉ rest := fun hmem =>
        hkeys.1 (List.mem_map.mpr ⟨_, hmem, rfl⟩)
      simp [field?, hnew, eq_comm]
    · have hne : ¬key = name := fun heq => h heq.symm
      have hfield : field? ((name, w) :: rest) key = field? rest key := by
        simp [field?, h]
      rw [hfield, ih hkeys.2]
      simp [hne]

/-- The order of members with different keys does not count. -/
theorem field?_perm {a b : List (String × Value)} (hperm : a.Perm b)
    (hkeys : (a.map Prod.fst).Nodup) (key : String) : field? a key = field? b key := by
  have hkeys' : (b.map Prod.fst).Nodup := (hperm.map Prod.fst).nodup_iff.mp hkeys
  ext v
  rw [field?_eq_some_iff hkeys, field?_eq_some_iff hkeys', hperm.mem_iff]

theorem field?_map (f : Value → Value) (entries : List (String × Value)) (key : String) :
    field? (entries.map fun e => (e.1, f e.2)) key = (field? entries key).map f := by
  simp [field?, List.find?_map, Function.comp_def]

theorem readArgs_eq (entries : List (String × Value)) :
    readArgs entries = ((field? entries "args").map readElements).getD (.ok []) := by
  induction entries with
  | nil => rw [readArgs]; rfl
  | cons e rest ih =>
    obtain ⟨key, v⟩ := e
    rw [readArgs]
    by_cases h : key = "args"
    · simp [field?, h]
    · have hfield : field? ((key, v) :: rest) "args" = field? rest "args" := by
        simp [field?, h]
      rw [hfield, ← ih]
      simp [h]

theorem readNamed_eq (entries : List (String × Value)) :
    readNamed entries = ((field? entries "named").map readPairsOf).getD (.ok []) := by
  induction entries with
  | nil => rw [readNamed]; rfl
  | cons e rest ih =>
    obtain ⟨key, v⟩ := e
    rw [readNamed]
    by_cases h : key = "named"
    · simp [field?, h]
    · have hfield : field? ((key, v) :: rest) "named" = field? rest "named" := by
        simp [field?, h]
      rw [hfield, ← ih]
      simp [h]

/-- A change of values that keeps scalars, goes through lists, and lets each member of an object be
found under its key. -/
structure Arranges (arrange : Value → Value) : Prop where
  scalar : ∀ s, arrange (.scalar s) = .scalar s
  list : ∀ items, arrange (.list items) = .list (items.map arrange)
  dict : ∀ entries, (entries.map Prod.fst).Nodup →
    ∃ arranged, arrange (.dict entries) = .dict arranged ∧
      ∀ key, field? arranged key = (field? entries key).map arrange

theorem arranges_id : Arranges id where
  scalar _ := rfl
  list items := by simp
  dict entries _ := ⟨entries, rfl, by simp⟩

theorem arranges_normal : Arranges Json.normal where
  scalar _ := rfl
  list items := by rw [Json.normal, Json.normalItems_eq_map]
  dict entries hkeys := by
    refine ⟨_, rfl, fun key => ?_⟩
    have hperm : (Json.sortMembers (Json.normalEntries entries)).Perm (Json.normalEntries entries) :=
      List.mergeSort_perm _ _
    have hnormal : ((Json.normalEntries entries).map Prod.fst).Nodup := by
      simpa [Json.normalEntries_eq_map, Function.comp_def] using hkeys
    rw [field?_perm hperm ((hperm.map Prod.fst).nodup_iff.mpr hnormal), Json.normalEntries_eq_map,
      field?_map]

theorem Arranges.text {arrange : Value → Value} (h : Arranges arrange) (s : String) :
    arrange (.text s) = .text s :=
  h.scalar (.text s)

theorem Arranges.scalars {arrange : Value → Value} (h : Arranges arrange) (items : List Scalar) :
    arrange (.list (items.map .scalar)) = .list (items.map .scalar) := by
  rw [h.list, List.map_map]
  have hscalar : arrange ∘ Value.scalar = Value.scalar := funext h.scalar
  rw [hscalar]

theorem Arranges.literalValue {arrange : Value → Value} (h : Arranges arrange) (value : Literal) :
    arrange (literalValue value) = literalValue value := by
  cases value with
  | scalar s => exact h.scalar s
  | sequence items => exact h.scalars items

theorem field?_append {base : List (String × Value)} {key : String} (h : key ∉ base.map Prod.fst)
    (rest : List (String × Value)) : field? (base ++ rest) key = field? rest key := by
  have hnone : (base.find? fun e => e.1 == key) = none := by
    rw [List.find?_eq_none]
    intro e he
    rw [beq_iff_eq]
    rintro rfl
    exact h (List.mem_map_of_mem he)
  rw [field?, List.find?_append, hnone, Option.none_or]
  rfl

theorem field?_locationMember (location : Option Location) :
    field? (locationMember location) "location" = location.map fun l => .dict (locationEntries l) := by
  cases location with
  | none => rfl
  | some l => simp [locationMember, field?]

theorem nodup_locationMember {base : List String} (hbase : base.Nodup) (h : "location" ∉ base)
    (location : Option Location) : (base ++ (locationMember location).map Prod.fst).Nodup := by
  cases location with
  | none => simpa [locationMember] using hbase
  | some l =>
    rw [List.nodup_append]
    refine ⟨hbase, by simp [locationMember], ?_⟩
    intro a ha b hb hab
    obtain rfl : b = "location" := by simpa [locationMember] using hb
    exact h (hab ▸ ha)

/-- A location is read back if its parts are kept. -/
theorem readLocation_arrange {arrange : Value → Value} (h : Arranges arrange)
    {arranged : List (String × Value)} {location : Option Location}
    (hfield : field? arranged "location" =
      (location.map fun l => .dict (locationEntries l)).map arrange)
    (hparts : ∀ l, location = some l → ∀ v ∈ l.parts, arrange v = v) :
    readLocation arranged = .ok location := by
  cases location with
  | none => rw [readLocation, hfield]; rfl
  | some l =>
    have hl := hparts l rfl
    simp only [Location.parts, List.forall_mem_cons, List.not_mem_nil, false_implies, implies_true,
      and_true] at hl
    obtain ⟨hline, hcolumn, hendLine, hendColumn, hfile⟩ := hl
    obtain ⟨parts, hdict, hfields⟩ := h.dict (locationEntries l) (by simp [locationEntries])
    have hlineno : field? parts "lineno" = some l.line := by
      rw [hfields]
      simp [locationEntries, field?, hline]
    have hcol : field? parts "col_offset" = some l.column := by
      rw [hfields]
      simp [locationEntries, field?, hcolumn]
    have hendLineno : field? parts "end_lineno" = some l.endLine := by
      rw [hfields]
      simp [locationEntries, field?, hendLine]
    have hendCol : field? parts "end_col_offset" = some l.endColumn := by
      rw [hfields]
      simp [locationEntries, field?, hendColumn]
    have hsource : field? parts "source_file" = some l.file := by
      rw [hfields]
      simp [locationEntries, field?, hfile]
    have htruthy : (Value.dict parts).isTruthy = true := by
      cases parts with
      | nil => simp [field?] at hlineno
      | cons e rest => rfl
    rw [readLocation, hfield, Option.map_some, Option.map_some, hdict]
    simp only [htruthy, Bool.not_true, Bool.false_eq_true, if_false, hlineno, hcol, hendLineno,
      hendCol, hsource, Option.getD_some]

/-- In an arranged node every member is found, and so is the location. -/
theorem arrange_node {arrange : Value → Value} (h : Arranges arrange) (base : List (String × Value))
    (hkeys : (base.map Prod.fst).Nodup) (hnew : "location" ∉ base.map Prod.fst)
    {location : Option Location} (hparts : ∀ l, location = some l → ∀ v ∈ l.parts, arrange v = v) :
    ∃ arranged, arrange (.dict (base ++ locationMember location)) = .dict arranged ∧
      (∀ key v, field? base key = some v → field? arranged key = some (arrange v)) ∧
        readLocation arranged = .ok location := by
  have hnodup : ((base ++ locationMember location).map Prod.fst).Nodup := by
    rw [List.map_append]
    exact nodup_locationMember hkeys hnew location
  obtain ⟨arranged, hdict, hfields⟩ := h.dict _ hnodup
  refine ⟨arranged, hdict, ?_, ?_⟩
  · intro key v hv
    rw [field?_eq_some_iff hkeys] at hv
    have hmem : field? (base ++ locationMember location) key = some v :=
      (field?_eq_some_iff hnodup).mpr (List.mem_append_left _ hv)
    rw [hfields, hmem, Option.map_some]
  · apply readLocation_arrange h _ hparts
    rw [hfields, field?_append hnew, field?_locationMember]

theorem scalars?_map (items : List Scalar) : scalars? (items.map .scalar) = some items := by
  induction items with
  | nil => rfl
  | cons s rest ih => rw [List.map_cons, scalars?, ih, Option.map_some]

theorem readLiteral_literalValue {entries : List (String × Value)} {value : Literal}
    (h : field? entries "value" = some (literalValue value)) (location : Option Location) :
    readLiteral entries location = .ok (.literal value location) := by
  cases value with
  | scalar s =>
    rw [readLiteral, h]
    rfl
  | sequence items =>
    rw [readLiteral, h, literalValue]
    simp only [newLiteral, scalars?_map, ok_mapError]

theorem readSymbol_text {entries : List (String × Value)} {name : String}
    (h : field? entries "name" = some (.text name)) (hname : Text.isIdentifier name = true)
    (location : Option Location) : readSymbol entries location = .ok (.symbol name location) := by
  rw [readSymbol, h]
  simp only [newSymbol_text hname, ok_mapError]

/-- A call is read if its arguments are. -/
theorem ofDocument_call {entries : List (String × Value)} {head : String} {args : List Tree}
    {named : List (String × Tree)} {location : Option Location} {argValues namedValues : List Value}
    (hwell : (call head args named location).WellFormed)
    (htype : field? entries "_type" = some (.text "Call"))
    (hhead : field? entries "head" = some (.text head))
    (hargs : field? entries "args" = some (.list argValues))
    (hnamed : field? entries "named" = some (.list namedValues))
    (hlocation : readLocation entries = .ok location) (hnodes : readNodes argValues = .ok args)
    (hpairs : readPairs namedValues = .ok (named.map fun e => (.text e.1, e.2))) :
    ofDocument (.dict entries) = .ok (.call head args named location) := by
  rw [WellFormed, namedWellFormed_iff] at hwell
  obtain ⟨hidentifier, hkeys, -, hnames⟩ := hwell
  have hcall := @newCall_text head args named location hidentifier fun e he => (hnames e he).1
  rw [Table.entries_ofList hkeys] at hcall
  rw [ofDocument, htype]
  simp only [hlocation, ok_bind, hhead, checkIterable, hargs, hnamed, isIterable, if_true,
    readNamed_eq, readArgs_eq, Option.map_some, Option.getD_some, readPairsOf, readElements, hpairs,
    hnodes, ok_mapError, List.map_map, Function.comp_def, hcall]

theorem argDocuments_ok {p : Tree → Value → Prop} {args : List Tree}
    (h : ∀ t ∈ args, ∃ d, toDocument t = .ok d ∧ p t d) :
    ∃ written : List (Tree × Value), args = written.map Prod.fst ∧
      argDocuments args = .ok (written.map Prod.snd) ∧ ∀ e ∈ written, p e.1 e.2 := by
  induction args with
  | nil => exact ⟨[], rfl, rfl, by simp⟩
  | cons t rest ih =>
    obtain ⟨d, hd, hp⟩ := h t (by simp)
    obtain ⟨written, hargs, hds, hps⟩ := ih fun u hu => h u (by simp [hu])
    refine ⟨(t, d) :: written, ?_, ?_, ?_⟩
    · rw [List.map_cons, ← hargs]
    · rw [argDocuments, hd, hds]
      rfl
    · rw [List.forall_mem_cons]
      exact ⟨hp, hps⟩

theorem namedDocuments_ok {p : Tree → Value → Prop} {named : List (String × Tree)}
    (h : ∀ e ∈ named, ∃ d, toDocument e.2 = .ok d ∧ p e.2 d) :
    ∃ written : List ((String × Tree) × Value), named = written.map Prod.fst ∧
      namedDocuments named = .ok (written.map fun e => .list [.text e.1.1, e.2]) ∧
        ∀ e ∈ written, p e.1.2 e.2 := by
  induction named with
  | nil => exact ⟨[], rfl, rfl, by simp⟩
  | cons e rest ih =>
    obtain ⟨name, t⟩ := e
    obtain ⟨d, hd, hp⟩ := h (name, t) (by simp)
    obtain ⟨written, hnamed, hds, hps⟩ := ih fun u hu => h u (by simp [hu])
    refine ⟨((name, t), d) :: written, ?_, ?_, ?_⟩
    · rw [List.map_cons, ← hnamed]
    · rw [namedDocuments, hd, hds]
      rfl
    · rw [List.forall_mem_cons]
      exact ⟨hp, hps⟩

theorem readNodes_map {arrange : Value → Value} {written : List (Tree × Value)}
    (h : ∀ e ∈ written, ofDocument (arrange e.2) = .ok e.1) :
    readNodes ((written.map Prod.snd).map arrange) = .ok (written.map Prod.fst) := by
  induction written with
  | nil => rw [List.map_nil, List.map_nil, readNodes]; rfl
  | cons e rest ih =>
    rw [List.forall_mem_cons] at h
    rw [List.map_cons, List.map_cons, readNodes, h.1, ih h.2]
    rfl

theorem readPairs_map {arrange : Value → Value} (harrange : Arranges arrange)
    {written : List ((String × Tree) × Value)}
    (h : ∀ e ∈ written, ofDocument (arrange e.2) = .ok e.1.2) :
    readPairs ((written.map fun e => .list [.text e.1.1, e.2]).map arrange) =
      .ok ((written.map Prod.fst).map fun e => (.text e.1, e.2)) := by
  induction written with
  | nil => rw [List.map_nil, List.map_nil, readPairs]; rfl
  | cons e rest ih =>
    rw [List.forall_mem_cons] at h
    rw [List.map_cons, List.map_cons, harrange.list, List.map_cons, List.map_singleton,
      harrange.text, readPairs, readPair, h.1, ih h.2]
    rfl

/-- A tree has a document, and any arrangement that keeps the parts of locations is read as the tree. -/
theorem ofDocument_arrange {arrange : Value → Value} (harrange : Arranges arrange) (t : Tree)
    (hwell : t.WellFormed) (hknown : ∀ n ∈ t.preorder, ∀ location, n ≠ .bare location)
    (hparts : ∀ n ∈ t.preorder, ∀ l, n.location = some l → ∀ v ∈ l.parts, arrange v = v) :
    ∃ d, toDocument t = .ok d ∧ ofDocument (arrange d) = .ok t := by
  induction t with
  | literal value location =>
    have hself := hparts (.literal value location) (by simp [preorder])
    rw [Tree.location] at hself
    obtain ⟨arranged, hdict, hfields, hlocation⟩ := arrange_node harrange
      [("_type", .text "Literal"), ("value", literalValue value)] (by simp) (by simp) hself
    have htype := hfields "_type" (.text "Literal") (by simp [field?])
    have hvalue := hfields "value" (literalValue value) (by simp [field?])
    rw [harrange.text] at htype
    rw [harrange.literalValue] at hvalue
    refine ⟨_, rfl, ?_⟩
    rw [hdict, ofDocument, htype]
    simp only [hlocation, ok_bind]
    exact readLiteral_literalValue hvalue location
  | symbol name location =>
    rw [WellFormed] at hwell
    have hself := hparts (.symbol name location) (by simp [preorder])
    rw [Tree.location] at hself
    obtain ⟨arranged, hdict, hfields, hlocation⟩ := arrange_node harrange
      [("_type", .text "Symbol"), ("name", .text name)] (by simp) (by simp) hself
    have htype := hfields "_type" (.text "Symbol") (by simp [field?])
    have hname := hfields "name" (.text name) (by simp [field?])
    rw [harrange.text] at htype hname
    refine ⟨_, rfl, ?_⟩
    rw [hdict, ofDocument, htype]
    simp only [hlocation, ok_bind]
    exact readSymbol_text hname hwell location
  | call head args named location ihargs ihnamed =>
    have hcall := hwell
    rw [WellFormed, allWellFormed_iff, namedWellFormed_iff] at hwell
    obtain ⟨-, -, hargs, hnamed⟩ := hwell
    rw [forall_preorder_call] at hknown hparts
    obtain ⟨hself, hpartsArgs, hpartsNamed⟩ := hparts
    rw [Tree.location] at hself
    obtain ⟨writtenArgs, rfl, hargsDocuments, hargsRead⟩ :=
      argDocuments_ok (p := fun t d => ofDocument (arrange d) = .ok t) fun t ht =>
        ihargs t ht (hargs t ht) (hknown.2.1 t ht) (hpartsArgs t ht)
    obtain ⟨writtenNamed, rfl, hnamedDocuments, hnamedRead⟩ :=
      namedDocuments_ok (p := fun t d => ofDocument (arrange d) = .ok t) fun e he =>
        ihnamed e he (hnamed e he).2 (hknown.2.2 e he) (hpartsNamed e he)
    obtain ⟨arranged, hdict, hfields, hlocation⟩ := arrange_node harrange
      [("_type", .text "Call"), ("head", .text head), ("args", .list (writtenArgs.map Prod.snd)),
        ("named", .list (writtenNamed.map fun e => .list [.text e.1.1, e.2]))]
      (by simp) (by simp) hself
    have htype := hfields "_type" (.text "Call") (by simp [field?])
    have hheadField := hfields "head" (.text head) (by simp [field?])
    have hargsField := hfields "args" (.list (writtenArgs.map Prod.snd)) (by simp [field?])
    have hnamedField := hfields "named"
      (.list (writtenNamed.map fun e => .list [.text e.1.1, e.2])) (by simp [field?])
    rw [harrange.text] at htype hheadField
    rw [harrange.list] at hargsField hnamedField
    refine ⟨.dict ([("_type", .text "Call"), ("head", .text head),
        ("args", .list (writtenArgs.map Prod.snd)),
        ("named", .list (writtenNamed.map fun e => .list [.text e.1.1, e.2]))] ++
      locationMember location), ?_, ?_⟩
    · rw [toDocument, hargsDocuments, hnamedDocuments]
      rfl
    · rw [hdict]
      exact ofDocument_call hcall htype hheadField hargsField hnamedField hlocation
        (readNodes_map hargsRead) (readPairs_map harrange hnamedRead)
  | bare location => exact absurd rfl (hknown (.bare location) (by simp [preorder]) location)

/-- What a node holds has a text that stands for it alone: the scalars of a literal, and the parts of a
location, which are scalars too. -/
def Writable (n : Tree) : Prop :=
  (∀ value location, n = .literal value location → ∀ s ∈ value.scalars, Json.Exact s) ∧
    ∀ l, n.location = some l → ∀ v ∈ l.parts, ∃ s, v = .scalar s ∧ Json.Exact s

theorem mem_argDocuments {args : List Tree} {ds : List Value} (h : argDocuments args = .ok ds)
    {d : Value} (hd : d ∈ ds) : ∃ t ∈ args, toDocument t = .ok d := by
  induction args generalizing ds with
  | nil =>
    rw [argDocuments] at h
    cases h
    cases hd
  | cons t rest ih =>
    rw [argDocuments, bind_eq_ok] at h
    obtain ⟨first, hfirst, h⟩ := h
    rw [bind_eq_ok] at h
    obtain ⟨more, hmore, h⟩ := h
    cases h
    rcases List.mem_cons.mp hd with rfl | hd
    · exact ⟨t, by simp, hfirst⟩
    · obtain ⟨u, hu, hdocument⟩ := ih hmore hd
      exact ⟨u, by simp [hu], hdocument⟩

theorem mem_namedDocuments {named : List (String × Tree)} {ds : List Value}
    (h : namedDocuments named = .ok ds) {d : Value} (hd : d ∈ ds) :
    ∃ e ∈ named, ∃ v, toDocument e.2 = .ok v ∧ d = .list [.text e.1, v] := by
  induction named generalizing ds with
  | nil =>
    rw [namedDocuments] at h
    cases h
    cases hd
  | cons e rest ih =>
    rw [namedDocuments, bind_eq_ok] at h
    obtain ⟨first, hfirst, h⟩ := h
    rw [bind_eq_ok] at h
    obtain ⟨more, hmore, h⟩ := h
    cases h
    rcases List.mem_cons.mp hd with rfl | hd
    · exact ⟨e, by simp, first, hfirst, rfl⟩
    · obtain ⟨u, hu, hdocument⟩ := ih hmore hd
      exact ⟨u, by simp [hu], hdocument⟩

theorem printable_text (s : String) : Json.Printable (.text s) := .scalar trivial

/-- A node of printable members is printable, with the location that it has. -/
theorem printable_node {base : List (String × Value)} (hkeys : (base.map Prod.fst).Nodup)
    (hnew : "location" ∉ base.map Prod.fst) (hbase : ∀ e ∈ base, Json.Printable e.2)
    {location : Option Location}
    (hlocation : ∀ l, location = some l → ∀ v ∈ l.parts, ∃ s, v = .scalar s ∧ Json.Exact s) :
    Json.Printable (.dict (base ++ locationMember location)) := by
  have hnodup : ((base ++ locationMember location).map Prod.fst).Nodup := by
    rw [List.map_append]
    exact nodup_locationMember hkeys hnew location
  refine .dict hnodup fun e he => ?_
  rcases List.mem_append.mp he with he | he
  · exact hbase e he
  · cases location with
    | none => cases he
    | some l =>
      obtain rfl := List.mem_singleton.mp he
      refine .dict (by simp [locationEntries]) fun part hpart => ?_
      have hmem : part.2 ∈ l.parts := by
        have hmap := List.mem_map_of_mem (f := Prod.snd) hpart
        exact hmap
      obtain ⟨s, hs, hexact⟩ := hlocation l rfl part.2 hmem
      rw [hs]
      exact .scalar hexact

/-- The document of a tree of such nodes is printable. -/
theorem printable_document {t : Tree} (hwritable : ∀ n ∈ t.preorder, n.Writable) {d : Value}
    (hd : toDocument t = .ok d) : Json.Printable d := by
  induction t generalizing d with
  | literal value location =>
    obtain ⟨hvalue, hlocation⟩ := hwritable (.literal value location) (by simp [preorder])
    have hexact := hvalue value location rfl
    rw [toDocument] at hd
    cases hd
    apply printable_node (by simp) (by simp) _ hlocation
    rw [List.forall_mem_cons, List.forall_mem_singleton]
    refine ⟨printable_text _, ?_⟩
    cases value with
    | scalar s => exact .scalar (hexact s (by simp [Literal.scalars]))
    | sequence items =>
      refine .list fun v hv => ?_
      obtain ⟨s, hs, rfl⟩ := List.mem_map.mp hv
      exact .scalar (hexact s hs)
  | symbol name location =>
    obtain ⟨-, hlocation⟩ := hwritable (.symbol name location) (by simp [preorder])
    rw [toDocument] at hd
    cases hd
    apply printable_node (by simp) (by simp) _ hlocation
    rw [List.forall_mem_cons, List.forall_mem_singleton]
    exact ⟨printable_text _, printable_text _⟩
  | call head args named location ihargs ihnamed =>
    rw [forall_preorder_call] at hwritable
    obtain ⟨⟨-, hlocation⟩, hargs, hnamed⟩ := hwritable
    rw [toDocument, bind_eq_ok] at hd
    obtain ⟨argDocs, hargDocs, hd⟩ := hd
    rw [bind_eq_ok] at hd
    obtain ⟨namedDocs, hnamedDocs, hd⟩ := hd
    cases hd
    apply printable_node (by simp) (by simp) _ hlocation
    simp only [List.forall_mem_cons, List.not_mem_nil, false_implies, implies_true, and_true]
    refine ⟨printable_text _, printable_text _, .list fun v hv => ?_, .list fun v hv => ?_⟩
    · obtain ⟨t, ht, hdocument⟩ := mem_argDocuments hargDocs hv
      exact ihargs t ht (hargs t ht) hdocument
    · obtain ⟨e, he, w, hdocument, rfl⟩ := mem_namedDocuments hnamedDocs hv
      refine .list ?_
      rw [List.forall_mem_cons, List.forall_mem_singleton]
      exact ⟨printable_text _, ihnamed e he (hnamed e he) hdocument⟩
  | bare location =>
    rw [toDocument] at hd
    cases hd

/-- A tree is read back from its document, and from its text with any indentation, exactly as it was. -/
theorem restored_from_document_and_json {t : Tree} (hwell : t.WellFormed)
    (hknown : ∀ n ∈ t.preorder, ∀ location, n ≠ .bare location) :
    (∃ d, toDocument t = .ok d ∧ ofDocument d = .ok t) ∧
      ((∀ n ∈ t.preorder, n.Writable) → ∀ indent : Option Nat, ∃ text,
        toJson indent t = .ok text ∧ ofJson text = .ok t ∧
          (ofJson text >>= toJson indent) = .ok text) := by
  refine ⟨ofDocument_arrange arranges_id t hwell hknown fun n hn l hl v hv => rfl, ?_⟩
  intro hwritable indent
  have hparts : ∀ n ∈ t.preorder, ∀ l, n.location = some l → ∀ v ∈ l.parts, Json.normal v = v := by
    intro n hn l hl v hv
    obtain ⟨s, rfl, -⟩ := (hwritable n hn).2 l hl v hv
    rfl
  obtain ⟨d, hd, hread⟩ := ofDocument_arrange arranges_normal t hwell hknown hparts
  obtain ⟨text, hprint, hjson⟩ := Json.read_print (printable_document hwritable hd) indent
  have hto : toJson indent t = .ok text := by
    rw [toJson, hd, ok_bind, hprint, ok_mapError]
  have hof : ofJson text = .ok t := by
    rw [ofJson, hjson, ok_mapError, ok_bind, hread]
  refine ⟨text, hto, hof, ?_⟩
  rw [hof, ok_bind, hto]

/-- Nodes with and without locations, scalars that look alike, and characters of all widths. -/
def piecewise : Tree :=
  .call "cases" [.literal (.sequence [.bool true, .int 1, .absent]) (some ⟨.int 1, .int 6, .int 2,
      .absent, .text "é.txt"⟩), .literal (.sequence []) none,
      .literal (.scalar (.text "\"𝄞\n\x7f")) none, .symbol "x" (some .unknown)]
    [("label", .literal (.scalar .absent) none), ("base", .literal (.scalar (.int (-70))) none)]
    (some ⟨.int 1, .int 0, .absent, .int 9, .absent⟩)

theorem restored_from_document_and_json_piecewise :
    piecewise.WellFormed ∧ (∀ n ∈ piecewise.preorder, ∀ location, n ≠ .bare location) ∧
      (∀ n ∈ piecewise.preorder, n.Writable) ∧
        (∃ d, toDocument piecewise = .ok d ∧ ofDocument d = .ok piecewise) ∧
          ∃ text, toJson (some 2) piecewise = .ok text ∧ ofJson text = .ok piecewise := by
  have hwell : piecewise.WellFormed := by
    simp only [piecewise, WellFormed, AllWellFormed, NamedWellFormed]
    decide
  have hknown : ∀ n ∈ piecewise.preorder, ∀ location, n ≠ .bare location := by
    simp [piecewise, preorder, preorderArgs, preorderNamed]
  have hlimit : ∀ n ∈ [0, 1, 2, 6, 9, -70], Decimal.withinLimit n = true := by decide +kernel
  simp only [List.forall_mem_cons, List.not_mem_nil, false_implies, implies_true, and_true] at hlimit
  have hwritable : ∀ n ∈ piecewise.preorder, n.Writable := by
    simp [piecewise, preorder, preorderArgs, preorderNamed, Writable, Location.parts,
      Literal.scalars, Tree.location, Json.Exact, Location.unknown, hlimit]
  obtain ⟨hdocument, hjson⟩ := restored_from_document_and_json hwell hknown
  obtain ⟨text, hto, hof, -⟩ := hjson hwritable (some 2)
  exact ⟨hwell, hknown, hwritable, hdocument, text, hto, hof⟩

end Tree

end ExprMarkup
