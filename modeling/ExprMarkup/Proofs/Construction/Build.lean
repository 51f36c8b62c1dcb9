import Mathlib.Data.List.Nodup
import ExprMarkup.Proofs.Construction.Checks

namespace ExprMarkup

open Source (IsName exists_texts_of_isName)

/-- What came last under a key. -/
def StandsLast {κ α : Type} (pairs : List (κ × α)) (key : κ) (item : α) : Prop :=
  ∃ before after, pairs = before ++ (key, item) :: after ∧ key ∉ after.map Prod.fst

section

variable {α : Type}

/-- The last item of a list is the first one from behind. -/
theorem lookup_reverse_eq_some_iff {pairs : List (String × α)} {name : String} {item : α} :
    pairs.reverse.lookup name = some item ↔ StandsLast pairs name item := by
  rw [List.lookup_eq_some_iff]
  constructor
  · rintro ⟨later, earlier, hsplit, hlater⟩
    refine ⟨earlier.reverse, later.reverse, ?_, ?_⟩
    · rw [← List.reverse_reverse pairs, hsplit]
      simp
    · intro hmem
      obtain ⟨e, he, rfl⟩ := List.mem_map.mp hmem
      simpa using hlater e (List.mem_reverse.mp he)
  · rintro ⟨before, after, rfl, hafter⟩
    refine ⟨after.reverse, before.reverse, by simp, fun e he => ?_⟩
    have hne : name ≠ e.1 := fun heq =>
      hafter (List.mem_map.mpr ⟨e, List.mem_reverse.mp he, heq.symm⟩)
    simpa using hne

theorem Table.mem_entries_ofList_iff {pairs : List (String × α)} {name : String} {item : α} :
    (name, item) ∈ (ofList pairs).entries ↔ StandsLast pairs name item := by
  rw [← lookup_reverse_eq_some_iff, ← find?_ofList_eq_lookup]
  constructor
  · exact find?_of_mem
  · intro h
    obtain ⟨e, he, rfl⟩ := Option.map_eq_some_iff.mp h
    have hname : e.1 = name := by simpa using List.find?_some he
    exact hname ▸ List.mem_of_find?_eq_some he

theorem standsLast_text_iff {pairs : List (String × α)} {key : Value} {item : α} :
    StandsLast (pairs.map fun e => (Value.text e.1, e.2)) key item ↔
      ∃ name, key = .text name ∧ StandsLast pairs name item := by
  constructor
  · rintro ⟨before, after, hsplit, hafter⟩
    obtain ⟨earlier, rest, rfl, -, hrest⟩ := List.map_eq_append_iff.mp hsplit
    obtain ⟨e, later, rfl, he, rfl⟩ := List.map_eq_cons_iff.mp hrest
    obtain ⟨rfl, rfl⟩ := Prod.mk.inj he
    refine ⟨e.1, rfl, earlier, later, rfl, fun hmem => hafter ?_⟩
    rw [List.map_map]
    obtain ⟨e', he', heq⟩ := List.mem_map.mp hmem
    exact List.mem_map.mpr ⟨e', he', congrArg Value.text heq⟩
  · rintro ⟨name, rfl, before, after, rfl, hafter⟩
    refine ⟨_, _, List.map_append, fun hmem => hafter ?_⟩
    rw [List.map_map] at hmem
    obtain ⟨e, he, heq⟩ := List.mem_map.mp hmem
    have hname : e.1 = name := by simpa using heq
    exact List.mem_map.mpr ⟨e, he, hname⟩

end

namespace Value

variable {α : Type}

/-- The keys are told apart, as folding goes through them. -/
def Distinct (pairs : List (Value × α)) : Prop :=
  (pairs.map Prod.fst).Pairwise fun earlier later => earlier.equal later = false

theorem putPair_of_new {key : Value} {item : α} {pairs : List (Value × α)}
    (h : ∀ e ∈ pairs, e.1.equal key = false) : putPair key item pairs = pairs ++ [(key, item)] := by
  induction pairs with
  | nil => rfl
  | cons e rest ih =>
    rw [List.forall_mem_cons] at h
    simp [putPair, h.1, ih h.2]

theorem distinct_foldPairs (pairs : List (Value × α)) : Distinct (foldPairs pairs) := by
  induction pairs using List.reverseRecOn with
  | nil => exact .nil
  | append_singleton pairs e ih =>
    rw [Distinct, foldPairs_concat, keys_putPair]
    split
    · exact ih
    · next hnew =>
      refine List.pairwise_append.mpr ⟨ih, List.pairwise_singleton _ _, fun key hkey other hother => ?_⟩
      obtain rfl := List.mem_singleton.mp hother
      obtain ⟨e', he', rfl⟩ := List.mem_map.mp hkey
      simpa using fun h => hnew (List.any_eq_true.mpr ⟨e', he', h⟩)

/-- Where no key is repeated there is nothing to fold. -/
theorem foldPairs_of_distinct {pairs : List (Value × α)} (h : Distinct pairs) :
    foldPairs pairs = pairs := by
  induction pairs using List.reverseRecOn with
  | nil => rfl
  | append_singleton pairs e ih =>
    rw [Distinct, List.map_append] at h
    obtain ⟨hpairs, -, hnew⟩ := List.pairwise_append.mp h
    rw [foldPairs_concat, ih hpairs]
    exact putPair_of_new fun e' he' => hnew e'.1 (List.mem_map_of_mem he') e.1 (by simp)

theorem foldPairs_foldPairs_append (pairs later : List (Value × α)) :
    foldPairs (foldPairs pairs ++ later) = foldPairs (pairs ++ later) := by
  rw [foldPairs_append, foldPairs_append, foldPairs_of_distinct (distinct_foldPairs pairs)]

/-- Each key is there after folding, or one that is equal to it. -/
theorem exists_key_of_mem {pairs : List (Value × α)} {e : Value × α} (h : e ∈ pairs) :
    ∃ key ∈ (foldPairs pairs).map Prod.fst, key = e.1 ∨ key.equal e.1 = true := by
  induction pairs using List.reverseRecOn with
  | nil => cases h
  | append_singleton pairs last ih =>
    rw [foldPairs_concat, keys_putPair]
    rcases List.mem_append.mp h with h | h
    · obtain ⟨key, hkey, hsame⟩ := ih h
      refine ⟨key, ?_, hsame⟩
      split
      · exact hkey
      · exact List.mem_append_left _ hkey
    · obtain rfl := List.mem_singleton.mp h
      split
      · next hany =>
        obtain ⟨e', he', hequal⟩ := List.any_eq_true.mp hany
        exact ⟨e'.1, List.mem_map_of_mem he', .inr hequal⟩
      · exact ⟨e.1, by simp, .inl rfl⟩

theorem text_injective : Function.Injective Value.text := by
  intro a b h
  simpa using h

/-- Only a text is equal to a text. -/
theorem eq_text_of_equal {s : String} {v : Value} (h : (text s).equal v = true) : v = .text s := by
  cases v with
  | scalar own =>
    cases own with
    | text t =>
      rw [equal_text, beq_iff_eq] at h
      rw [h]
    | _ => simp [equal, Scalar.equal, Scalar.number?] at h
  | complex re im => simp [equal, equalComplex, Scalar.number?] at h
  | _ => simp [equal] at h

theorem all_isHashable {pairs : List (Value × α)} (h : ∀ e ∈ pairs, IsName e.1) :
    (pairs.all fun e => e.1.isHashable) = true := by
  rw [List.all_eq_true]
  intro e he
  obtain ⟨s, hs, -⟩ := h e he
  rw [hs]
  rfl

end Value

namespace Tree

variable {head : Value} {args : List Argument} {named : List (Value × Argument)}
  {location : Option Location} {t : Tree}

/-- What a call can be built of: identifiers, and trees for the arguments that are kept. -/
structure Buildable (head : Value) (args : List Argument) (named : List (Value × Argument)) : Prop where
  head : IsName head
  names : ∀ e ∈ named, IsName e.1
  args : ∀ a ∈ args, ∃ t, a = .node t
  kept : ∀ name value, StandsLast named name value → ∃ t, value = .node t

/-- Named arguments as they are offered to a constructor. -/
def offered (named : List (String × Tree)) : List (Value × Argument) :=
  named.map fun e => (.text e.1, .node e.2)

/-- What is left of the named arguments, if their names are texts. -/
theorem mem_foldPairs_iff (hnames : ∀ e ∈ named, IsName e.1) {name : Value} {value : Argument} :
    (name, value) ∈ Value.foldPairs named ↔ StandsLast named name value := by
  obtain ⟨pairs, -, rfl⟩ := exists_texts_of_isName hnames
  rw [Value.foldPairs_text, standsLast_text_iff, List.mem_map]
  constructor
  · rintro ⟨e, he, heq⟩
    obtain ⟨rfl, rfl⟩ := Prod.mk.inj heq
    exact ⟨e.1, rfl, Table.mem_entries_ofList_iff.mp he⟩
  · rintro ⟨key, rfl, hlast⟩
    exact ⟨(key, value), Table.mem_entries_ofList_iff.mpr hlast, rfl⟩

theorem isName_foldPairs_iff :
    (∀ e ∈ Value.foldPairs named, IsName e.1) ↔ ∀ e ∈ named, IsName e.1 := by
  constructor
  · intro h e he
    obtain ⟨key, hkey, hsame⟩ := Value.exists_key_of_mem he
    obtain ⟨e', he', rfl⟩ := List.mem_map.mp hkey
    have hname := h e' he'
    obtain heq | hequal := hsame
    · exact heq ▸ hname
    · obtain ⟨s, hs, hid⟩ := hname
      rw [hs] at hequal
      exact ⟨s, Value.eq_text_of_equal hequal, hid⟩
  · intro h e he
    obtain ⟨before, after, hsplit, -⟩ := (mem_foldPairs_iff h).mp he
    exact h e (by rw [hsplit]; simp)

theorem callable_foldPairs_iff :
    Callable head args (Value.foldPairs named) ↔ Buildable head args named := by
  constructor
  · rintro ⟨hhead, hargs, hnames, hnodes, -⟩
    have hown := isName_foldPairs_iff.mp hnames
    exact ⟨hhead, hown, hargs, fun name value hlast => hnodes _ ((mem_foldPairs_iff hown).mpr hlast)⟩
  · rintro ⟨hhead, hnames, hargs, hkept⟩
    refine ⟨hhead, hargs, isName_foldPairs_iff.mpr hnames,
      fun e he => hkept _ _ ((mem_foldPairs_iff hnames).mp he), ?_⟩
    obtain ⟨pairs, -, rfl⟩ := exists_texts_of_isName hnames
    have hkeys : ((Table.ofList pairs).entries.map Prod.fst |>.map Value.text).Nodup :=
      (Table.ofList pairs).nodup.map Value.text_injective
    rw [Value.foldPairs_text, List.map_map]
    simpa [Function.comp_def] using hkeys

/-- Building is making a call of what folding leaves. -/
theorem build_eq_ok_iff :
    build head args named location = .ok t ↔
      newCall head args (Value.foldPairs named) location = .ok t := by
  refine ⟨newCall_of_build, fun h => ?_⟩
  have hcallable := ((newCall_decides _ _ _ _).of_ok h).1
  rw [build, if_pos (Value.all_isHashable (callable_foldPairs_iff.mp hcallable).names), h]

theorem exists_build_iff :
    (∃ t, build head args named location = .ok t) ↔ Buildable head args named := by
  simp only [build_eq_ok_iff]
  rw [← callable_foldPairs_iff]
  constructor
  · rintro ⟨t, h⟩
    exact ((newCall_decides _ _ _ _).of_ok h).1
  · intro h
    obtain ⟨t, ht, -⟩ := (newCall_decides head args _ location).made h
    exact ⟨t, ht⟩

/-- The names that are kept are those that were given, where they came first. -/
theorem names_of_foldPairs {pairs : List (String × Argument)} {kept : List (String × Tree)}
    (h : Value.foldPairs (pairs.map fun e => (.text e.1, e.2)) = offered kept) :
    kept.map Prod.fst = (pairs.map Prod.fst).eraseDups := by
  have hkeys := congrArg (List.map Prod.fst) h
  rw [Value.foldPairs_text, offered, List.map_map, List.map_map] at hkeys
  rw [← Table.names_ofList]
  refine (List.map_injective_iff.mpr Value.text_injective ?_).symm
  simpa [Table.names, Function.comp_def] using hkeys

theorem nodup_of_foldPairs {kept : List (String × Tree)} (h : Value.foldPairs named = offered kept) :
    (kept.map Prod.fst).Nodup := by
  have hdistinct := Value.distinct_foldPairs named
  rw [h, Value.Distinct, offered, List.map_map, List.pairwise_map] at hdistinct
  exact List.pairwise_map.mpr (hdistinct.imp fun hne => by simpa [Value.equal_text] using hne)

/-- What is built keeps head and arguments, and of the named arguments what folding leaves. -/
theorem eq_call_of_build (h : build head args named location = .ok t) :
    ∃ (s : String) (ts : List Tree) (names : List String) (kept : List (String × Tree)),
      head = .text s ∧ args = ts.map .node ∧ named.map Prod.fst = names.map .text ∧
      Value.foldPairs named = offered kept ∧ kept.map Prod.fst = names.eraseDups ∧
      t = .call s ts kept location := by
  obtain ⟨-, s, ts, kept, hhead, hargs, hkept, ht⟩ :=
    (newCall_decides _ _ _ _).of_ok (build_eq_ok_iff.mp h)
  obtain ⟨pairs, -, rfl⟩ := exists_texts_of_isName (exists_build_iff.mp ⟨t, h⟩).names
  refine ⟨s, ts, pairs.map Prod.fst, kept, hhead, hargs, ?_, hkept, names_of_foldPairs hkept, ht⟩
  rw [List.map_map, List.map_map]
  rfl

/-- The arguments that are kept, with more after them, fold to what all together fold to. -/
theorem build_kept_append (hnames : ∀ e ∈ named, IsName e.1) (later : List (Value × Argument)) :
    build head args (Value.foldPairs named ++ later) location =
      build head args (named ++ later) location := by
  rw [build, build, List.all_append, List.all_append, Value.all_isHashable hnames,
    Value.all_isHashable (isName_foldPairs_iff.mpr hnames), Value.foldPairs_foldPairs_append]

/-- A call is built of identifiers and of trees, where only the last argument under a name has to be a
tree. Its named arguments are the names as they came first, each with what came last. So it is built of them
again, alone or with more arguments after them as with all that were given; its children are theirs, after
the positional ones; and where no name is repeated, building is making the call itself. -/
theorem build_folds (head : Value) (args : List Argument) (named : List (Value × Argument))
    (location : Option Location) :
    ((∃ t, build head args named location = .ok t) ↔ Buildable head args named) ∧
    (∀ t, build head args named location = .ok t →
      ∃ (s : String) (ts : List Tree) (names : List String) (kept : List (String × Tree)),
        head = .text s ∧ args = ts.map .node ∧ named.map Prod.fst = names.map .text ∧
        t = .call s ts kept location ∧ kept.map Prod.fst = names.eraseDups ∧
        (∀ e ∈ kept, StandsLast named (.text e.1) (.node e.2)) ∧
        build head args (offered kept) location = .ok t ∧
        (∀ later, build head args (offered kept ++ later) location =
          build head args (named ++ later) location) ∧
        t.children = ts ++ kept.map Prod.snd ∧ t.namedArgs.entries = kept) ∧
    (Value.Distinct named →
      (∀ t, build head args named location = .ok t ↔ newCall head args named location = .ok t) ∧
      ((∀ e ∈ named, e.1.isHashable = true) →
        build head args named location = newCall head args named location)) := by
  refine ⟨exists_build_iff, fun t h => ?_, fun hdistinct => ⟨fun t => ?_, fun hhashable => ?_⟩⟩
  · obtain ⟨s, ts, names, kept, hhead, hargs, hnames, hkept, hfirst, ht⟩ := eq_call_of_build h
    have hvalid := (exists_build_iff.mp ⟨t, h⟩).names
    have hlater : ∀ later, build head args (offered kept ++ later) location =
        build head args (named ++ later) location := fun later => hkept ▸ build_kept_append hvalid later
    have hagain : build head args (offered kept) location = .ok t := by
      simpa only [List.append_nil, h] using hlater []
    refine ⟨s, ts, names, kept, hhead, hargs, hnames, ht, hfirst, fun e he => ?_, hagain, hlater, ?_, ?_⟩
    · exact (mem_foldPairs_iff hvalid).mp (hkept ▸ List.mem_map_of_mem he)
    · rw [ht, children]
    · rw [ht, namedArgs, Table.entries_ofList (nodup_of_foldPairs hkept)]
  · rw [build_eq_ok_iff, Value.foldPairs_of_distinct hdistinct]
  · rw [build, if_pos (List.all_eq_true.mpr hhashable), Value.foldPairs_of_distinct hdistinct]

/-- A value that is no tree does not count once it is replaced; where it is not, building refuses it as
making the call does. -/
theorem build_folds_replaced :
    let one : Tree := .literal (.scalar (.int 1)) none
    let two : Tree := .literal (.scalar (.int 2)) none
    let first : List (Value × Argument) := [(.text "a", .other .ellipsis), (.text "b", .node one)]
    let named : List (Value × Argument) := first ++ [(.text "a", .node two)]
    let t : Tree := .call "f" [one] [("a", two), ("b", one)] none
    build (.text "f") [.node one] named none = .ok t ∧ Buildable (.text "f") [.node one] named ∧
      build (.text "f") [.node one] (offered [("a", two), ("b", one)]) none = .ok t ∧
      Value.Distinct first ∧ (∀ e ∈ first, e.1.isHashable = true) ∧
      build (.text "f") [] first none = newCall (.text "f") [] first none := by
  intro one two first named t
  have hok : build (.text "f") [.node one] named none = .ok t := rfl
  have hdistinct : Value.Distinct first := by
    simp [Value.Distinct, first, Value.equal_text]
  have hhashable : ∀ e ∈ first, e.1.isHashable = true := by simp [first, Value.isHashable]
  obtain ⟨hbuildable, hbuilt, -⟩ := build_folds (.text "f") [.node one] named none
  obtain ⟨-, -, hdirect⟩ := build_folds (.text "f") [] first none
  obtain ⟨s, ts, names, kept, -, -, -, ht, -, -, hagain, -⟩ := hbuilt t hok
  obtain ⟨-, -, rfl, -⟩ := Tree.call.inj ht
  exact ⟨hok, hbuildable.mp ⟨t, hok⟩, hagain, hdistinct, hhashable, (hdirect hdistinct).2 hhashable⟩

end Tree

end ExprMarkup
