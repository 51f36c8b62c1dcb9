import ExprMarkup.Proofs.Json.Scalar

namespace ExprMarkup.Json

/-- Scalars whose text stands for no other: no float, and no integer that is too long. -/
def Exact : Scalar → Prop
  | .float _ => False
  | .int n => Decimal.withinLimit n = true
  | _ => True

/-- Values made of such scalars. The members of an object have different keys. -/
inductive Printable : Value → Prop
  | scalar {s : Scalar} (h : Exact s) : Printable (.scalar s)
  | list {items : List Value} (h : ∀ v ∈ items, Printable v) : Printable (.list items)
  | tuple {items : List Value} (h : ∀ v ∈ items, Printable v) : Printable (.tuple items)
  | dict {entries : List (String × Value)} (hkeys : (entries.map Prod.fst).Nodup)
      (h : ∀ e ∈ entries, Printable e.2) : Printable (.dict entries)

mutual

/-- What is read back of a printed value. -/
def normal : Value → Value
  | .list items => .list (normalItems items)
  | .tuple items => .list (normalItems items)
  | .dict entries => .dict (sortMembers (normalEntries entries))
  | v => v

def normalItems : List Value → List Value
  | [] => []
  | v :: rest => normal v :: normalItems rest

def normalEntries : List (String × Value) → List (String × Value)
  | [] => []
  | (key, v) :: rest => (key, normal v) :: normalEntries rest

end

theorem normalItems_eq_map (items : List Value) : normalItems items = items.map normal := by
  induction items with
  | nil => rfl
  | cons v rest ih => rw [normalItems, ih, List.map_cons]

theorem normalEntries_eq_map (entries : List (String × Value)) :
    normalEntries entries = entries.map fun e => (e.1, normal e.2) := by
  induction entries with
  | nil => rfl
  | cons e rest ih => rw [normalEntries, ih, List.map_cons]

/-- The text is read as the value before anything that does not go on with a number. -/
structure Denotes (text : List Char) (v : Value) : Prop where
  starts : ∃ c cs, text = c :: cs ∧ isBlank c = false ∧ c ≠ ']'
  reads : ∀ fuel rest, text.length ≤ fuel → Ends rest →
    readValue fuel (text ++ rest) = .ok (v, rest)

theorem readValue_plain {c : Char} (hquote : c ≠ '"') (hlist : c ≠ '[') (hobject : c ≠ '{')
    (fuel : Nat) (cs : List Char) : readValue (fuel + 1) (c :: cs) = readPlain (c :: cs) := by
  rw [readValue]
  · intro rest h
    exact hquote (List.cons.inj h).1
  · intro rest h
    exact hlist (List.cons.inj h).1
  · intro rest h
    exact hobject (List.cons.inj h).1

theorem denotes_plain {c : Char} {cs : List Char} {v : Value} (hblank : isBlank c = false)
    (hmarks : c ∉ ['"', '[', ']', '{'])
    (h : ∀ rest, Ends rest → readPlain (c :: cs ++ rest) = .ok (v, rest)) :
    Denotes (c :: cs) v := by
  simp only [List.mem_cons, List.not_mem_nil, or_false, not_or] at hmarks
  obtain ⟨hquote, hlist, hclose, hobject⟩ := hmarks
  refine ⟨⟨c, cs, rfl, hblank, hclose⟩, ?_⟩
  intro fuel rest hfuel hrest
  obtain ⟨k, rfl⟩ := Nat.exists_eq_add_one_of_ne_zero (Nat.ne_zero_of_lt hfuel)
  rw [List.cons_append, readValue_plain hquote hlist hobject]
  exact h rest hrest

theorem denotes_text (s : String) : Denotes (printText s) (.text s) := by
  refine ⟨⟨'"', _, rfl, rfl, by decide⟩, ?_⟩
  intro fuel rest hfuel hrest
  obtain ⟨k, rfl⟩ := Nat.exists_eq_add_one_of_ne_zero (Nat.ne_zero_of_lt hfuel)
  have htext : printText s ++ rest = '"' :: (s.toList.flatMap escapeChar ++ '"' :: rest) := by
    simp [printText]
  rw [htext, readValue, readText_printed]
  rfl

theorem denotes_int {n : Int} (h : Decimal.withinLimit n = true) :
    Denotes (Decimal.intChars n) (.int n) := by
  have hread := fun rest (hrest : Ends rest) => readPlain_intChars h hrest
  have hdigit : ∀ c, Decimal.isDigit c = true →
      isBlank c = false ∧ c ∉ ['"', '[', ']', '{'] := by
    intro c hc
    have hne : ∀ d, Decimal.isDigit d = false → c ≠ d := by
      rintro d hd rfl
      rw [hc] at hd
      cases hd
    constructor
    · simp [isBlank, hne ' ' rfl, hne '\t' rfl, hne '\n' rfl, hne '\r' rfl]
    · simp [hne '"' rfl, hne '[' rfl, hne ']' rfl, hne '{' rfl]
  obtain ⟨c, cs, hcs, hc⟩ := natDigits_eq_cons n.natAbs
  unfold Decimal.intChars at hread ⊢
  by_cases hneg : n < 0
  · rw [if_pos hneg] at hread ⊢
    exact denotes_plain rfl (by decide) hread
  · rw [if_neg hneg, hcs] at hread ⊢
    exact denotes_plain (hdigit c hc).1 (hdigit c hc).2 hread

/-- The text of a scalar is read as that scalar. -/
theorem printScalar_denotes {s : Scalar} (h : Exact s) :
    ∃ text, printScalar s = .ok text ∧ Denotes text (.scalar s) := by
  cases s with
  | absent => exact ⟨_, rfl, denotes_plain rfl (by decide) fun rest _ => rfl⟩
  | bool b =>
    cases b with
    | true => exact ⟨_, rfl, denotes_plain rfl (by decide) fun rest _ => rfl⟩
    | false => exact ⟨_, rfl, denotes_plain rfl (by decide) fun rest _ => rfl⟩
  | int n =>
    rw [Exact] at h
    exact ⟨Decimal.intChars n, by rw [printScalar, if_pos h], denotes_int h⟩
  | float x => exact absurd h id
  | text s => exact ⟨_, rfl, denotes_text s⟩

/-- What stands between a comma and the next item. -/
def gap (indent : Option Nat) (level : Nat) : List Char :=
  match indent with
  | some _ => lineBreak indent level
  | none => [' ']

theorem separator_eq (indent : Option Nat) (level : Nat) :
    separator indent level = ',' :: gap indent level := by
  cases indent <;> rfl

theorem isBlank_of_mem_lineBreak {indent : Option Nat} {level : Nat} {c : Char}
    (h : c ∈ lineBreak indent level) : isBlank c = true := by
  cases indent with
  | none => cases h
  | some width =>
    rcases List.mem_cons.mp h with rfl | h
    · rfl
    · rw [List.eq_of_mem_replicate h]
      rfl

theorem isBlank_of_mem_gap {indent : Option Nat} {level : Nat} {c : Char}
    (h : c ∈ gap indent level) : isBlank c = true := by
  cases indent with
  | none =>
    rw [List.mem_singleton.mp h]
    rfl
  | some width =>
    have hbreak : c ∈ lineBreak (some width) level := h
    exact isBlank_of_mem_lineBreak hbreak

theorem skipBlanks_append {blanks text : List Char} (hblanks : ∀ c ∈ blanks, isBlank c = true)
    (htext : ∀ c ∈ text.head?, isBlank c = false) : skipBlanks (blanks ++ text) = text := by
  rw [skipBlanks, List.dropWhile_append_of_pos hblanks]
  cases text with
  | nil => rfl
  | cons c cs => simp [htext c rfl]

theorem ends_append {blanks text : List Char} (hblanks : ∀ c ∈ blanks, isBlank c = true)
    (htext : Ends text) : Ends (blanks ++ text) := by
  cases blanks with
  | nil => exact htext
  | cons c cs =>
    intro d hd
    obtain rfl : c = d := by simpa using hd
    have hc := hblanks c (by simp)
    simp only [isBlank, Bool.or_eq_true, beq_iff_eq] at hc
    rcases hc with ((rfl | rfl) | rfl) | rfl <;> decide

theorem ends_cons {c : Char} (rest : List Char) (hdigit : Decimal.isDigit c = false)
    (hmarks : c ∉ ['.', 'e', 'E']) : Ends (c :: rest) := by
  intro d hd
  obtain rfl : c = d := by simpa using hd
  simp only [List.mem_cons, List.not_mem_nil, or_false, not_or] at hmarks
  exact ⟨hdigit, hmarks⟩

theorem joinChars_separator (indent : Option Nat) (level : Nat) (first second : List Char)
    (more : List (List Char)) (rest : List Char) :
    joinChars (separator indent level) (first :: second :: more) ++ rest =
      first ++ ',' :: (gap indent level ++
        (joinChars (separator indent level) (second :: more) ++ rest)) := by
  rw [joinChars, separator_eq]
  · simp
  · simp

theorem joinChars_cons (indent : Option Nat) (level : Nat) (first : List Char)
    (more : List (List Char)) (rest : List Char) :
    ∃ tail, joinChars (separator indent level) (first :: more) ++ rest = first ++ tail := by
  cases more with
  | nil => exact ⟨rest, rfl⟩
  | cons second more => exact ⟨_, joinChars_separator indent level first second more rest⟩

/-- Blanks before items are skipped. -/
theorem skipBlanks_items {blanks first : List Char} (hblanks : ∀ c ∈ blanks, isBlank c = true)
    (hfirst : ∀ rest, ∀ c ∈ (first ++ rest).head?, isBlank c = false) (indent : Option Nat)
    (level : Nat) (more : List (List Char)) (rest : List Char) :
    skipBlanks (blanks ++ (joinChars (separator indent level) (first :: more) ++ rest)) =
      joinChars (separator indent level) (first :: more) ++ rest := by
  apply skipBlanks_append hblanks
  obtain ⟨tail, htail⟩ := joinChars_cons indent level first more rest
  rw [htail]
  exact hfirst tail

theorem skipBlanks_comma (rest : List Char) : skipBlanks (',' :: rest) = ',' :: rest := rfl

theorem ends_comma (rest : List Char) : Ends (',' :: rest) := ends_cons rest rfl (by decide)

theorem skipBlanks_close (indent : Option Nat) (level : Nat) {c : Char} (hc : isBlank c = false)
    (rest : List Char) : skipBlanks (lineBreak indent level ++ c :: rest) = c :: rest :=
  skipBlanks_append (fun _ => isBlank_of_mem_lineBreak) (by simp [hc])

theorem ends_close (indent : Option Nat) (level : Nat) {c : Char} (rest : List Char)
    (hdigit : Decimal.isDigit c = false) (hmarks : c ∉ ['.', 'e', 'E']) :
    Ends (lineBreak indent level ++ c :: rest) :=
  ends_append (fun _ => isBlank_of_mem_lineBreak) (ends_cons rest hdigit hmarks)

theorem Denotes.head {text : List Char} {v : Value} (h : Denotes text v) (rest : List Char) :
    ∀ c ∈ (text ++ rest).head?, isBlank c = false := by
  obtain ⟨c, cs, rfl, hc, -⟩ := h.starts
  intro d hd
  obtain rfl : c = d := by simpa using hd
  exact hc

/-- Items that are read one by one are read together, up to the closing bracket. -/
theorem readItems_joinChars {items : List (List Char × Value)} (hne : items ≠ [])
    (h : ∀ e ∈ items, Denotes e.1 e.2) (indent : Option Nat) (level outer : Nat) (rest : List Char) :
    ∀ fuel, (joinChars (separator indent level) (items.map Prod.fst)).length < fuel →
      readItems fuel (joinChars (separator indent level) (items.map Prod.fst) ++
        (lineBreak indent outer ++ ']' :: rest)) = .ok (items.map Prod.snd, rest) := by
  induction items with
  | nil => exact absurd rfl hne
  | cons e more ih =>
    intro fuel hfuel
    obtain ⟨k, rfl⟩ := Nat.exists_eq_add_one_of_ne_zero (Nat.ne_zero_of_lt hfuel)
    have he := h e (by simp)
    cases more with
    | nil =>
      have hclose : skipBlanks (lineBreak indent outer ++ ']' :: rest) = ']' :: rest :=
        skipBlanks_close indent outer rfl rest
      simp only [List.map_cons, List.map_nil, joinChars] at hfuel ⊢
      rw [readItems, he.reads k _ (by omega) (ends_close indent outer rest rfl (by decide))]
      simp only [ok_bind, hclose]
      rfl
    | cons f more =>
      have hnext := ih (by simp) (fun x hx => h x (by simp [hx]))
      have hlength := congrArg List.length
        (joinChars_separator indent level e.1 f.1 (more.map Prod.fst) [])
      simp only [List.append_nil, List.length_append, List.length_cons] at hlength
      simp only [List.map_cons] at hfuel hnext ⊢
      rw [joinChars_separator, readItems, he.reads k _ (by omega) (ends_comma _)]
      simp only [ok_bind, skipBlanks_comma, hnext k (by omega),
        skipBlanks_items (fun _ => isBlank_of_mem_gap) (h f (by simp)).head]
      rfl

def memberText (m : String × List Char) : List Char := printText m.1 ++ ':' :: ' ' :: m.2

theorem memberText_append (m : String × List Char) (rest : List Char) :
    memberText m ++ rest = '"' :: (m.1.toList.flatMap escapeChar ++ '"' :: ':' :: ' ' ::
      (m.2 ++ rest)) := by
  simp [memberText, printText]

theorem memberText_head (m : String × List Char) (rest : List Char) :
    ∀ c ∈ (memberText m ++ rest).head?, isBlank c = false := by
  rw [memberText_append]
  intro c hc
  obtain rfl : '"' = c := by simpa using hc
  rfl

/-- A member is read and put behind those before it, if it is the first of its name. -/
theorem readMembers_memberText {m : String × List Char} {v : Value} {k : Nat} {rest : List Char}
    {before : List (String × Value)} (hv : Denotes m.2 v) (hnew : m.1 ∉ before.map Prod.fst)
    (hk : m.2.length ≤ k) (hrest : Ends rest) :
    readMembers (k + 1) before (memberText m ++ rest) =
      match skipBlanks rest with
      | '}' :: rest => .ok (before ++ [(m.1, v)], rest)
      | ',' :: rest => readMembers k (before ++ [(m.1, v)]) (skipBlanks rest)
      | _ => .error .malformed := by
  have hcolon : ∀ more, skipBlanks (':' :: more) = ':' :: more := fun more => rfl
  have hskip : skipBlanks (' ' :: (m.2 ++ rest)) = m.2 ++ rest :=
    @skipBlanks_append [' '] (m.2 ++ rest) (by simp [isBlank]) (hv.head rest)
  rw [memberText_append, readMembers, readText_printed]
  simp only [ok_bind, hcolon, hskip, hv.reads k rest hk hrest, Table.putEntry_of_not_mem m.1 v hnew]
  rfl

/-- Members that are read one by one are read together, up to the closing brace. -/
theorem readMembers_joinChars {members : List ((String × List Char) × Value)} (hne : members ≠ [])
    (h : ∀ m ∈ members, Denotes m.1.2 m.2) (indent : Option Nat) (level outer : Nat)
    (rest : List Char) :
    ∀ fuel (before : List (String × Value)),
      ((before ++ members.map fun m => (m.1.1, m.2)).map Prod.fst).Nodup →
      (joinChars (separator indent level) (members.map fun m => memberText m.1)).length < fuel →
        readMembers fuel before
            (joinChars (separator indent level) (members.map fun m => memberText m.1) ++
              (lineBreak indent outer ++ '}' :: rest)) =
          .ok (before ++ members.map fun m => (m.1.1, m.2), rest) := by
  induction members with
  | nil => exact absurd rfl hne
  | cons m more ih =>
    intro fuel before hkeys hfuel
    obtain ⟨k, rfl⟩ := Nat.exists_eq_add_one_of_ne_zero (Nat.ne_zero_of_lt hfuel)
    have hm := h m (by simp)
    have hnew : m.1.1 ∉ before.map Prod.fst := by
      intro hmem
      rw [List.map_append, List.nodup_append] at hkeys
      exact hkeys.2.2 m.1.1 hmem m.1.1 (by simp) rfl
    have hmember : m.1.2.length ≤ (memberText m.1).length := by
      simp only [memberText, List.length_append, List.length_cons]
      omega
    cases more with
    | nil =>
      have hclose : skipBlanks (lineBreak indent outer ++ '}' :: rest) = '}' :: rest :=
        skipBlanks_close indent outer rfl rest
      simp only [List.map_cons, List.map_nil, joinChars] at hfuel ⊢
      rw [readMembers_memberText hm hnew (by omega)
        (ends_close indent outer rest rfl (by decide)), hclose]
      rfl
    | cons n more =>
      have hnext := ih (by simp) (fun x hx => h x (by simp [hx])) k (before ++ [(m.1.1, m.2)])
        (by simpa using hkeys)
      have hlength := congrArg List.length (joinChars_separator indent level (memberText m.1)
        (memberText n.1) (more.map fun m => memberText m.1) [])
      simp only [List.append_nil, List.length_append, List.length_cons] at hlength
      simp only [List.map_cons] at hfuel hnext ⊢
      rw [joinChars_separator, readMembers_memberText hm hnew (by omega) (ends_comma _),
        skipBlanks_comma]
      simp only [skipBlanks_items (fun _ => isBlank_of_mem_gap) (memberText_head n.1),
        hnext (by omega), List.append_assoc, List.cons_append, List.nil_append]

theorem enclose_append (indent : Option Nat) (level : Nat) (opening closing : Char)
    (first : List Char) (more : List (List Char)) (rest : List Char) :
    enclose indent level opening closing (first :: more) ++ rest =
      opening :: (lineBreak indent (level + 1) ++
        (joinChars (separator indent (level + 1)) (first :: more) ++
          (lineBreak indent level ++ closing :: rest))) := by
  simp [enclose]

/-- A printed list is read as the list of what its items are read as. -/
theorem denotes_list {items : List (List Char × Value)} (h : ∀ e ∈ items, Denotes e.1 e.2)
    (indent : Option Nat) (level : Nat) :
    Denotes (enclose indent level '[' ']' (items.map Prod.fst)) (.list (items.map Prod.snd)) := by
  cases items with
  | nil =>
    refine ⟨⟨'[', [']'], rfl, rfl, by decide⟩, ?_⟩
    intro fuel rest hfuel hrest
    obtain ⟨k, rfl⟩ := Nat.exists_eq_add_one_of_ne_zero (Nat.ne_zero_of_lt hfuel)
    rfl
  | cons e more =>
    have he := h e (by simp)
    refine ⟨⟨'[', _, rfl, rfl, by decide⟩, ?_⟩
    intro fuel rest hfuel hrest
    have hlength := congrArg List.length
      (enclose_append indent level '[' ']' e.1 (more.map Prod.fst) [])
    simp only [List.append_nil, List.length_append, List.length_cons] at hlength
    simp only [List.map_cons] at hfuel ⊢
    obtain ⟨k, rfl⟩ := Nat.exists_eq_add_one_of_ne_zero (Nat.ne_zero_of_lt hfuel)
    have hitems := readItems_joinChars (by simp) h indent (level + 1) level rest k
      (by rw [List.map_cons]; omega)
    simp only [List.map_cons] at hitems
    rw [enclose_append, readValue,
      skipBlanks_items (fun _ => isBlank_of_mem_lineBreak) he.head]
    split
    · next hclose =>
      obtain ⟨c, cs, hcs, -, hc⟩ := he.starts
      obtain ⟨tail, htail⟩ := joinChars_cons indent (level + 1) e.1 (more.map Prod.fst)
        (lineBreak indent level ++ ']' :: rest)
      rw [htail, hcs] at hclose
      exact absurd (List.cons.inj hclose).1 hc
    · rw [hitems]
      rfl

/-- A printed object is read with the members that it has, in their order. -/
theorem denotes_dict {members : List ((String × List Char) × Value)}
    (h : ∀ m ∈ members, Denotes m.1.2 m.2) (hkeys : (members.map fun m => m.1.1).Nodup)
    (indent : Option Nat) (level : Nat) :
    Denotes (enclose indent level '{' '}' (members.map fun m => memberText m.1))
      (.dict (members.map fun m => (m.1.1, m.2))) := by
  cases members with
  | nil =>
    refine ⟨⟨'{', ['}'], rfl, rfl, by decide⟩, ?_⟩
    intro fuel rest hfuel hrest
    obtain ⟨k, rfl⟩ := Nat.exists_eq_add_one_of_ne_zero (Nat.ne_zero_of_lt hfuel)
    rfl
  | cons m more =>
    refine ⟨⟨'{', _, rfl, rfl, by decide⟩, ?_⟩
    intro fuel rest hfuel hrest
    have hlength := congrArg List.length (enclose_append indent level '{' '}' (memberText m.1)
      (more.map fun m => memberText m.1) [])
    simp only [List.append_nil, List.length_append, List.length_cons] at hlength
    simp only [List.map_cons] at hfuel ⊢
    obtain ⟨k, rfl⟩ := Nat.exists_eq_add_one_of_ne_zero (Nat.ne_zero_of_lt hfuel)
    have hmembers := readMembers_joinChars (by simp) h indent (level + 1) level rest k []
      (by simpa [Function.comp_def] using hkeys) (by rw [List.map_cons]; omega)
    simp only [List.map_cons, List.nil_append] at hmembers
    rw [enclose_append, readValue,
      skipBlanks_items (fun _ => isBlank_of_mem_lineBreak) (memberText_head m.1)]
    split
    · next hclose =>
      obtain ⟨tail, htail⟩ := joinChars_cons indent (level + 1) (memberText m.1)
        (more.map fun m => memberText m.1) (lineBreak indent level ++ '}' :: rest)
      rw [htail, memberText_append] at hclose
      exact absurd (List.cons.inj hclose).1 (by decide)
    · rw [hmembers]
      rfl

theorem printItems_denotes {indent : Option Nat} {level : Nat} {items : List Value}
    (h : ∀ v ∈ items, ∃ text, printValue indent level v = .ok text ∧ Denotes text (normal v)) :
    ∃ printed : List (List Char × Value), printItems indent level items = .ok (printed.map Prod.fst) ∧
      normalItems items = printed.map Prod.snd ∧ ∀ e ∈ printed, Denotes e.1 e.2 := by
  induction items with
  | nil => exact ⟨[], rfl, rfl, by simp⟩
  | cons v rest ih =>
    obtain ⟨text, hprint, hread⟩ := h v (by simp)
    obtain ⟨printed, hprints, hnormal, hreads⟩ := ih fun w hw => h w (by simp [hw])
    refine ⟨(text, normal v) :: printed, ?_, ?_, ?_⟩
    · rw [printItems, hprint, hprints]
      rfl
    · rw [normalItems, hnormal, List.map_cons]
    · intro e he
      rcases List.mem_cons.mp he with rfl | he
      · exact hread
      · exact hreads e he

theorem printEntries_denotes {indent : Option Nat} {level : Nat} {entries : List (String × Value)}
    (h : ∀ e ∈ entries, ∃ text, printValue indent level e.2 = .ok text ∧ Denotes text (normal e.2)) :
    ∃ members : List ((String × List Char) × Value),
      printEntries indent level entries = members.map (fun m => (m.1.1, .ok m.1.2)) ∧
        normalEntries entries = members.map (fun m => (m.1.1, m.2)) ∧
          (entries.map Prod.fst = members.map fun m => m.1.1) ∧
            ∀ m ∈ members, Denotes m.1.2 m.2 := by
  induction entries with
  | nil => exact ⟨[], rfl, rfl, rfl, by simp⟩
  | cons e rest ih =>
    obtain ⟨key, v⟩ := e
    obtain ⟨text, hprint, hread⟩ := h (key, v) (by simp)
    obtain ⟨members, hprints, hnormal, hkeys, hreads⟩ := ih fun x hx => h x (by simp [hx])
    refine ⟨((key, text), normal v) :: members, ?_, ?_, ?_, ?_⟩
    · rw [printEntries, hprint, hprints, List.map_cons]
    · rw [normalEntries, hnormal, List.map_cons]
    · rw [List.map_cons, hkeys, List.map_cons]
    · intro m hm
      rcases List.mem_cons.mp hm with rfl | hm
      · exact hread
      · exact hreads m hm

theorem sortMembers_map {α β : Type} (key : α → String) {f : α → String × β}
    (hf : ∀ a, (f a).1 = key a) (l : List α) :
    sortMembers (l.map f) = (l.mergeSort fun a b => key a ≤ key b).map f := by
  rw [sortMembers, List.map_mergeSort]
  intro a _ b _
  rw [hf, hf]

theorem allOk_printMember (members : List ((String × List Char) × Value)) :
    allOk ((members.map fun m => (m.1.1, Except.ok m.1.2)).map printMember) =
      .ok (members.map fun m => memberText m.1) := by
  induction members with
  | nil => rfl
  | cons m rest ih =>
    have hm : printMember (m.1.1, .ok m.1.2) = .ok (memberText m.1) := rfl
    rw [List.map_cons, List.map_cons, hm, allOk, ih]
    rfl

/-- The text of a value is read as its normal form. -/
theorem printValue_denotes {v : Value} (h : Printable v) (indent : Option Nat) :
    ∀ level, ∃ text, printValue indent level v = .ok text ∧ Denotes text (normal v) := by
  induction h with
  | scalar h =>
    intro level
    exact printScalar_denotes h
  | @list items _ ih =>
    intro level
    obtain ⟨printed, hprints, hnormal, hreads⟩ := printItems_denotes fun v hv => ih v hv (level + 1)
    refine ⟨enclose indent level '[' ']' (printed.map Prod.fst), ?_, ?_⟩
    · rw [printValue, hprints]
      rfl
    · rw [normal, hnormal]
      exact denotes_list hreads indent level
  | @tuple items _ ih =>
    intro level
    obtain ⟨printed, hprints, hnormal, hreads⟩ := printItems_denotes fun v hv => ih v hv (level + 1)
    refine ⟨enclose indent level '[' ']' (printed.map Prod.fst), ?_, ?_⟩
    · rw [printValue, hprints]
      rfl
    · rw [normal, hnormal]
      exact denotes_list hreads indent level
  | @dict entries hkeys _ ih =>
    intro level
    obtain ⟨members, hprints, hnormal, hnames, hreads⟩ :=
      printEntries_denotes fun e he => ih e he (level + 1)
    have hperm := List.mergeSort_perm members fun a b => a.1.1 ≤ b.1.1
    have hsort := sortMembers_map (fun m : (String × List Char) × Value => m.1.1)
      (f := fun m => (m.1.1, Except.ok (ε := Unprintable) m.1.2)) (fun _ => rfl) members
    have hnormals := sortMembers_map (fun m : (String × List Char) × Value => m.1.1)
      (f := fun m => (m.1.1, m.2)) (fun _ => rfl) members
    generalize members.mergeSort (fun a b => a.1.1 ≤ b.1.1) = sorted at hperm hsort hnormals
    refine ⟨enclose indent level '{' '}' (sorted.map fun m => memberText m.1), ?_, ?_⟩
    · rw [printValue, hprints, hsort, allOk_printMember]
      rfl
    · rw [normal, hnormal, hnormals]
      refine denotes_dict (fun m hm => hreads m (hperm.mem_iff.mp hm)) ?_ indent level
      rw [hnames] at hkeys
      exact (hperm.map _).nodup_iff.mpr hkeys

/-- Printing a value and reading the text gives the normal form of the value. -/
theorem read_print {v : Value} (h : Printable v) (indent : Option Nat) :
    ∃ text, print indent v = .ok text ∧ read text = .ok (normal v) := by
  obtain ⟨text, hprint, hread⟩ := printValue_denotes h indent 0
  refine ⟨String.ofList text, ?_, ?_⟩
  · rw [print, hprint]
    rfl
  · have hskip : skipBlanks text = text := by
      have hhead := hread.head []
      rw [List.append_nil] at hhead
      exact @skipBlanks_append [] text (by simp) hhead
    have hvalue := hread.reads (text.length + 1) [] (Nat.le_succ _) (by simp [Ends])
    rw [List.append_nil] at hvalue
    rw [read, String.toList_ofList, hskip, hvalue]
    rfl

end ExprMarkup.Json
