namespace ExprMarkup

/-- An item that is put under a name that is taken replaces the old one and stays in its place. -/
def Table.putEntry {α : Type} (name : String) (item : α) : List (String × α) → List (String × α)
  | [] => [(name, item)]
  | (n, old) :: rest =>
    if n == name then (n, item) :: rest else (n, old) :: putEntry name item rest

theorem Table.names_putEntry {α : Type} (name : String) (item : α) (entries : List (String × α)) :
    (putEntry name item entries).map Prod.fst =
      if name ∈ entries.map Prod.fst then entries.map Prod.fst
      else entries.map Prod.fst ++ [name] := by
  induction entries with
  | nil => rfl
  | cons e rest ih =>
    obtain ⟨n, old⟩ := e
    by_cases h : n = name
    · simp [putEntry, h]
    · have hne : ¬name = n := fun e => h e.symm
      simp only [putEntry, beq_iff_eq, h, if_false, List.map_cons, List.mem_cons, hne, false_or, ih]
      split <;> rfl

theorem Table.nodup_putEntry {α : Type} (name : String) (item : α) {entries : List (String × α)}
    (h : (entries.map Prod.fst).Nodup) : ((putEntry name item entries).map Prod.fst).Nodup := by
  rw [names_putEntry]
  split
  · exact h
  · next hn =>
    rw [List.nodup_append]
    refine ⟨h, by simp, ?_⟩
    intro a ha b hb hab
    rw [List.mem_singleton] at hb
    subst hab hb
    exact hn ha

/-- Items under distinct names, in the order in which the names came. -/
structure Table (α : Type) where
  entries : List (String × α)
  nodup : (entries.map Prod.fst).Nodup

namespace Table

variable {α β : Type}

instance : Inhabited (Table α) := ⟨⟨[], List.nodup_nil⟩⟩

def empty : Table α := ⟨[], List.nodup_nil⟩

def names (t : Table α) : List String := t.entries.map Prod.fst

def size (t : Table α) : Nat := t.entries.length

def isEmpty (t : Table α) : Bool := t.entries.isEmpty

def find? (t : Table α) (name : String) : Option α :=
  (t.entries.find? fun e => e.1 == name).map Prod.snd

def contains (t : Table α) (name : String) : Bool := t.entries.any fun e => e.1 == name

def put (t : Table α) (name : String) (item : α) : Table α :=
  ⟨putEntry name item t.entries, nodup_putEntry name item t.nodup⟩

def ofList (entries : List (String × α)) : Table α :=
  entries.foldl (fun t e => t.put e.1 e.2) empty

def map (f : α → β) (t : Table α) : Table β :=
  ⟨t.entries.map fun e => (e.1, f e.2), by
    have h : (t.entries.map fun e => (e.1, f e.2)).map Prod.fst = t.entries.map Prod.fst := by
      simp [Function.comp_def]
    rw [h]
    exact t.nodup⟩

theorem names_put (t : Table α) (name : String) (item : α) :
    (t.put name item).names = if name ∈ t.names then t.names else t.names ++ [name] :=
  names_putEntry name item t.entries

theorem contains_iff (t : Table α) (name : String) : t.contains name = true ↔ name ∈ t.names := by
  simp [contains, names]

theorem find?_put (t : Table α) (name other : String) (item : α) :
    (t.put name item).find? other = if other = name then some item else t.find? other := by
  simp only [put, find?]
  induction t.entries with
  | nil =>
    by_cases h : other = name
    · simp [putEntry, h]
    · have hne : ¬name = other := fun e => h e.symm
      simp [putEntry, h, hne]
  | cons e rest ih =>
    obtain ⟨n, old⟩ := e
    by_cases hn : n = name
    · subst hn
      by_cases h : other = n
      · simp [putEntry, h]
      · have hne : ¬n = other := fun e => h e.symm
        simp [putEntry, h, hne]
    · by_cases h : n = other
      · subst h
        simp [putEntry, hn]
      · have hf : (n == other) = false := by simpa using h
        simpa [putEntry, hn, List.find?_cons, hf] using ih

theorem find?_map (f : α → β) (t : Table α) (name : String) :
    (t.map f).find? name = (t.find? name).map f := by
  simp [map, find?, List.find?_map, Function.comp_def]

theorem putEntry_of_not_mem (name : String) (item : α) {entries : List (String × α)}
    (h : name ∉ entries.map Prod.fst) : putEntry name item entries = entries ++ [(name, item)] := by
  induction entries with
  | nil => rfl
  | cons e rest ih =>
    obtain ⟨n, old⟩ := e
    simp only [List.map_cons, List.mem_cons, not_or] at h
    have hne : ¬n = name := fun e => h.1 e.symm
    simp [putEntry, hne, ih h.2]

theorem entries_foldl_put (entries : List (String × α)) (t : Table α)
    (h : ((t.entries ++ entries).map Prod.fst).Nodup) :
    (entries.foldl (fun t e => t.put e.1 e.2) t).entries = t.entries ++ entries := by
  induction entries generalizing t with
  | nil => simp
  | cons e rest ih =>
    have hnew : e.1 ∉ t.entries.map Prod.fst := by
      intro hmem
      rw [List.map_append, List.nodup_append] at h
      exact h.2.2 e.1 hmem e.1 (by simp) rfl
    have hput : (t.put e.1 e.2).entries = t.entries ++ [e] := putEntry_of_not_mem e.1 e.2 hnew
    have hnodup : (((t.put e.1 e.2).entries ++ rest).map Prod.fst).Nodup := by
      rw [hput, List.append_assoc]
      exact h
    rw [List.foldl_cons, ih _ hnodup, hput, List.append_assoc]
    rfl

/-- A list of entries with distinct names is a table as it stands. -/
theorem entries_ofList {entries : List (String × α)} (h : (entries.map Prod.fst).Nodup) :
    (ofList entries).entries = entries :=
  entries_foldl_put entries empty h

theorem find?_ofList {entries : List (String × α)} (h : (entries.map Prod.fst).Nodup)
    (name : String) :
    (ofList entries).find? name = (entries.find? fun e => e.1 == name).map Prod.snd := by
  rw [find?, entries_ofList h]

/-- A table made of names alone, each with the item that a function gives it. -/
theorem find?_ofList_map {names : List String} (h : names.Nodup) (f : String → α) (name : String) :
    (ofList (names.map fun n => (n, f n))).find? name =
      if name ∈ names then some (f name) else none := by
  rw [find?_ofList (by simpa [Function.comp_def] using h)]
  clear h
  induction names with
  | nil => rfl
  | cons first rest ih =>
    rw [List.map_cons, List.find?_cons]
    by_cases he : first = name
    · simp [he]
    · have hne : ¬name = first := fun e => he e.symm
      simpa only [beq_eq_false_iff_ne.mpr he, List.mem_cons, hne, false_or] using ih

theorem putEntry_map (f : α → β) (name : String) (item : α) (entries : List (String × α)) :
    putEntry name (f item) (entries.map fun e => (e.1, f e.2)) =
      (putEntry name item entries).map fun e => (e.1, f e.2) := by
  induction entries with
  | nil => rfl
  | cons e rest ih =>
    obtain ⟨n, old⟩ := e
    simp only [List.map_cons, putEntry, ih]
    split <;> rfl

/-- Items may be changed before or after they are put under their names. -/
theorem ofList_map (f : α → β) (entries : List (String × α)) :
    ofList (entries.map fun e => (e.1, f e.2)) = (ofList entries).map f := by
  have hfold : ∀ (entries : List (String × α)) (t : Table α),
      (entries.map fun e => (e.1, f e.2)).foldl (fun t e => t.put e.1 e.2) (t.map f) =
        (entries.foldl (fun t e => t.put e.1 e.2) t).map f := by
    intro entries
    induction entries with
    | nil => intro t; rfl
    | cons e rest ih =>
      intro t
      have hput : (t.map f).put e.1 (f e.2) = (t.put e.1 e.2).map f := by
        simp only [put, map, putEntry_map]
      rw [List.map_cons, List.foldl_cons, List.foldl_cons, hput]
      exact ih (t.put e.1 e.2)
  exact hfold entries empty

theorem mem_putEntry {name : String} {item : α} {entries : List (String × α)} {e : String × α}
    (h : e ∈ putEntry name item entries) : e = (name, item) ∨ e ∈ entries := by
  induction entries with
  | nil => exact .inl (by simpa [putEntry] using h)
  | cons first rest ih =>
    obtain ⟨n, old⟩ := first
    by_cases hn : n = name
    · subst hn
      rcases (by simpa [putEntry] using h : e = (n, item) ∨ e ∈ rest) with rfl | he
      · exact .inl rfl
      · exact .inr (by simp [he])
    · rcases (by simpa [putEntry, hn] using h : e = (n, old) ∨ e ∈ putEntry name item rest) with
        rfl | he
      · exact .inr (by simp)
      · rcases ih he with rfl | he
        · exact .inl rfl
        · exact .inr (by simp [he])

theorem mem_ofList {entries : List (String × α)} {e : String × α}
    (h : e ∈ (ofList entries).entries) : e ∈ entries := by
  have hfold : ∀ (entries : List (String × α)) (t : Table α),
      e ∈ (entries.foldl (fun t e => t.put e.1 e.2) t).entries → e ∈ entries ∨ e ∈ t.entries := by
    intro entries
    induction entries with
    | nil => intro t he; exact .inr he
    | cons first rest ih =>
      intro t he
      rcases ih (t.put first.1 first.2) he with he | he
      · exact .inl (by simp [he])
      · rcases mem_putEntry he with rfl | he
        · exact .inl (by simp)
        · exact .inr he
  rcases hfold entries empty h with he | he
  · exact he
  · simp [empty] at he

end Table

end ExprMarkup
