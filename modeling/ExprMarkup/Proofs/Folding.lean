import Mathlib.Data.List.Basic
import Mathlib.Data.List.Induction
import ExprMarkup.Table

namespace ExprMarkup.Table

variable {α β : Type}

/-- Each name where it came first, with the item that came with it last. -/
def folded (entries : List (String × α)) : List (String × α) :=
  (entries.map Prod.fst).eraseDups.filterMap fun name =>
    (entries.reverse.lookup name).map fun item => (name, item)

theorem ofList_concat (entries : List (String × α)) (name : String) (item : α) :
    ofList (entries ++ [(name, item)]) = (ofList entries).put name item := by
  simp only [ofList, List.foldl_append, List.foldl_cons, List.foldl_nil]

theorem names_ofList (entries : List (String × α)) :
    (ofList entries).names = (entries.map Prod.fst).eraseDups := by
  induction entries using List.reverseRecOn with
  | nil => rfl
  | append_singleton entries e ih =>
    obtain ⟨name, item⟩ := e
    rw [ofList_concat, names_put, ih, List.map_append, List.eraseDups_append]
    by_cases h : name ∈ entries.map Prod.fst
    · simp [h, List.removeAll]
    · simp [h, List.removeAll, List.eraseDups_cons]

theorem find?_ofList_eq_lookup (entries : List (String × α)) (name : String) :
    (ofList entries).find? name = entries.reverse.lookup name := by
  induction entries using List.reverseRecOn with
  | nil => rfl
  | append_singleton entries e ih =>
    obtain ⟨last, item⟩ := e
    rw [ofList_concat, find?_put, ih, List.reverse_append, List.reverse_singleton,
      List.singleton_append, List.lookup_cons]
    by_cases h : name = last
    · simp [h]
    · simp [h, beq_eq_false_iff_ne.mpr h]

theorem ofList_eq_mk {entries : List (String × α)} (h : (entries.map Prod.fst).Nodup) :
    ofList entries = ⟨entries, h⟩ := by
  have hentries := entries_ofList h
  cases hlist : ofList entries with
  | mk own _ =>
    rw [hlist] at hentries
    subst hentries
    rfl

/-- An entry is found under its name, since no other has it. -/
theorem find?_of_mem {t : Table α} {e : String × α} (h : e ∈ t.entries) : t.find? e.1 = some e.2 := by
  obtain ⟨entries, hnodup⟩ := t
  simp only [find?]
  induction entries with
  | nil => cases h
  | cons first rest ih =>
    rw [List.map_cons, List.nodup_cons] at hnodup
    rcases List.mem_cons.mp h with rfl | hrest
    · simp
    · have hne : first.1 ≠ e.1 := fun heq => hnodup.1 (heq ▸ List.mem_map_of_mem hrest)
      rw [List.find?_cons_of_neg (by simpa using hne)]
      exact ih hnodup.2 hrest

/-- A table is known by its names and by what is found under them. -/
theorem entries_eq_filterMap_names (t : Table α) :
    t.entries = t.names.filterMap fun name => (t.find? name).map fun item => (name, item) := by
  have hself : ∀ e ∈ t.entries, (t.find? e.1).map (fun item => (e.1, item)) = some e := by
    intro e he
    rw [find?_of_mem he, Option.map_some]
  rw [names, List.filterMap_map, Function.comp_def, List.filterMap_congr hself, List.filterMap_some]

theorem entries_ofList_eq_folded (entries : List (String × α)) :
    (ofList entries).entries = folded entries := by
  rw [entries_eq_filterMap_names, names_ofList]
  simp only [find?_ofList_eq_lookup, folded]

/-- Items may be changed before or after folding. -/
theorem folded_map (f : α → β) (entries : List (String × α)) :
    folded (entries.map fun e => (e.1, f e.2)) = (folded entries).map fun e => (e.1, f e.2) := by
  rw [← entries_ofList_eq_folded, ofList_map, ← entries_ofList_eq_folded]
  rfl

example : folded [("a", 1), ("b", 2), ("a", 3), ("c", 4), ("b", 5)] = [("a", 3), ("b", 5), ("c", 4)] := by
  decide

end ExprMarkup.Table
