import Mathlib.Data.List.Forall2
import ExprMarkup.Fragment

namespace ExprMarkup

theorem joinTexts_empty (texts : List String) : joinTexts "" texts = String.join texts := by
  induction texts with
  | nil => rfl
  | cons text rest ih =>
    cases rest with
    | nil => simp [joinTexts]
    | cons next rest => simpa [joinTexts] using ih

theorem Rendered.text_asFragment (r : Rendered) :
    r.asFragment.text = String.join (r.fragments.map Fragment.text) := by
  match r with
  | .one f => simp [asFragment, fragments]
  | .many [] => rfl
  | .many [f] => simp [asFragment, joinFragments, fragments]
  | .many (f :: g :: rest) => exact joinTexts_empty _

namespace Value

def IsSequence (v : Value) (items : List Value) : Prop := v = .tuple items ∨ v = .list items

/-- Scalars, with integers that can be written, and safe values and raw texts, in sequences within each
other. -/
inductive Escapable : Value → Prop
  | scalar {s : Scalar} (hdigits : ∀ n, s = .int n → Decimal.withinLimit n = true) : Escapable (.scalar s)
  | safe (text : String) : Escapable (.safe text)
  | raw (text : String) : Escapable (.raw text)
  | markup (text : String) : Escapable (.markup text)
  | sequence {v : Value} {items : List Value} (hv : v.IsSequence items)
      (hitems : ∀ item ∈ items, Escapable item) : Escapable v

mutual

/-- What a value holds that is no sequence, from left to right. -/
def leaves : Value → List Value
  | .tuple items => leavesAll items
  | .list items => leavesAll items
  | v => [v]

def leavesAll : List Value → List Value
  | [] => []
  | v :: rest => v.leaves ++ leavesAll rest

end

/-- What a leaf comes to: its own text if it is safe, and its escaped text otherwise. -/
def leafText (escaper : Text.Escaper) : Value → String
  | .safe t => t
  | .markup t => t
  | .raw t => escaper t
  | .scalar .absent => ""
  | .scalar (.bool b) => escaper (if b then "true" else "false")
  | v => escaper v.display

def safeText (escaper : Text.Escaper) (v : Value) : String := String.join (v.leaves.map (leafText escaper))

variable {escaper : Text.Escaper}

theorem join_leavesAll (items : List Value) :
    String.join ((leavesAll items).map (leafText escaper)) = String.join (items.map (safeText escaper)) := by
  induction items with
  | nil => rfl
  | cons item rest ih =>
    rw [leavesAll, List.map_append, String.join_append, ih, List.map_cons, String.join_cons, safeText]

theorem safeText_sequence {v : Value} {items : List Value} (h : v.IsSequence items) :
    v.safeText escaper = String.join (items.map (safeText escaper)) := by
  obtain rfl | rfl := h
  · rw [safeText, leaves, join_leavesAll]
  · rw [safeText, leaves, join_leavesAll]

/-- The elements of a sequence are made safe one by one, each as one fragment. -/
theorem escapeItems_eq_ok_iff {items : List Value} {fs : List Fragment} :
    escapeItems escaper items = .ok fs ↔
      List.Forall₂ (fun v f => ∃ r, v.escape escaper = .ok r ∧ r.asFragment = f) items fs := by
  induction items generalizing fs with
  | nil =>
    rw [List.forall₂_nil_left_iff, escapeItems, Except.ok.injEq, eq_comm]
  | cons v rest ih =>
    rw [List.forall₂_cons_left_iff, escapeItems, bind_eq_ok]
    constructor
    · rintro ⟨r, hr, h⟩
      obtain ⟨others, hothers, h⟩ := bind_eq_ok.mp h
      exact ⟨r.asFragment, others, ⟨r, hr, rfl⟩, ih.mp hothers, (pure_eq_ok.mp h).symm⟩
    · rintro ⟨f, others, ⟨r, hr, rfl⟩, hothers, rfl⟩
      refine ⟨r, hr, ?_⟩
      rw [ih.mpr hothers]
      rfl

theorem mem_of_escapeItems {items : List Value} {fs : List Fragment}
    (h : escapeItems escaper items = .ok fs) :
    (∀ v ∈ items, ∃ r, v.escape escaper = .ok r ∧ r.asFragment ∈ fs) ∧
      ∀ f ∈ fs, ∃ v ∈ items, ∃ r, v.escape escaper = .ok r ∧ r.asFragment = f := by
  have hall := escapeItems_eq_ok_iff.mp h
  clear h
  induction hall with
  | nil => exact ⟨nofun, nofun⟩
  | @cons v f items fs hfirst _ ih =>
    obtain ⟨r, hr, rfl⟩ := hfirst
    simp only [List.mem_cons, forall_eq_or_imp, exists_eq_or_imp]
    refine ⟨⟨⟨r, hr, .inl rfl⟩, fun v hv => ?_⟩, .inl ⟨r, hr, rfl⟩, fun f hf => .inr (ih.2 f hf)⟩
    obtain ⟨own, hown, hmem⟩ := ih.1 v hv
    exact ⟨own, hown, .inr hmem⟩

theorem escape_sequence_eq_ok_iff {v : Value} {items : List Value} (h : v.IsSequence items)
    {r : Rendered} :
    v.escape escaper = .ok r ↔ ∃ fs, escapeItems escaper items = .ok fs ∧ .many fs = r := by
  obtain rfl | rfl := h
  · simp only [escape, bind_eq_ok, pure_eq_ok]
  · simp only [escape, bind_eq_ok, pure_eq_ok]

theorem escape_scalar_ok {s : Scalar} (hdigits : ∀ n, s = .int n → Decimal.withinLimit n = true) :
    ∃ r, (Value.scalar s).escape escaper = .ok r ∧ ((∃ fs, r = .many fs) ↔ s = .absent) ∧
      r.asFragment.text = leafText escaper (.scalar s) := by
  cases s with
  | absent => exact ⟨.many [], by rw [escape], by simp, rfl⟩
  | bool b => cases b <;> exact ⟨_, rfl, by simp, rfl⟩
  | int n =>
    have hplain : plainText (.scalar (.int n)) = .ok (Decimal.intText n) := by
      rw [plainText, if_pos (hdigits n rfl)]
    refine ⟨.one ⟨escaper (Decimal.intText n)⟩, ?_, by simp, rfl⟩
    rw [escape, hplain]
    · rfl
    · exact Scalar.noConfusion
  | float x => exact ⟨_, rfl, by simp, rfl⟩
  | text t => exact ⟨_, rfl, by simp, rfl⟩

theorem escapeItems_ok {items : List Value}
    (h : ∀ v ∈ items, ∃ r, v.escape escaper = .ok r ∧ r.asFragment.text = v.safeText escaper) :
    ∃ fs, escapeItems escaper items = .ok fs ∧
      String.join (fs.map Fragment.text) = String.join (items.map (safeText escaper)) := by
  induction items with
  | nil => exact ⟨[], rfl, rfl⟩
  | cons v rest ih =>
    rw [List.forall_mem_cons] at h
    obtain ⟨⟨r, hr, htext⟩, hrest⟩ := h
    obtain ⟨fs, hfs, htexts⟩ := ih hrest
    refine ⟨r.asFragment :: fs, ?_, ?_⟩
    · exact escapeItems_eq_ok_iff.mpr (.cons ⟨r, hr, rfl⟩ (escapeItems_eq_ok_iff.mp hfs))
    · rw [List.map_cons, List.map_cons, String.join_cons, String.join_cons, htext, htexts]

/-- The text that a value comes to is that of its leaves. It is one fragment, unless the value is absent or
a sequence. -/
theorem Escapable.escape_ok {v : Value} (hv : v.Escapable) :
    ∃ r, v.escape escaper = .ok r ∧
      ((∃ fs, r = .many fs) ↔ v = .absent ∨ ∃ items, v.IsSequence items) ∧
      r.asFragment.text = v.safeText escaper := by
  induction hv with
  | @scalar s hdigits =>
    obtain ⟨r, hr, hmany, htext⟩ := @escape_scalar_ok escaper s hdigits
    exact ⟨r, hr, by simp [hmany, IsSequence], by simp [htext, safeText, leaves]⟩
  | safe text | raw text | markup text =>
    exact ⟨_, rfl, by simp [IsSequence], by simp [safeText, leaves, leafText, Rendered.asFragment]⟩
  | @sequence v items hv _ ih =>
    obtain ⟨fs, hfs, htexts⟩ := escapeItems_ok fun item hitem => by
      obtain ⟨r, hr, -, htext⟩ := ih item hitem
      exact ⟨r, hr, htext⟩
    refine ⟨.many fs, (escape_sequence_eq_ok_iff hv).mpr ⟨fs, hfs, rfl⟩, ?_, ?_⟩
    · exact iff_of_true ⟨fs, rfl⟩ (.inr ⟨items, hv⟩)
    · rw [Rendered.text_asFragment, Rendered.fragments, htexts, safeText_sequence hv]

/-- A rendered value is safe as it is. -/
theorem escape_toValue (r : Rendered) : r.toValue.escape escaper = .ok r := by
  cases r with
  | one f => rfl
  | many fs =>
    refine (escape_sequence_eq_ok_iff (.inl rfl)).mpr ⟨fs, escapeItems_eq_ok_iff.mpr ?_, rfl⟩
    rw [List.forall₂_map_left_iff, List.forall₂_same]
    intro f _
    exact ⟨.one f, rfl, rfl⟩

/-- A value that is safe already is not changed again, by the same escaper or by another one. It is one
fragment, unless the value was absent or a sequence; a sequence has one for each of its elements. The text
is that of the leaves, each one escaped once if it was not safe. -/
theorem escape_once {v : Value} (hv : v.Escapable) (e f : Text.Escaper) :
    ∃ r, v.escape e = .ok r ∧ r.toValue.escape f = .ok r ∧
      ((∃ fs, r = .many fs) ↔ v = .absent ∨ ∃ items, v.IsSequence items) ∧
      (∀ items, v.IsSequence items → ∃ fs, r = .many fs ∧ fs.length = items.length) ∧
      r.asFragment.text = v.safeText e := by
  obtain ⟨r, hr, hmany, htext⟩ := hv.escape_ok
  refine ⟨r, hr, escape_toValue r, hmany, fun items hitems => ?_, htext⟩
  obtain ⟨fs, hfs, hmany⟩ := (escape_sequence_eq_ok_iff hitems).mp hr
  exact ⟨fs, hmany.symm, (escapeItems_eq_ok_iff.mp hfs).length_eq.symm⟩

/-- Leaves of several kinds, some of them in sequences, and two escapers. -/
theorem escape_once_nested :
    let inner : Value := .list [.absent, .int 7, .tuple []]
    let v : Value := .tuple [.text "a & b", inner, .safe "<i>", .raw "<", .bool true]
    v.Escapable ∧ ∃ fs, v.escape Text.escapeHtml = .ok (.many fs) ∧
      (Rendered.many fs).toValue.escape Text.escapeLatex = .ok (.many fs) ∧ fs.length = 5 ∧
      (Rendered.many fs).asFragment.text = "a &amp; b7<i>&lt;true" := by
  intro inner v
  have hlimit : Decimal.withinLimit 7 = true := by decide +kernel
  have hinner : inner.Escapable := by
    refine .sequence (.inr rfl) ?_
    simp only [List.forall_mem_cons]
    refine ⟨.scalar nofun, .scalar ?_, .sequence (.inl rfl) nofun, nofun⟩
    rintro n ⟨⟩
    exact hlimit
  have hv : v.Escapable := by
    refine .sequence (.inl rfl) ?_
    simp only [List.forall_mem_cons]
    exact ⟨.scalar nofun, hinner, .safe _, .raw _, .scalar nofun, nofun⟩
  obtain ⟨r, hr, hagain, -, hmany, htext⟩ := escape_once hv Text.escapeHtml Text.escapeLatex
  obtain ⟨fs, rfl, hlength⟩ := hmany _ (.inl rfl)
  exact ⟨hv, fs, hr, hagain, hlength, htext.trans (by decide +kernel)⟩

end Value

end ExprMarkup
