import Mathlib.Algebra.GroupWithZero.Nat
import ExprMarkup.Renderer

namespace ExprMarkup

/-- Pieces with texts between them, by turns. -/
def alternate : List String → List String → List String
  | piece :: pieces, text :: texts => piece :: text :: alternate pieces texts
  | pieces, _ => pieces

/-- The text of a value of at most one fragment: an absent one has the empty text. -/
def Rendered.onlyText (r : Rendered) : String := (r.fragments.head?.map Fragment.text).getD ""

theorem Rendered.text_asFragment_of_single {r : Rendered} (h : r.fragments.length ≤ 1) :
    r.asFragment.text = r.onlyText := by
  match r, h with
  | .one _, _ => rfl
  | .many [], _ => rfl
  | .many [_], _ => rfl

namespace Template

/-- What a template takes: a value of at most one fragment for each slot, or enough fragments. -/
def Takes : Template → List Rendered → Prop
  | .slots pieces, children =>
    children.length + 1 = pieces.length ∧ ∀ child ∈ children, child.fragments.length ≤ 1
  | .variadic _ _ _ least, children =>
    least ≤ ((children.map fun child => child.fragments.length).sum : Nat)

/-- The template with what it takes. -/
def written : Template → List Rendered → String
  | .slots pieces, children => String.join (alternate pieces (children.map Rendered.onlyText))
  | .variadic opening separator closing _, children =>
    opening ++ separator.intercalate (children.flatMap fun child => child.fragments.map Fragment.text) ++
      closing

/-- What an operator is refused for. A fault counts only where the ones before it are absent. -/
inductive Refused : Template → List Rendered → List (String × Rendered) → Misuse → Prop
  | named {template : Template} {children : List Rendered} {attributes : List (String × Rendered)}
      (hnamed : attributes ≠ []) :
      Refused template children attributes (.namedArguments (attributes.map Prod.fst))
  | multiple {pieces : List String} {before : List Rendered} {child : Rendered} {after : List Rendered}
      (hbefore : ∀ earlier ∈ before, earlier.fragments.length ≤ 1) (hchild : 1 < child.fragments.length) :
      Refused (.slots pieces) (before ++ child :: after) []
        (.multipleValues (before.length + 1) child.fragments.length)
  | count {pieces : List String} {children : List Rendered}
      (hsingle : ∀ child ∈ children, child.fragments.length ≤ 1)
      (hcount : children.length + 1 ≠ pieces.length) :
      Refused (.slots pieces) children [] (.wrongCount (pieces.length - 1) children.length)
  | few {opening separator closing : String} {least : Int} {children : List Rendered}
      (hfew : ((children.map fun child => child.fragments.length).sum : Nat) < least) :
      Refused (.variadic opening separator closing least) children []
        (.tooFew least (children.map fun child => child.fragments.length).sum)

/-- As many arguments as pieces that follow them are written by turns. -/
theorem interleave_ok {args pieces : List String} (h : args.length = pieces.length) :
    ∃ text, interleave args pieces = .ok text ∧
      ∀ piece, String.join (alternate (piece :: pieces) args) = piece ++ text := by
  induction args generalizing pieces with
  | nil =>
    obtain rfl : pieces = [] := List.eq_nil_of_length_eq_zero h.symm
    exact ⟨"", rfl, fun piece => by simp [alternate]⟩
  | cons arg args ih =>
    cases pieces with
    | nil => cases h
    | cons next pieces =>
      obtain ⟨text, htext, hjoin⟩ := ih (Nat.succ.inj h)
      refine ⟨arg ++ next ++ text, by rw [interleave, htext]; rfl, fun piece => ?_⟩
      rw [alternate, String.join_cons, String.join_cons, hjoin, String.append_assoc]

theorem fill_slots {pieces : List String} {args : List Fragment}
    (h : args.length + 1 = pieces.length) :
    (slots pieces).fill args = .ok (String.join (alternate pieces (args.map Fragment.text))) := by
  cases pieces with
  | nil => cases h
  | cons piece pieces =>
    have hlength : (args.map Fragment.text).length = pieces.length := by
      rw [List.length_map]
      exact Nat.succ.inj h
    obtain ⟨text, htext, hjoin⟩ := interleave_ok hlength
    rw [fill, htext, hjoin]
    rfl

end Template

namespace Renderer

open Template

variable {name : String} {template : Template} {children : List Rendered}

theorem singles_ok {position : Nat} (h : ∀ child ∈ children, child.fragments.length ≤ 1) :
    singles name position children = .ok (children.map Rendered.asFragment) := by
  induction children generalizing position with
  | nil => rfl
  | cons child rest ih =>
    rw [List.forall_mem_cons] at h
    match child, h.1 with
    | .one _, _ => simp only [singles, ih h.2, ok_bind]; rfl
    | .many [], _ => simp only [singles, ih h.2, ok_bind]; rfl
    | .many [_], _ => simp only [singles, ih h.2, ok_bind]; rfl

/-- The first child of several values is refused, at its place. -/
theorem singles_error {position : Nat} {before : List Rendered} {child : Rendered}
    {after : List Rendered} (hbefore : ∀ earlier ∈ before, earlier.fragments.length ≤ 1)
    (hchild : 1 < child.fragments.length) :
    singles name position (before ++ child :: after) = .error ⟨.structural name
      (.multipleValues (position + before.length) child.fragments.length), none⟩ := by
  induction before generalizing position with
  | nil =>
    match child, hchild with
    | .many (_ :: _ :: _), _ => rfl
  | cons first rest ih =>
    rw [List.forall_mem_cons] at hbefore
    have hplace : position + 1 + rest.length = position + (first :: rest).length := by
      rw [List.length_cons, Nat.add_assoc, Nat.add_comm 1]
    rw [← hplace]
    match first, hbefore.1 with
    | .one _, _ => simp only [List.cons_append, singles, ih hbefore.2]; rfl
    | .many [], _ => simp only [List.cons_append, singles, ih hbefore.2]; rfl
    | .many [_], _ => simp only [List.cons_append, singles, ih hbefore.2]; rfl

theorem takes_or_refused (template : Template) (children : List Rendered) :
    template.Takes children ∨ ∃ why, Refused template children [] why := by
  cases template with
  | slots pieces =>
    obtain hsingle | ⟨before, child, after, rfl, hbefore, hchild⟩ :=
      Rendered.forall_single_or_first_several id children
    · by_cases hcount : children.length + 1 = pieces.length
      · exact .inl ⟨hcount, hsingle⟩
      · exact .inr ⟨_, .count hsingle hcount⟩
    · exact .inr ⟨_, .multiple hbefore hchild⟩
  | variadic opening separator closing least =>
    by_cases hfew : ((children.map fun child => child.fragments.length).sum : Nat) < least
    · exact .inr ⟨_, .few hfew⟩
    · exact .inl (Int.not_lt.mp hfew)

/-- What a template takes becomes its arguments, and they fill it. -/
theorem operands_of_takes (name : String) (h : template.Takes children) :
    ∃ args, operands name template children = .ok args ∧
      template.fill args = .ok (template.written children) := by
  cases template with
  | slots pieces =>
    obtain ⟨hcount, hsingle⟩ := h
    have harity : ((children.map Rendered.asFragment).length : Int) = arity pieces := by
      rw [arity, List.length_map]
      omega
    have htexts : (children.map Rendered.asFragment).map Fragment.text =
        children.map Rendered.onlyText := by
      rw [List.map_map]
      exact List.map_congr_left fun child hchild =>
        Rendered.text_asFragment_of_single (hsingle child hchild)
    refine ⟨children.map Rendered.asFragment, ?_, ?_⟩
    · rw [operands, singles_ok hsingle, ok_bind, if_pos harity]
      rfl
    · rw [fill_slots (by rw [List.length_map, hcount]), htexts, written]
  | variadic opening separator closing least =>
    have henough : ¬((Rendered.flatten children).length : Int) < least := by
      rw [Rendered.flatten, List.length_flatMap]
      exact Int.not_lt.mpr h
    refine ⟨Rendered.flatten children, if_neg henough, ?_⟩
    rw [fill, written, joinTexts_eq_intercalate, Rendered.flatten, List.map_flatMap]

theorem operands_of_refused {why : Misuse} (h : Refused template children [] why) :
    operands name template children = .error ⟨.structural name why, none⟩ := by
  cases h with
  | named hnamed => exact absurd rfl hnamed
  | multiple hbefore hchild =>
    rw [operands, singles_error hbefore hchild, Nat.add_comm 1]
    rfl
  | @count pieces _ hsingle hcount =>
    have harity : ¬((children.map Rendered.asFragment).length : Int) = arity pieces := by
      rw [arity, List.length_map]
      omega
    rw [operands, singles_ok hsingle, ok_bind, if_neg harity, List.length_map]
    rfl
  | @few opening separator closing least _ hfew =>
    have htotal : (children.map fun child => child.fragments.length).sum =
        (Rendered.flatten children).length := List.length_flatMap.symm
    rw [htotal] at hfew ⊢
    exact if_pos hfew

/-- What an operator takes as arguments fills its template. -/
theorem fill_operands {args : List Fragment} (h : operands name template children = .ok args) :
    ∃ text, template.fill args = .ok text := by
  obtain htakes | ⟨why, hrefused⟩ := takes_or_refused template children
  · obtain ⟨own, hown, hfill⟩ := operands_of_takes name htakes
    obtain rfl : own = args := Except.ok.inj (hown.symm.trans h)
    exact ⟨_, hfill⟩
  · cases h.symm.trans (operands_of_refused hrefused)

end Renderer

end ExprMarkup
