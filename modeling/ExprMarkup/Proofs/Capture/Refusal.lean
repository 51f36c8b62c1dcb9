import ExprMarkup.Proofs.Construction.Checks
import ExprMarkup.Proofs.Source.Complete

namespace ExprMarkup

/-- A failure that says what is malformed. -/
def Failure.IsMalformed (f : Failure) : Prop := ∃ why location, f = .malformed why location

namespace Capture

open Source

/-- The computation fails only by what is malformed. -/
def OnlyMalformed {α : Type} (x : Except Failure α) : Prop := ∀ f, x = .error f → f.IsMalformed

namespace OnlyMalformed

variable {α β : Type} {x : Except Failure α}

theorem ok (a : α) : OnlyMalformed (.ok a) := nofun

theorem refuse {why : Malformation} {l : Location} : OnlyMalformed (refuse why l : Except Failure α) :=
  fun _ h => ⟨why, some l, (Except.error.inj h).symm⟩

theorem bind {next : α → Except Failure β} (h : OnlyMalformed x)
    (hnext : ∀ a, x = .ok a → OnlyMalformed (next a)) : OnlyMalformed (x >>= next) := by
  intro f hf
  rcases bind_eq_error.mp hf with hfirst | ⟨a, ha, hsecond⟩
  · exact h f hfirst
  · exact hnext a ha f hsecond

/-- A check fails so unless it is spoiled. -/
theorem of_decides {condition spoiled : Prop} {result : α → Prop} {location : Option Location}
    (h : Tree.Decides location condition spoiled result x) (hclear : ¬spoiled) : OnlyMalformed x := by
  intro f hf
  rcases h.of_error hf with ⟨why, rfl⟩ | ⟨hspoiled, -⟩
  · exact ⟨why, location, rfl⟩
  · exact absurd hspoiled hclear

/-- Something is made of two results. -/
theorem both {y : Except Failure α} (hx : OnlyMalformed x) (hy : OnlyMalformed y) (make : α → α → β) :
    OnlyMalformed (do let a ← x; let b ← y; return make a b) :=
  hx.bind fun _ _ => hy.bind fun _ _ => .ok _

end OnlyMalformed

variable {π : Type} {locate : π → Except Fault Location}

theorem onlyMalformed_newSymbol (name : String) (location : Option Location) :
    OnlyMalformed (Tree.newSymbol (.text name) location) :=
  .of_decides (Tree.newSymbol_decides (.text name) location) (by simp [Value.isShowable, Scalar.isShowable])

theorem onlyMalformed_build {head : String} {args : List Argument} {named : List (Value × Argument)}
    {location : Option Location} (hnames : ∀ e ∈ named, ∃ s, e.1 = .text s) :
    OnlyMalformed (Tree.build (.text head) args named location) := by
  have hhashable : (named.all fun e => e.1.isHashable) = true := by
    rw [List.all_eq_true]
    intro e he
    obtain ⟨s, hs⟩ := hnames e he
    rw [hs]
    rfl
  rw [Tree.build, if_pos hhashable]
  refine .of_decides (Tree.newCall_decides (.text head) args _ location) ?_
  rintro (hhead | ⟨before, e, after, hfolded, -, hname⟩)
  · cases hhead
  · have hkey : e.1 ∈ (Value.foldPairs named).map Prod.fst := by simp [hfolded]
    obtain ⟨p, hp, hpname⟩ := List.mem_map.mp (Value.mem_keys_of_foldPairs hkey)
    obtain ⟨s, hs⟩ := hnames p hp
    rw [← hpname, hs] at hname
    cases hname

theorem onlyMalformed_captureArgs {l : Location} {args : List (Expr π)}
    (hargs : ∀ e ∈ args, OnlyMalformed (capture locate e)) :
    OnlyMalformed (captureArgs locate l args) := by
  induction args with
  | nil => exact .ok []
  | cons e rest ih =>
    unfold captureArgs
    split
    · contradiction
    · exact .refuse
    · next hlist =>
      cases hlist
      refine (hargs e (by simp)).bind fun first _ => ?_
      exact (ih fun e' he' => hargs e' (by simp [he'])).bind fun others _ => .ok _

theorem onlyMalformed_captureKeywords {l : Location} {keywords : List (Option Value × Expr π)}
    (hvalues : ∀ k ∈ keywords, OnlyMalformed (capture locate k.2)) :
    OnlyMalformed (captureKeywords locate l keywords) := by
  induction keywords with
  | nil => exact .ok []
  | cons k rest ih =>
    obtain ⟨key, e⟩ := k
    cases key with
    | none => exact .refuse
    | some name =>
      rw [captureKeywords]
      refine (hvalues (some name, e) (by simp)).bind fun first _ => ?_
      exact (ih fun k' hk' => hvalues k' (by simp [hk'])).bind fun others _ => .ok _

/-- Captured keywords have the names that were written. -/
theorem exists_keyword_of_captureKeywords {l : Location} {keywords : List (Option Value × Expr π)}
    {pairs : List (Value × Tree)} (h : captureKeywords locate l keywords = .ok pairs) :
    ∀ p ∈ pairs, ∃ k ∈ keywords, k.1 = some p.1 := by
  induction keywords generalizing pairs with
  | nil =>
    cases h
    simp
  | cons k rest ih =>
    obtain ⟨key, e⟩ := k
    cases key with
    | none => cases h
    | some name =>
      rw [captureKeywords] at h
      obtain ⟨first, -, h⟩ := bind_eq_ok.mp h
      obtain ⟨others, hothers, h⟩ := bind_eq_ok.mp h
      obtain rfl := pure_eq_ok.mp h
      rintro p (_ | ⟨_, hp⟩)
      · exact ⟨(some name, e), by simp, rfl⟩
      · obtain ⟨k, hk, hname⟩ := ih hothers p hp
        exact ⟨k, by simp [hk], hname⟩

/-- A complete expression whose places have locations is captured, or something in it is malformed. -/
theorem onlyMalformed_capture (hlocate : ∀ p, ∃ l, locate p = .ok l) {e : Expr π} (he : e.Complete) :
    OnlyMalformed (capture locate e) := by
  have hplace : ∀ p, OnlyMalformed ((locate p).mapError .fault) := by
    intro p
    obtain ⟨l, hl⟩ := hlocate p
    rw [hl]
    exact .ok l
  induction e with
  | constant value p =>
    refine (hplace p).bind fun l _ => ?_
    cases value with
    | scalar s => exact .ok _
    | other kind => exact .refuse
  | name id p =>
    refine (hplace p).bind fun l _ => ?_
    cases he with
    | name => exact onlyMalformed_newSymbol _ (some l)
  | sequence isTuple items p _ =>
    refine (hplace p).bind fun l _ => ?_
    split
    · exact .ok _
    · exact .refuse
  | call head args keywords p _ ihargs ihkeywords =>
    obtain ⟨hhead, hargs, hvalues, hnames⟩ : head.Complete ∧ (∀ e ∈ args, e.Complete) ∧
        (∀ k ∈ keywords, k.2.Complete) ∧
        ∀ k ∈ keywords, ∀ name, k.1 = some name → ∃ s, name = .text s := by
      cases he with
      | call hhead hargs hvalues hnames => exact ⟨hhead, hargs, hvalues, hnames⟩
    refine (hplace p).bind fun l _ => ?_
    cases head with
    | name id q =>
      obtain ⟨s, rfl⟩ : ∃ s, id = .text s := by
        cases hhead with
        | name => exact ⟨_, rfl⟩
      have hfirst : ∀ e ∈ args, OnlyMalformed (capture locate e) := fun e he => ihargs e he (hargs e he)
      have hsecond : ∀ k ∈ keywords, OnlyMalformed (capture locate k.2) :=
        fun k hk => ihkeywords k hk (hvalues k hk)
      refine (onlyMalformed_captureArgs hfirst).bind fun ts _ => ?_
      refine (onlyMalformed_captureKeywords hsecond).bind fun pairs hpairs => ?_
      refine onlyMalformed_build ?_
      intro e he
      obtain ⟨p, hp, rfl⟩ := List.mem_map.mp he
      obtain ⟨k, hk, hname⟩ := exists_keyword_of_captureKeywords hpairs p hp
      exact hnames k hk p.1 hname
    | _ => exact .refuse
  | binary op left right p ihleft ihright =>
    refine (hplace p).bind fun l _ => ?_
    cases he with
    | binary hleft hright =>
      split
      · exact (ihleft hleft).both (ihright hright) _
      · exact .refuse
  | unary op operand p ihoperand =>
    refine (hplace p).bind fun l _ => ?_
    cases he with
    | unary hoperand =>
      split
      · exact (ihoperand hoperand).bind fun a _ => .ok _
      · exact .refuse
  | compare left rest p ihleft ihrest =>
    unfold capture
    refine (hplace p).bind fun l _ => ?_
    cases he with
    | compare hleft hrest =>
      split
      · next _ op right =>
        split
        · exact (ihleft hleft).both (ihrest (op, right) (by simp) (hrest (op, right) (by simp))) _
        · exact .refuse
      · exact .refuse
  | subscript value index p ihvalue ihindex =>
    refine (hplace p).bind fun l _ => ?_
    cases he with
    | subscript hvalue hindex => exact (ihvalue hvalue).both (ihindex hindex) _
  | starred value p _ => exact (hplace p).bind fun l _ => .refuse
  | other kind parts p _ => exact (hplace p).bind fun l _ => .refuse
  | defect fault p => cases he

/-- A text is captured, or something in it is malformed, or there is a null character in it or in the
name of its file, or the parser has no room for it. -/
theorem refused_ofText {host : Host} {text : String} {file : Option String} {f : Failure}
    (h : ofText host text file = .error f) :
    f.IsMalformed ∨
      (f = .fault .nullCharacter ∧
        (hasNull (file.getD "").toList || hasNull (Text.strip text.toList)) = true) ∨
      (f = .fault .outOfMemory ∧
        (hasNull (file.getD "").toList || hasNull (Text.strip text.toList)) = false ∧
        host.surrender? (Text.strip text.toList) = some .memory) := by
  dsimp only [ofText] at h
  split at h
  · next hnull =>
    cases h
    exact .inr (.inl ⟨rfl, hnull⟩)
  · next hclear =>
    split at h
    · cases h
      exact .inl ⟨.sourceTooDeep, none, rfl⟩
    · next hmemory =>
      cases h
      exact .inr (.inr ⟨rfl, by simpa using hclear, hmemory⟩)
    · left
      split at h
      · next e he =>
        unfold captureWithin at h
        split at h
        · cases h
          exact ⟨.sourceTooDeep, none, rfl⟩
        · exact onlyMalformed_capture (fun s => ⟨_, rfl⟩) (complete_of_parse he) f h
      · cases h
        exact ⟨_, _, rfl⟩

theorem CodePoint.chars?_map_char (text : List Char) : chars? (text.map .char) = some text := by
  induction text with
  | nil => rfl
  | cons c rest ih => rw [List.map_cons, chars?, ih, Option.map_some]

theorem CodePoint.chars?_cases (source : List CodePoint) :
    (∃ text : List Char, source = text.map .char) ∨
      (∃ index, .surrogate index ∈ source) ∧ chars? source = none := by
  induction source with
  | nil => exact .inl ⟨[], rfl⟩
  | cons point rest ih =>
    cases point with
    | surrogate index => exact .inr ⟨⟨index, List.mem_cons_self⟩, rfl⟩
    | char c =>
      rcases ih with ⟨text, rfl⟩ | ⟨⟨index, hindex⟩, hnone⟩
      · exact .inl ⟨c :: text, rfl⟩
      · exact .inr ⟨⟨index, List.mem_cons_of_mem _ hindex⟩, by rw [chars?, hnone, Option.map_none]⟩

/-- The ways in which a text does not get as far as the grammar. In the order in which they count: the
name of its file has a null character, one of its own code points is a lone surrogate, it has a null
character between its blanks, or the parser runs out of memory over it. -/
inductive Unreadable (host : Host) (source : List CodePoint) (file : Option String) : Fault → Prop
  | fileName (hfile : '\x00' ∈ (file.getD "").toList) : Unreadable host source file .nullCharacter
  | surrogate {index : Fin 2048} (hfile : '\x00' ∉ (file.getD "").toList)
      (hsource : .surrogate index ∈ source) : Unreadable host source file .notEncodable
  | nullCharacter {text : List Char} (hsource : source = text.map .char)
      (hnull : '\x00' ∈ Text.strip text) : Unreadable host source file .nullCharacter
  | memory {text : List Char} (hfile : '\x00' ∉ (file.getD "").toList)
      (hsource : source = text.map .char) (hclear : '\x00' ∉ Text.strip text)
      (hmemory : host.surrender? (Text.strip text) = some .memory) :
      Unreadable host source file .outOfMemory

theorem hasNull_iff {text : List Char} : hasNull text = true ↔ '\x00' ∈ text := List.contains_iff_mem

theorem ofCodePoints_map_char (host : Host) (text : List Char) (file : Option String) :
    ofCodePoints host (text.map .char) file = ofText host (String.ofList text) file := by
  rw [ofCodePoints, CodePoint.chars?_map_char]

theorem ofCodePoints_of_unreadable {host : Host} {source : List CodePoint} {file : Option String}
    {b : Fault} (h : Unreadable host source file b) : ofCodePoints host source file = .error (.fault b) := by
  cases h with
  | fileName hfile =>
    have hnull := hasNull_iff.mpr hfile
    rcases CodePoint.chars?_cases source with ⟨text, rfl⟩ | ⟨-, hnone⟩
    · rw [ofCodePoints_map_char, ofText, if_pos (by rw [hnull, Bool.true_or])]
    · rw [ofCodePoints, hnone]
      exact if_pos hnull
  | surrogate hfile hsource =>
    rcases CodePoint.chars?_cases source with ⟨text, rfl⟩ | ⟨-, hnone⟩
    · simp at hsource
    · rw [ofCodePoints, hnone]
      exact if_neg fun hnull => hfile (hasNull_iff.mp hnull)
  | nullCharacter hsource hnull =>
    rw [hsource, ofCodePoints_map_char, ofText, String.toList_ofList, if_pos]
    rw [hasNull_iff.mpr hnull, Bool.or_true]
  | memory hfile hsource hclear hmemory =>
    rw [hsource, ofCodePoints_map_char, ofText, String.toList_ofList, if_neg, hmemory]
    rw [Bool.or_eq_true, hasNull_iff, hasNull_iff]
    exact fun hnull => hnull.elim hfile hclear

theorem refused_ofCodePoints {host : Host} {source : List CodePoint} {file : Option String} {f : Failure}
    (h : ofCodePoints host source file = .error f) :
    f.IsMalformed ∨ ∃ b, f = .fault b ∧ Unreadable host source file b := by
  rcases CodePoint.chars?_cases source with ⟨text, rfl⟩ | ⟨⟨index, hindex⟩, hnone⟩
  · rw [ofCodePoints_map_char] at h
    rcases refused_ofText h with hmalformed | ⟨rfl, hnull⟩ | ⟨rfl, hclear, hmemory⟩
    · exact .inl hmalformed
    · rw [String.toList_ofList, Bool.or_eq_true, hasNull_iff, hasNull_iff] at hnull
      rcases hnull with hfile | hbody
      · exact .inr ⟨_, rfl, .fileName hfile⟩
      · exact .inr ⟨_, rfl, .nullCharacter rfl hbody⟩
    · rw [String.toList_ofList] at hclear hmemory
      rw [Bool.or_eq_false_iff, ← Bool.not_eq_true, ← Bool.not_eq_true, hasNull_iff, hasNull_iff] at hclear
      exact .inr ⟨_, rfl, .memory hclear.1 rfl hclear.2 hmemory⟩
  · rw [ofCodePoints, hnone] at h
    dsimp only at h
    split at h
    · next hnull =>
      cases h
      exact .inr ⟨_, rfl, .fileName (hasNull_iff.mp hnull)⟩
    · next hclear =>
      cases h
      exact .inr ⟨_, rfl, .surrogate (fun hnull => hclear (hasNull_iff.mpr hnull)) hindex⟩

end Capture

end ExprMarkup
