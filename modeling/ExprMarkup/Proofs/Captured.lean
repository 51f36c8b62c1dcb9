import ExprMarkup.Capture
import ExprMarkup.Proofs.Construction

namespace ExprMarkup

namespace Source.Expr

variable {π : Type}

mutual

/-- Expressions that have a tree. The heads of their calls are of those that are `allowed`. -/
def Supported (allowed : String → Prop) : Expr π → Prop
  | .constant (.scalar _) _ => True
  | .name (.scalar (.text id)) _ => Text.isIdentifier id = true
  | .sequence _ items _ => (Capture.constants? items).isSome = true
  | .call (.name (.scalar (.text head)) _) args keywords _ =>
    Text.isIdentifier head = true ∧ allowed head ∧ AllSupported allowed args ∧
      KeywordsSupported allowed keywords
  | .binary op left right _ =>
    op.head?.isSome = true ∧ left.Supported allowed ∧ right.Supported allowed
  | .unary op operand _ => op.head?.isSome = true ∧ operand.Supported allowed
  | .compare left [(op, right)] _ =>
    op.head?.isSome = true ∧ left.Supported allowed ∧ right.Supported allowed
  | .subscript value index _ => value.Supported allowed ∧ index.Supported allowed
  | _ => False

def AllSupported (allowed : String → Prop) : List (Expr π) → Prop
  | [] => True
  | e :: rest => e.Supported allowed ∧ AllSupported allowed rest

/-- Every keyword is an identifier. -/
def KeywordsSupported (allowed : String → Prop) : List (Option Value × Expr π) → Prop
  | [] => True
  | (some (.scalar (.text key)), e) :: rest =>
    Text.isIdentifier key = true ∧ e.Supported allowed ∧ KeywordsSupported allowed rest
  | _ :: _ => False

end

variable {allowed : String → Prop}

theorem Supported.name_text {id : Value} {p : π} (h : (name id p).Supported allowed) :
    ∃ s, id = .text s ∧ Text.isIdentifier s = true := by
  cases id with
  | scalar s =>
    cases s with
    | text s => exact ⟨s, rfl, h⟩
    | _ => simp [Supported] at h
  | _ => simp [Supported] at h

theorem Supported.call_name {head : Expr π} {args : List (Expr π)}
    {keywords : List (Option Value × Expr π)} {p : π} (h : (call head args keywords p).Supported allowed) :
    ∃ f q, head = .name (.text f) q ∧ Text.isIdentifier f = true ∧ allowed f ∧
      AllSupported allowed args ∧ KeywordsSupported allowed keywords := by
  cases head with
  | name id q =>
    cases id with
    | scalar s =>
      cases s with
      | text f => exact ⟨f, q, rfl, by simpa only [Supported] using h⟩
      | _ => simp [Supported] at h
    | _ => simp [Supported] at h
  | _ => simp [Supported] at h

theorem allSupported_iff (args : List (Expr π)) :
    AllSupported allowed args ↔ ∀ e ∈ args, e.Supported allowed := by
  induction args with
  | nil => simp [AllSupported]
  | cons e rest ih => simp [AllSupported, ih]

/-- A keyword that has a name. -/
def keyword (k : String × Expr π) : Option Value × Expr π := (some (.text k.1), k.2)

/-- Supported keywords have names. -/
theorem KeywordsSupported.exists_named {keywords : List (Option Value × Expr π)}
    (h : KeywordsSupported allowed keywords) :
    ∃ named : List (String × Expr π), keywords = named.map keyword ∧
      ∀ k ∈ named, Text.isIdentifier k.1 = true ∧ k.2.Supported allowed := by
  induction keywords with
  | nil => exact ⟨[], rfl, by simp⟩
  | cons k rest ih =>
    obtain ⟨key, e⟩ := k
    have hcons : ∃ s, key = some (.text s) ∧ Text.isIdentifier s = true ∧ e.Supported allowed ∧
        KeywordsSupported allowed rest := by
      cases key with
      | none => simp [KeywordsSupported] at h
      | some v =>
        cases v with
        | scalar s =>
          cases s with
          | text s => exact ⟨s, rfl, by simpa only [KeywordsSupported] using h⟩
          | _ => simp [KeywordsSupported] at h
        | _ => simp [KeywordsSupported] at h
    obtain ⟨s, rfl, hs, he, hrest⟩ := hcons
    obtain ⟨named, rfl, hnamed⟩ := ih hrest
    refine ⟨(s, e) :: named, rfl, ?_⟩
    rw [List.forall_mem_cons]
    exact ⟨⟨hs, he⟩, hnamed⟩

/-- Induction over supported expressions, one case for each way to make one. -/
@[elab_as_elim]
theorem Supported.induction {motive : (e : Expr π) → e.Supported allowed → Prop}
    (constant : ∀ s p he, motive (.constant (.scalar s) p) he)
    (name : ∀ id p he, Text.isIdentifier id = true → motive (.name (.text id) p) he)
    (sequence : ∀ isTuple items ss p he, Capture.constants? items = some ss →
      motive (.sequence isTuple items p) he)
    (call : ∀ f q args (named : List (String × Expr π)) p he, Text.isIdentifier f = true →
      allowed f → (∀ e ∈ args, ∃ he, motive e he) →
      (∀ k ∈ named, Text.isIdentifier k.1 = true ∧ ∃ hk, motive k.2 hk) →
      motive (.call (.name (.text f) q) args (named.map keyword) p) he)
    (binary : ∀ (op : BinaryOp) head left right p he hleft hright, op.head? = some head →
      motive left hleft → motive right hright → motive (.binary op left right p) he)
    (unary : ∀ (op : UnaryOp) head operand p he hoperand, op.head? = some head →
      motive operand hoperand → motive (.unary op operand p) he)
    (compare : ∀ (op : CompareOp) head left right p he hleft hright, op.head? = some head →
      motive left hleft → motive right hright → motive (.compare left [(op, right)] p) he)
    (subscript : ∀ value index p he hvalue hindex, motive value hvalue → motive index hindex →
      motive (.subscript value index p) he)
    (e : Expr π) (he : e.Supported allowed) : motive e he := by
  induction e with
  | constant value p =>
    cases value with
    | scalar s => exact constant s p he
    | other kind => simp [Supported] at he
  | name id p =>
    obtain ⟨s, rfl, hs⟩ := he.name_text
    exact name s p he hs
  | sequence isTuple items p =>
    have hitems : (Capture.constants? items).isSome = true := by simpa only [Supported] using he
    obtain ⟨ss, hss⟩ := Option.isSome_iff_exists.mp hitems
    exact sequence isTuple items ss p he hss
  | call head args keywords p _ ihargs ihkeywords =>
    obtain ⟨f, q, rfl, hf, hallowed, hargs, hkeywords⟩ := he.call_name
    obtain ⟨named, rfl, hnamed⟩ := hkeywords.exists_named
    rw [allSupported_iff] at hargs
    refine call f q args named p he hf hallowed ?_ ?_
    · intro e hmem
      exact ⟨hargs e hmem, ihargs e hmem (hargs e hmem)⟩
    · intro k hmem
      obtain ⟨hkey, hk⟩ := hnamed k hmem
      exact ⟨hkey, hk, ihkeywords (keyword k) (List.mem_map_of_mem hmem) hk⟩
  | binary op left right p ihleft ihright =>
    obtain ⟨hop, hleft, hright⟩ := by simpa only [Supported] using he
    obtain ⟨head, hhead⟩ := Option.isSome_iff_exists.mp hop
    exact binary op head left right p he hleft hright hhead (ihleft hleft) (ihright hright)
  | unary op operand p ihoperand =>
    obtain ⟨hop, hoperand⟩ := by simpa only [Supported] using he
    obtain ⟨head, hhead⟩ := Option.isSome_iff_exists.mp hop
    exact unary op head operand p he hoperand hhead (ihoperand hoperand)
  | compare left rest p ihleft ihrest =>
    cases rest with
    | nil => simp [Supported] at he
    | cons first more =>
      obtain ⟨op, right⟩ := first
      cases more with
      | nil =>
        obtain ⟨hop, hleft, hright⟩ := by simpa only [Supported] using he
        obtain ⟨head, hhead⟩ := Option.isSome_iff_exists.mp hop
        exact compare op head left right p he hleft hright hhead (ihleft hleft)
          (ihrest (op, right) (by simp) hright)
      | cons second more => simp [Supported] at he
  | subscript value index p ihvalue ihindex =>
    obtain ⟨hvalue, hindex⟩ := by simpa only [Supported] using he
    exact subscript value index p he hvalue hindex (ihvalue hvalue) (ihindex hindex)
  | starred value p => simp [Supported] at he
  | other kind parts p => simp [Supported] at he
  | defect fault p => simp [Supported] at he

theorem Supported.not_starred {e : Expr π} (he : e.Supported allowed) :
    ∀ value p, e ≠ .starred value p := by
  rintro value p rfl
  simp [Supported] at he

end Source.Expr

namespace Capture

open Source

variable {π : Type}

mutual

/-- The tree of a supported expression. -/
def captured (place : π → Location) : Expr π → Tree
  | .constant (.scalar s) p => .literal (.scalar s) (some (place p))
  | .name (.scalar (.text id)) p => .symbol id (some (place p))
  | .sequence _ items p => .literal (.sequence ((constants? items).getD [])) (some (place p))
  | .call (.name (.scalar (.text head)) _) args keywords p =>
    .call head (capturedAll place args) (Table.ofList (capturedKeywords place keywords)).entries
      (some (place p))
  | .binary op left right p =>
    .call (op.head?.getD "") [wrap (op.groupsLeft left) (captured place left),
      wrap (op.groupsRight right) (captured place right)] [] (some (place p))
  | .unary op operand p =>
    .call (op.head?.getD "")
      [wrap (operand.precedence < unaryPrecedence) (captured place operand)] [] (some (place p))
  | .compare left [(op, right)] p =>
    .call (op.head?.getD "") [wrap (left.precedence ≤ comparePrecedence) (captured place left),
      wrap (right.precedence ≤ comparePrecedence) (captured place right)] [] (some (place p))
  | .subscript value index p =>
    .call "getitem" [wrap (value.precedence < atomPrecedence) (captured place value),
      captured place index] [] (some (place p))
  | _ => .bare none

def capturedAll (place : π → Location) : List (Expr π) → List Tree
  | [] => []
  | e :: rest => captured place e :: capturedAll place rest

def capturedKeywords (place : π → Location) : List (Option Value × Expr π) → List (String × Tree)
  | [] => []
  | (some (.scalar (.text key)), e) :: rest => (key, captured place e) :: capturedKeywords place rest
  | _ :: rest => capturedKeywords place rest

end

variable {allowed : String → Prop} {locate : π → Except Fault Location} {place : π → Location}

theorem capturedKeywords_named (named : List (String × Expr π)) :
    capturedKeywords place (named.map Expr.keyword) =
      named.map fun k => (k.1, captured place k.2) := by
  induction named with
  | nil => rfl
  | cons k rest ih => rw [List.map_cons, Expr.keyword, capturedKeywords, ih, List.map_cons]

/-- A call of supported arguments is built. -/
theorem build_captured {f : String} {args : List (Expr π)} {named : List (String × Expr π)}
    {location : Option Location} (hf : Text.isIdentifier f = true)
    (hnamed : ∀ k ∈ named, Text.isIdentifier k.1 = true) :
    Tree.build (.text f) ((capturedAll place args).map .node)
        ((capturedKeywords place (named.map Expr.keyword)).map fun e => (.text e.1, .node e.2))
        location =
      .ok (.call f (capturedAll place args)
        (Table.ofList (capturedKeywords place (named.map Expr.keyword))).entries location) := by
  apply Tree.build_text hf
  intro e he
  rw [capturedKeywords_named] at he
  obtain ⟨k, hk, rfl⟩ := List.mem_map.mp he
  exact hnamed k hk

theorem captureArgs_ok {args : List (Expr π)} {l : Location}
    (hargs : ∀ e ∈ args, ∃ _ : e.Supported allowed, capture locate e = .ok (captured place e)) :
    captureArgs locate l args = .ok (capturedAll place args) := by
  induction args with
  | nil => rfl
  | cons e rest ih =>
    rw [List.forall_mem_cons] at hargs
    obtain ⟨⟨he, hfirst⟩, hrest⟩ := hargs
    rw [captureArgs, hfirst, ok_bind, ih hrest, ok_bind, capturedAll]
    · rfl
    · exact he.not_starred

theorem captureKeywords_ok {named : List (String × Expr π)} {l : Location}
    (hnamed : ∀ k ∈ named, capture locate k.2 = .ok (captured place k.2)) :
    captureKeywords locate l (named.map Expr.keyword) =
      .ok ((capturedKeywords place (named.map Expr.keyword)).map fun e => (.text e.1, e.2)) := by
  induction named with
  | nil => rfl
  | cons k rest ih =>
    rw [List.forall_mem_cons] at hnamed
    rw [List.map_cons, Expr.keyword, captureKeywords, hnamed.1, ok_bind, ih hnamed.2, ok_bind,
      capturedKeywords]
    rfl

/-- A supported expression is captured, if its places have locations. -/
theorem capture_eq_captured {e : Expr π} (hplace : ∀ p, locate p = .ok (place p))
    (he : e.Supported allowed) : capture locate e = .ok (captured place e) := by
  induction e, he using Expr.Supported.induction with
  | constant s p =>
    simp only [capture, captured, hplace, ok_mapError, ok_bind]
    rfl
  | name id p he hid =>
    simp only [capture, captured, hplace, ok_mapError, ok_bind, Tree.newSymbol_text hid]
  | sequence isTuple items ss p he hss =>
    simp only [capture, captured, hplace, ok_mapError, ok_bind, hss, Option.getD_some]
    rfl
  | call f q args named p he hf _ hargs hnamed =>
    have hpositional := captureArgs_ok (l := place p) hargs
    have hkeywords := captureKeywords_ok (l := place p) fun k hk => (hnamed k hk).2.2
    simp only [capture, captured, hplace, ok_mapError, ok_bind, hpositional, hkeywords,
      List.map_map, Function.comp_def]
    exact build_captured hf fun k hk => (hnamed k hk).1
  | binary op head left right p he _ _ hhead hleft hright =>
    simp only [capture, captured, hplace, ok_mapError, ok_bind, hhead, hleft, hright,
      Option.getD_some]
    rfl
  | unary op head operand p he _ hhead hoperand =>
    simp only [capture, captured, hplace, ok_mapError, ok_bind, hhead, hoperand, Option.getD_some]
    rfl
  | compare op head left right p he _ _ hhead hleft hright =>
    simp only [capture, captured, hplace, ok_mapError, ok_bind, hhead, hleft, hright,
      Option.getD_some]
    rfl
  | subscript value index p he _ _ hvalue hindex =>
    simp only [capture, captured, hplace, ok_mapError, ok_bind, hvalue, hindex]
    rfl

/-- The location of a place, where it has one. -/
def placed (locate : π → Except Fault Location) (p : π) : Location := (locate p).toOption.getD default

theorem placed_of_ok {p : π} {l : Location} (h : (locate p).mapError Failure.fault = .ok l) :
    placed locate p = l := by
  rw [mapError_eq_ok] at h
  simp [placed, h, Except.toOption]

theorem capturedAll_of_captureArgs {args : List (Expr π)} {l : Location} {ts : List Tree}
    (hargs : ∀ e ∈ args, ∃ _ : e.Supported allowed, ∀ t, capture locate e = .ok t →
      captured place e = t)
    (h : captureArgs locate l args = .ok ts) : capturedAll place args = ts := by
  induction args generalizing ts with
  | nil => exact Except.ok.inj h
  | cons e rest ih =>
    rw [List.forall_mem_cons] at hargs
    obtain ⟨⟨he, hself⟩, hrest⟩ := hargs
    rw [captureArgs.eq_3 _ _ _ _ he.not_starred] at h
    obtain ⟨first, hfirst, h⟩ := bind_eq_ok.mp h
    obtain ⟨others, hothers, h⟩ := bind_eq_ok.mp h
    rw [capturedAll, hself first hfirst, ih hrest hothers]
    exact pure_eq_ok.mp h

theorem capturedKeywords_of_captureKeywords {named : List (String × Expr π)} {l : Location}
    {pairs : List (Value × Tree)}
    (hnamed : ∀ k ∈ named, ∀ t, capture locate k.2 = .ok t → captured place k.2 = t)
    (h : captureKeywords locate l (named.map Expr.keyword) = .ok pairs) :
    (capturedKeywords place (named.map Expr.keyword)).map (fun e => (.text e.1, e.2)) = pairs := by
  induction named generalizing pairs with
  | nil => exact Except.ok.inj h
  | cons k rest ih =>
    rw [List.forall_mem_cons] at hnamed
    rw [List.map_cons, Expr.keyword, captureKeywords] at h
    obtain ⟨first, hfirst, h⟩ := bind_eq_ok.mp h
    obtain ⟨others, hothers, h⟩ := bind_eq_ok.mp h
    rw [List.map_cons, Expr.keyword, capturedKeywords, List.map_cons, hnamed.1 first hfirst,
      ih hnamed.2 hothers]
    exact pure_eq_ok.mp h

/-- The tree of a supported expression is the captured one, whatever the places elsewhere are. -/
theorem captured_of_capture {e : Expr π} {t : Tree} (he : e.Supported allowed)
    (h : capture locate e = .ok t) : captured (placed locate) e = t := by
  induction e, he using Expr.Supported.induction generalizing t with
  | constant s p =>
    rw [capture] at h
    obtain ⟨l, hl, h⟩ := bind_eq_ok.mp h
    rw [captured, placed_of_ok hl]
    exact pure_eq_ok.mp h
  | name id p he hid =>
    rw [capture] at h
    obtain ⟨l, hl, h⟩ := bind_eq_ok.mp h
    rw [Tree.newSymbol_text hid] at h
    rw [captured, placed_of_ok hl]
    exact Except.ok.inj h
  | sequence isTuple items ss p he hss =>
    rw [capture] at h
    obtain ⟨l, hl, h⟩ := bind_eq_ok.mp h
    simp only [hss] at h
    rw [captured, hss, placed_of_ok hl]
    exact pure_eq_ok.mp h
  | call f q args named p he hf _ hargs hnamed =>
    rw [capture] at h
    obtain ⟨l, hl, h⟩ := bind_eq_ok.mp h
    obtain ⟨positional, hpositional, h⟩ := bind_eq_ok.mp h
    obtain ⟨pairs, hpairs, h⟩ := bind_eq_ok.mp h
    obtain rfl := capturedAll_of_captureArgs (fun e he => ⟨(hargs e he).1, fun t => (hargs e he).2⟩)
      hpositional
    obtain rfl := capturedKeywords_of_captureKeywords (fun k hk t => (hnamed k hk).2.2) hpairs
    rw [List.map_map] at h
    rw [captured, placed_of_ok hl]
    exact Except.ok.inj ((build_captured hf fun k hk => (hnamed k hk).1).symm.trans h)
  | binary op head left right p he _ _ hhead hleft hright =>
    rw [capture] at h
    obtain ⟨l, hl, h⟩ := bind_eq_ok.mp h
    simp only [hhead] at h
    obtain ⟨a, ha, h⟩ := bind_eq_ok.mp h
    obtain ⟨b, hb, h⟩ := bind_eq_ok.mp h
    rw [captured, placed_of_ok hl, hleft ha, hright hb, hhead]
    exact pure_eq_ok.mp h
  | unary op head operand p he _ hhead hoperand =>
    rw [capture] at h
    obtain ⟨l, hl, h⟩ := bind_eq_ok.mp h
    simp only [hhead] at h
    obtain ⟨a, ha, h⟩ := bind_eq_ok.mp h
    rw [captured, placed_of_ok hl, hoperand ha, hhead]
    exact pure_eq_ok.mp h
  | compare op head left right p he _ _ hhead hleft hright =>
    rw [capture] at h
    obtain ⟨l, hl, h⟩ := bind_eq_ok.mp h
    simp only [hhead] at h
    obtain ⟨a, ha, h⟩ := bind_eq_ok.mp h
    obtain ⟨b, hb, h⟩ := bind_eq_ok.mp h
    rw [captured, placed_of_ok hl, hleft ha, hright hb, hhead]
    exact pure_eq_ok.mp h
  | subscript value index p he _ _ hvalue hindex =>
    rw [capture] at h
    obtain ⟨l, hl, h⟩ := bind_eq_ok.mp h
    obtain ⟨a, ha, h⟩ := bind_eq_ok.mp h
    obtain ⟨b, hb, h⟩ := bind_eq_ok.mp h
    rw [captured, placed_of_ok hl, hvalue ha, hindex hb]
    exact pure_eq_ok.mp h

end Capture

end ExprMarkup
