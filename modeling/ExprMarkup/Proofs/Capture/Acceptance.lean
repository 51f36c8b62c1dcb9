import ExprMarkup.Proofs.Captured

namespace ExprMarkup

namespace Source

/-- A name that may stand in an expression. -/
def IsName (v : Value) : Prop := ∃ s, v = .text s ∧ Text.isIdentifier s = true

/-- Names that are identifiers are texts. -/
theorem exists_texts_of_isName {α : Type} {pairs : List (Value × α)} (h : ∀ e ∈ pairs, IsName e.1) :
    ∃ named : List (String × α), (∀ e ∈ named, Text.isIdentifier e.1 = true) ∧
      pairs = named.map fun e => (.text e.1, e.2) := by
  induction pairs with
  | nil => exact ⟨[], by simp, rfl⟩
  | cons e rest ih =>
    rw [List.forall_mem_cons] at h
    obtain ⟨key, hkey, hvalid⟩ := h.1
    obtain ⟨named, hnames, rfl⟩ := ih h.2
    refine ⟨(key, e.2) :: named, ?_, ?_⟩
    · rw [List.forall_mem_cons]
      exact ⟨hvalid, hnames⟩
    · rw [List.map_cons, ← hkey]

/-- The operators with two operands that have a name as a call. -/
def BinaryOp.named : List BinaryOp :=
  [.add, .sub, .mul, .truediv, .floordiv, .mod, .pow, .matmul]

def CompareOp.named : List CompareOp := [.eq, .ne, .lt, .le, .gt, .ge]

theorem BinaryOp.head?_isSome_iff (op : BinaryOp) :
    op.head?.isSome = true ↔ op ∈ BinaryOp.named := by
  cases op <;> simp [BinaryOp.head?, BinaryOp.named]

theorem CompareOp.head?_isSome_iff (op : CompareOp) :
    op.head?.isSome = true ↔ op ∈ CompareOp.named := by
  cases op <;> simp [CompareOp.head?, CompareOp.named]

/-- What capturing comes upon. -/
inductive Station (π : Type)
  | node (e : Expr π)
  /-- A starred argument of the call at this place. -/
  | star (call : π)
  /-- Two stars among the arguments of the call at this place. -/
  | doubleStar (call : π)

namespace Expr

variable {π : Type}

mutual

/-- An expression as it comes from a text: places have locations, names are identifiers, there is one
operator without a name that has one operand, and nothing is missing. -/
def Whole (locate : π → Except Fault Location) : Expr π → Prop
  | .constant _ p => ∃ l, locate p = .ok l
  | .name id p => IsName id ∧ ∃ l, locate p = .ok l
  | .sequence _ _ p => ∃ l, locate p = .ok l
  | .call head args keywords p =>
    (∀ id q, head = .name id q → IsName id) ∧ AllWhole locate args ∧ KeywordsWhole locate keywords ∧
      ∃ l, locate p = .ok l
  | .binary _ left right p => left.Whole locate ∧ right.Whole locate ∧ ∃ l, locate p = .ok l
  | .unary op operand p =>
    (op.head? = none → op = .other "Not") ∧ operand.Whole locate ∧ ∃ l, locate p = .ok l
  | .compare left rest p => left.Whole locate ∧ ComparedWhole locate rest ∧ ∃ l, locate p = .ok l
  | .subscript value index p => value.Whole locate ∧ index.Whole locate ∧ ∃ l, locate p = .ok l
  | .starred _ p => ∃ l, locate p = .ok l
  | .other _ _ p => ∃ l, locate p = .ok l
  | .defect _ _ => False

def AllWhole (locate : π → Except Fault Location) : List (Expr π) → Prop
  | [] => True
  | e :: rest => e.Whole locate ∧ AllWhole locate rest

def KeywordsWhole (locate : π → Except Fault Location) : List (Option Value × Expr π) → Prop
  | [] => True
  | (none, _) :: rest => KeywordsWhole locate rest
  | (some key, e) :: rest => IsName key ∧ e.Whole locate ∧ KeywordsWhole locate rest

def ComparedWhole (locate : π → Except Fault Location) : List (CompareOp × Expr π) → Prop
  | [] => True
  | (_, e) :: rest => e.Whole locate ∧ ComparedWhole locate rest

end

mutual

/-- All that capturing an expression may come upon, in order. -/
def stations : Expr π → List (Station π)
  | .call head args keywords p =>
    .node (.call head args keywords p) :: (stationsArgs p args ++ stationsKeywords p keywords)
  | .binary op left right p => .node (.binary op left right p) :: (stations left ++ stations right)
  | .unary op operand p => .node (.unary op operand p) :: stations operand
  | .compare left rest p => .node (.compare left rest p) :: (stations left ++ stationsCompared rest)
  | .subscript value index p =>
    .node (.subscript value index p) :: (stations value ++ stations index)
  | .constant value p => [.node (.constant value p)]
  | .name id p => [.node (.name id p)]
  | .sequence isTuple items p => [.node (.sequence isTuple items p)]
  | .starred value p => [.node (.starred value p)]
  | .other kind parts p => [.node (.other kind parts p)]
  | .defect fault p => [.node (.defect fault p)]

/-- The arguments of the call at some place. -/
def stationsArgs (call : π) : List (Expr π) → List (Station π)
  | [] => []
  | .starred _ _ :: rest => .star call :: stationsArgs call rest
  | e :: rest => stations e ++ stationsArgs call rest

def stationsKeywords (call : π) : List (Option Value × Expr π) → List (Station π)
  | [] => []
  | (none, _) :: rest => .doubleStar call :: stationsKeywords call rest
  | (some _, e) :: rest => stations e ++ stationsKeywords call rest

def stationsCompared : List (CompareOp × Expr π) → List (Station π)
  | [] => []
  | (_, e) :: rest => stations e ++ stationsCompared rest

end

/-- The place of an expression. -/
def place : Expr π → π
  | .constant _ p => p
  | .name _ p => p
  | .sequence _ _ p => p
  | .call _ _ _ p => p
  | .binary _ _ _ p => p
  | .unary _ _ p => p
  | .compare _ _ p => p
  | .subscript _ _ p => p
  | .starred _ p => p
  | .other _ _ p => p
  | .defect _ p => p

/-- The forms that have a tree, apart from what is inside them. -/
def InFragment : Expr π → Prop
  | .constant value _ => ∃ s, value = .scalar s
  | .name _ _ => True
  | .sequence _ items _ => ∀ item ∈ items, ∃ s p, item = .constant (.scalar s) p
  | .call head args keywords _ =>
    (∃ id p, head = .name id p) ∧ (∀ a ∈ args, ∀ value p, a ≠ .starred value p) ∧
      ∀ k ∈ keywords, k.1 ≠ none
  | .binary op _ _ _ => op ∈ BinaryOp.named
  | .unary op _ _ => op ≠ .other "Not"
  | .compare _ rest _ => ∃ op right, rest = [(op, right)] ∧ op ∈ CompareOp.named
  | .subscript _ _ _ => True
  | .starred _ _ => False
  | .other _ _ _ => False
  | .defect _ _ => False

/-- What is wrong with an expression by itself, if anything is. Its operands do not count, and of the
arguments of a call neither do those with stars. -/
def objection? : Expr π → Option Malformation
  | .constant (.scalar _) _ => none
  | .constant (.other kind) _ => some (.unsupportedLiteral kind)
  | .name _ _ => none
  | .sequence _ items _ =>
    if (Capture.constants? items).isSome then none else some .sequenceNotConstant
  | .call (.name _ _) _ _ _ => none
  | .call head _ _ _ => some (.headNotName head.kind)
  | .binary op _ _ _ => if op.head?.isSome then none else some (.unsupportedOperator op.kind)
  | .unary op _ _ => if op.head?.isSome then none else some (.unsupportedOperator op.kind)
  | .compare _ [(op, _)] _ => if op.head?.isSome then none else some (.unsupportedComparison op.kind)
  | .compare _ _ _ => some .chainedComparison
  | .subscript _ _ _ => none
  | .starred _ _ => some (.unsupportedSyntax "Starred")
  | .other kind _ _ => some (.unsupportedSyntax kind)
  | .defect _ _ => none

end Expr

namespace Station

variable {π : Type}

/-- Where a station is reported. -/
def place : Station π → π
  | .node e => e.place
  | .star call => call
  | .doubleStar call => call

def objection? : Station π → Option Malformation
  | .node e => e.objection?
  | .star _ => some .starArgument
  | .doubleStar _ => some .doubleStarArgument

end Station

end Source

namespace Capture

open Source

variable {π : Type} {α β : Type} {locate : π → Except Fault Location}

/-- A computation fails with the first objection at some stations, at its place, and succeeds if there
is none. -/
def AnswersTo (locate : π → Except Fault Location) (stations : List (Station π))
    (x : Except Failure α) : Prop :=
  match stations.find? fun s => s.objection?.isSome with
  | none => ∃ a, x = .ok a
  | some s => ∃ why l, s.objection? = some why ∧ locate s.place = .ok l ∧
    x = .error (.malformed why (some l))

theorem answersTo_ok (a : α) : AnswersTo locate [] (.ok a) := ⟨a, rfl⟩

variable {x : Except Failure α} {next : α → Except Failure β} {s : Station π}
  {before after : List (Station π)}

theorem AnswersTo.cons (hs : s.objection? = none) (h : AnswersTo locate before x) :
    AnswersTo locate (s :: before) x := by
  rw [AnswersTo, List.find?_cons, hs]
  exact h

theorem answersTo_refuse {why : Malformation} {l : Location} (hs : s.objection? = some why)
    (hl : locate s.place = .ok l) : AnswersTo locate (s :: after) (refuse why l : Except Failure α) := by
  rw [AnswersTo, List.find?_cons, hs]
  exact ⟨why, l, hs, hl, rfl⟩

theorem AnswersTo.bind (h : AnswersTo locate before x)
    (hnext : ∀ a, x = .ok a → AnswersTo locate after (next a)) :
    AnswersTo locate (before ++ after) (x >>= next) := by
  rw [AnswersTo] at h ⊢
  rw [List.find?_append]
  cases hfind : before.find? fun s => s.objection?.isSome with
  | none =>
    rw [hfind] at h
    obtain ⟨a, rfl⟩ := h
    exact hnext a rfl
  | some s =>
    rw [hfind] at h
    obtain ⟨why, l, hs, hl, rfl⟩ := h
    exact ⟨why, l, hs, hl, rfl⟩

/-- A last step that cannot fail. -/
theorem AnswersTo.bind_ok (h : AnswersTo locate before x) (hnext : ∀ a, x = .ok a → ∃ b, next a = .ok b) :
    AnswersTo locate before (x >>= next) := by
  rw [← List.append_nil before]
  exact h.bind fun a ha => hnext a ha

theorem AnswersTo.succeeds_iff (h : AnswersTo locate before x) :
    (∃ a, x = .ok a) ↔ ∀ s ∈ before, s.objection? = none := by
  rw [AnswersTo] at h
  cases hfind : before.find? fun s => s.objection?.isSome with
  | none =>
    rw [hfind] at h
    simp only [List.find?_eq_none, Bool.not_eq_true, Option.isSome_eq_false_iff,
      Option.isNone_iff_eq_none] at hfind
    exact iff_of_true h hfind
  | some s =>
    rw [hfind] at h
    obtain ⟨why, l, hs, -, rfl⟩ := h
    refine iff_of_false (by simp) fun hclear => ?_
    rw [hclear s (List.mem_of_find?_eq_some hfind)] at hs
    cases hs

theorem AnswersTo.first_objection (h : AnswersTo locate before x) {f : Failure} (hf : x = .error f) :
    ∃ clear station after why l, before = clear ++ station :: after ∧
      (∀ s ∈ clear, s.objection? = none) ∧ station.objection? = some why ∧
      locate station.place = .ok l ∧ f = .malformed why (some l) := by
  rw [AnswersTo] at h
  cases hfind : before.find? fun s => s.objection?.isSome with
  | none =>
    rw [hfind, hf] at h
    obtain ⟨a, h⟩ := h
    cases h
  | some station =>
    rw [hfind, hf] at h
    obtain ⟨why, l, hs, hl, herror⟩ := h
    obtain ⟨-, clear, after, hsplit, hclear⟩ := List.find?_eq_some_iff_append.mp hfind
    refine ⟨clear, station, after, why, l, hsplit, fun s hmem => ?_, hs, hl, Except.error.inj herror⟩
    simpa using hclear s hmem

theorem answersTo_captureArgs {call : π} {l : Location} {args : List (Expr π)}
    (hl : locate call = .ok l) (hwhole : Expr.AllWhole locate args)
    (h : ∀ e ∈ args, e.Whole locate → AnswersTo locate e.stations (capture locate e)) :
    AnswersTo locate (Expr.stationsArgs call args) (captureArgs locate l args) := by
  induction args with
  | nil => exact answersTo_ok []
  | cons e rest ih =>
    rw [List.forall_mem_cons] at h
    rw [Expr.AllWhole] at hwhole
    have hrest := ih hwhole.2 h.2
    by_cases hstar : ∃ value p, e = .starred value p
    · obtain ⟨value, p, rfl⟩ := hstar
      rw [Expr.stationsArgs, captureArgs]
      exact answersTo_refuse rfl hl
    · have hplain : ∀ value p, e ≠ .starred value p := fun value p he => hstar ⟨value, p, he⟩
      rw [Expr.stationsArgs.eq_3 _ _ _ hplain, captureArgs.eq_3 _ _ _ _ hplain]
      exact (h.1 hwhole.1).bind fun a _ => hrest.bind_ok fun as _ => ⟨a :: as, rfl⟩

theorem answersTo_captureKeywords {call : π} {l : Location} {keywords : List (Option Value × Expr π)}
    (hl : locate call = .ok l) (hwhole : Expr.KeywordsWhole locate keywords)
    (h : ∀ k ∈ keywords, k.2.Whole locate → AnswersTo locate k.2.stations (capture locate k.2)) :
    AnswersTo locate (Expr.stationsKeywords call keywords) (captureKeywords locate l keywords) := by
  induction keywords with
  | nil => exact answersTo_ok []
  | cons k rest ih =>
    obtain ⟨key, e⟩ := k
    rw [List.forall_mem_cons] at h
    cases key with
    | none =>
      rw [Expr.stationsKeywords, captureKeywords]
      exact answersTo_refuse rfl hl
    | some key =>
      obtain ⟨-, hfirst, hothers⟩ := hwhole
      have hrest := ih hothers h.2
      rw [Expr.stationsKeywords, captureKeywords]
      exact (h.1 hfirst).bind fun a _ => hrest.bind_ok fun as _ => ⟨(key, a) :: as, rfl⟩

/-- Captured keywords have the names that were written. -/
theorem isName_of_captureKeywords {l : Location} {keywords : List (Option Value × Expr π)}
    {pairs : List (Value × Tree)} (hwhole : Expr.KeywordsWhole locate keywords)
    (h : captureKeywords locate l keywords = .ok pairs) : ∀ e ∈ pairs, IsName e.1 := by
  induction keywords generalizing pairs with
  | nil =>
    obtain rfl := Except.ok.inj h
    simp
  | cons k rest ih =>
    obtain ⟨key, e⟩ := k
    cases key with
    | none => cases h
    | some key =>
      obtain ⟨hkey, -, hothers⟩ := hwhole
      rw [captureKeywords] at h
      obtain ⟨a, -, h⟩ := bind_eq_ok.mp h
      obtain ⟨as, has, h⟩ := bind_eq_ok.mp h
      obtain rfl := pure_eq_ok.mp h
      rw [List.forall_mem_cons]
      exact ⟨hkey, ih hothers has⟩

/-- A call of captured arguments is built, since its names are identifiers. -/
theorem exists_build {id : Value} {args : List Tree} {pairs : List (Value × Tree)}
    (location : Option Location) (hid : IsName id) (hpairs : ∀ e ∈ pairs, IsName e.1) :
    ∃ t, Tree.build id (args.map .node) (pairs.map fun e => (e.1, .node e.2)) location = .ok t := by
  obtain ⟨head, rfl, hhead⟩ := hid
  obtain ⟨named, hnames, rfl⟩ := exists_texts_of_isName hpairs
  rw [List.map_map]
  exact ⟨_, Tree.build_text hhead hnames⟩

theorem answersTo_capture {e : Expr π} (he : e.Whole locate) :
    AnswersTo locate e.stations (capture locate e) := by
  induction e with
  | constant value p =>
    obtain ⟨l, hl⟩ := he
    simp only [capture, hl, ok_mapError, ok_bind, Expr.stations]
    cases value with
    | scalar s => exact (answersTo_ok _).cons rfl
    | other kind => exact answersTo_refuse rfl hl
  | name id p =>
    obtain ⟨⟨s, rfl, hs⟩, l, hl⟩ := he
    simp only [capture, hl, ok_mapError, ok_bind, Expr.stations, Tree.newSymbol_text hs]
    exact (answersTo_ok _).cons rfl
  | sequence isTuple items p =>
    obtain ⟨l, hl⟩ := he
    simp only [capture, hl, ok_mapError, ok_bind, Expr.stations]
    cases hitems : constants? items with
    | some ss =>
      refine (answersTo_ok _).cons ?_
      simp [Station.objection?, Expr.objection?, hitems]
    | none =>
      refine answersTo_refuse ?_ hl
      simp [Station.objection?, Expr.objection?, hitems]
  | call head args keywords p _ ihargs ihkeywords =>
    obtain ⟨hname, hargs, hkeywords, l, hl⟩ := he
    simp only [capture, hl, ok_mapError, ok_bind, Expr.stations]
    cases head with
    | name id q =>
      refine AnswersTo.cons rfl ?_
      refine (answersTo_captureArgs hl hargs ihargs).bind fun ts _ => ?_
      refine (answersTo_captureKeywords hl hkeywords ihkeywords).bind_ok fun pairs hpairs => ?_
      exact exists_build _ (hname id q rfl) (isName_of_captureKeywords hkeywords hpairs)
    | _ => exact answersTo_refuse rfl hl
  | binary op left right p ihleft ihright =>
    obtain ⟨hleft, hright, l, hl⟩ := he
    simp only [capture, hl, ok_mapError, ok_bind, Expr.stations]
    cases hop : op.head? with
    | some head =>
      refine AnswersTo.cons (by simp [Station.objection?, Expr.objection?, hop]) ?_
      exact (ihleft hleft).bind fun a _ => (ihright hright).bind_ok fun b _ => ⟨_, rfl⟩
    | none => exact answersTo_refuse (by simp [Station.objection?, Expr.objection?, hop]) hl
  | unary op operand p ihoperand =>
    obtain ⟨-, hoperand, l, hl⟩ := he
    simp only [capture, hl, ok_mapError, ok_bind, Expr.stations]
    cases hop : op.head? with
    | some head =>
      refine AnswersTo.cons (by simp [Station.objection?, Expr.objection?, hop]) ?_
      exact (ihoperand hoperand).bind_ok fun a _ => ⟨_, rfl⟩
    | none => exact answersTo_refuse (by simp [Station.objection?, Expr.objection?, hop]) hl
  | compare left rest p ihleft ihrest =>
    obtain ⟨hleft, hrest, l, hl⟩ := he
    cases rest with
    | nil =>
      simp only [capture, hl, ok_mapError, ok_bind, Expr.stations]
      exact answersTo_refuse rfl hl
    | cons first more =>
      obtain ⟨op, right⟩ := first
      cases more with
      | nil =>
        simp only [capture, hl, ok_mapError, ok_bind, Expr.stations, Expr.stationsCompared,
          List.append_nil]
        cases hop : op.head? with
        | some head =>
          refine AnswersTo.cons (by simp [Station.objection?, Expr.objection?, hop]) ?_
          have hright := ihrest (op, right) (by simp) hrest.1
          exact (ihleft hleft).bind fun a _ => hright.bind_ok fun b _ => ⟨_, rfl⟩
        | none => exact answersTo_refuse (by simp [Station.objection?, Expr.objection?, hop]) hl
      | cons second others =>
        simp only [capture, hl, ok_mapError, ok_bind, Expr.stations]
        exact answersTo_refuse rfl hl
  | subscript value index p ihvalue ihindex =>
    obtain ⟨hvalue, hindex, l, hl⟩ := he
    simp only [capture, hl, ok_mapError, ok_bind, Expr.stations]
    refine AnswersTo.cons rfl ?_
    exact (ihvalue hvalue).bind fun a _ => (ihindex hindex).bind_ok fun b _ => ⟨_, rfl⟩
  | starred value p =>
    obtain ⟨l, hl⟩ := he
    simp only [capture, hl, ok_mapError, ok_bind, Expr.stations]
    exact answersTo_refuse rfl hl
  | other kind parts p =>
    obtain ⟨l, hl⟩ := he
    simp only [capture, hl, ok_mapError, ok_bind, Expr.stations]
    exact answersTo_refuse rfl hl
  | defect fault p => exact he.elim

/-- Nothing to object to at any station. -/
def AllClear (stations : List (Station π)) : Prop := ∀ s ∈ stations, s.objection? = none

/-- All expressions among the stations are of the forms that have a tree. -/
def AllInFragment (stations : List (Station π)) : Prop :=
  ∀ e, .node e ∈ stations → Expr.InFragment e

theorem allClear_append {before after : List (Station π)} :
    AllClear (before ++ after) ↔ AllClear before ∧ AllClear after := List.forall_mem_append

theorem allClear_cons {s : Station π} {after : List (Station π)} :
    AllClear (s :: after) ↔ s.objection? = none ∧ AllClear after := List.forall_mem_cons

theorem allInFragment_append {before after : List (Station π)} :
    AllInFragment (before ++ after) ↔ AllInFragment before ∧ AllInFragment after := by
  simp only [AllInFragment, List.mem_append, or_imp, forall_and]

theorem allInFragment_node {e : Expr π} {after : List (Station π)} :
    AllInFragment (.node e :: after) ↔ e.InFragment ∧ AllInFragment after := by
  simp only [AllInFragment, List.mem_cons, Station.node.injEq, or_imp, forall_and, forall_eq]

theorem constants?_isSome_iff (items : List (Expr π)) :
    (constants? items).isSome = true ↔ ∀ item ∈ items, ∃ s p, item = .constant (.scalar s) p := by
  induction items using constants?.induct with
  | case1 => simp [constants?]
  | case2 s p rest ih => simp [constants?, ih]
  | case3 e rest hne =>
    simp only [constants?, Option.isSome_none, Bool.false_eq_true, List.forall_mem_cons, false_iff]
    rintro ⟨⟨s, p, he⟩, -⟩
    exact hne s p he

/-- The arguments of a call are clear if none is starred and they are in the fragment themselves. -/
theorem allClear_stationsArgs {call : π} {args : List (Expr π)}
    (h : ∀ e ∈ args, e.Whole locate → (AllClear e.stations ↔ AllInFragment e.stations))
    (hwhole : Expr.AllWhole locate args) :
    AllClear (Expr.stationsArgs call args) ↔
      (∀ a ∈ args, ∀ value p, a ≠ .starred value p) ∧
        AllInFragment (Expr.stationsArgs call args) := by
  induction args with
  | nil => simp [Expr.stationsArgs, AllClear, AllInFragment]
  | cons e rest ih =>
    rw [List.forall_mem_cons] at h ⊢
    have hrest := ih h.2 hwhole.2
    by_cases hstar : ∃ value p, e = .starred value p
    · obtain ⟨value, p, rfl⟩ := hstar
      rw [Expr.stationsArgs, allClear_cons]
      simp [Station.objection?]
    · have hplain : ∀ value p, e ≠ .starred value p := fun value p he => hstar ⟨value, p, he⟩
      rw [Expr.stationsArgs.eq_3 _ _ _ hplain, allClear_append, allInFragment_append, h.1 hwhole.1,
        hrest, and_iff_right hplain, and_left_comm]

theorem allClear_stationsKeywords {call : π} {keywords : List (Option Value × Expr π)}
    (h : ∀ k ∈ keywords, k.2.Whole locate → (AllClear k.2.stations ↔ AllInFragment k.2.stations))
    (hwhole : Expr.KeywordsWhole locate keywords) :
    AllClear (Expr.stationsKeywords call keywords) ↔
      (∀ k ∈ keywords, k.1 ≠ none) ∧ AllInFragment (Expr.stationsKeywords call keywords) := by
  induction keywords with
  | nil => simp [Expr.stationsKeywords, AllClear, AllInFragment]
  | cons k rest ih =>
    obtain ⟨key, e⟩ := k
    rw [List.forall_mem_cons] at h ⊢
    cases key with
    | none =>
      rw [Expr.stationsKeywords, allClear_cons]
      simp [Station.objection?]
    | some key =>
      obtain ⟨-, hfirst, hothers⟩ := hwhole
      have hkey : some key ≠ none := Option.some_ne_none key
      rw [Expr.stationsKeywords, allClear_append, allInFragment_append, h.1 hfirst,
        ih h.2 hothers, and_iff_right hkey, and_left_comm]

theorem allClear_node_iff {e : Expr π} (hself : e.objection? = none ↔ e.InFragment)
    (hafter : AllClear after ↔ AllInFragment after) :
    AllClear (.node e :: after) ↔ AllInFragment (.node e :: after) := by
  rw [allClear_cons, allInFragment_node]
  exact and_congr hself hafter

theorem allClear_append_iff (hbefore : AllClear before ↔ AllInFragment before)
    (hafter : AllClear after ↔ AllInFragment after) :
    AllClear (before ++ after) ↔ AllInFragment (before ++ after) := by
  rw [allClear_append, allInFragment_append]
  exact and_congr hbefore hafter

theorem allClear_nil_iff : AllClear ([] : List (Station π)) ↔ AllInFragment ([] : List (Station π)) := by
  simp [AllClear, AllInFragment]

theorem allClear_stationsCompared {rest : List (CompareOp × Expr π)}
    (h : ∀ c ∈ rest, c.2.Whole locate → (AllClear c.2.stations ↔ AllInFragment c.2.stations))
    (hwhole : Expr.ComparedWhole locate rest) :
    AllClear (Expr.stationsCompared rest) ↔ AllInFragment (Expr.stationsCompared rest) := by
  induction rest with
  | nil => exact allClear_nil_iff
  | cons c others ih =>
    rw [List.forall_mem_cons] at h
    exact allClear_append_iff (h.1 hwhole.1) (ih h.2 hwhole.2)

theorem objection?_unary_iff {op : UnaryOp} {operand : Expr π} {p : π}
    (hnot : op.head? = none → op = .other "Not") :
    (Expr.unary op operand p).objection? = none ↔ (Expr.unary op operand p).InFragment := by
  cases op with
  | other kind => simpa [Expr.objection?, Expr.InFragment, UnaryOp.head?] using hnot rfl
  | _ => simp [Expr.objection?, Expr.InFragment, UnaryOp.head?]

theorem objection?_compare_iff {left : Expr π} {rest : List (CompareOp × Expr π)} {p : π} :
    (Expr.compare left rest p).objection? = none ↔ (Expr.compare left rest p).InFragment := by
  cases rest with
  | nil => simp [Expr.objection?, Expr.InFragment]
  | cons first more =>
    obtain ⟨op, right⟩ := first
    cases more with
    | nil => simp [Expr.objection?, Expr.InFragment, CompareOp.head?_isSome_iff]
    | cons second others => simp [Expr.objection?, Expr.InFragment]

theorem objection?_binary_iff {op : BinaryOp} {left right : Expr π} {p : π} :
    (Expr.binary op left right p).objection? = none ↔ (Expr.binary op left right p).InFragment := by
  simp [Expr.objection?, Expr.InFragment, BinaryOp.head?_isSome_iff]

/-- There is nothing to object to exactly when all that is come upon is in the fragment. -/
theorem allClear_iff {e : Expr π} (he : e.Whole locate) :
    AllClear e.stations ↔ AllInFragment e.stations := by
  induction e with
  | constant value p =>
    refine allClear_node_iff ?_ allClear_nil_iff
    cases value <;> simp [Expr.objection?, Expr.InFragment]
  | name id p => exact allClear_node_iff (by simp [Expr.objection?, Expr.InFragment]) allClear_nil_iff
  | sequence isTuple items p =>
    refine allClear_node_iff ?_ allClear_nil_iff
    have hitems := constants?_isSome_iff items
    cases h : constants? items <;> simpa [Expr.objection?, Expr.InFragment, h] using hitems
  | call head args keywords p _ ihargs ihkeywords =>
    obtain ⟨-, hargs, hkeywords, -⟩ := he
    have hhead : (Expr.call head args keywords p).objection? = none ↔ ∃ id q, head = .name id q := by
      cases head <;> simp [Expr.objection?]
    rw [Expr.stations, allClear_cons, allInFragment_node, allClear_append, allInFragment_append,
      allClear_stationsArgs ihargs hargs, allClear_stationsKeywords ihkeywords hkeywords,
      Station.objection?, hhead, Expr.InFragment]
    constructor
    · rintro ⟨hname, ⟨hplain, hinargs⟩, hnamed, hinkeywords⟩
      exact ⟨⟨hname, hplain, hnamed⟩, hinargs, hinkeywords⟩
    · rintro ⟨⟨hname, hplain, hnamed⟩, hinargs, hinkeywords⟩
      exact ⟨hname, ⟨hplain, hinargs⟩, hnamed, hinkeywords⟩
  | binary op left right p ihleft ihright =>
    obtain ⟨hleft, hright, -⟩ := he
    exact allClear_node_iff objection?_binary_iff (allClear_append_iff (ihleft hleft) (ihright hright))
  | unary op operand p ihoperand =>
    obtain ⟨hnot, hoperand, -⟩ := he
    exact allClear_node_iff (objection?_unary_iff hnot) (ihoperand hoperand)
  | compare left rest p ihleft ihrest =>
    obtain ⟨hleft, hrest, -⟩ := he
    exact allClear_node_iff objection?_compare_iff
      (allClear_append_iff (ihleft hleft) (allClear_stationsCompared ihrest hrest))
  | subscript value index p ihvalue ihindex =>
    obtain ⟨hvalue, hindex, -⟩ := he
    exact allClear_node_iff (by simp [Expr.objection?, Expr.InFragment])
      (allClear_append_iff (ihvalue hvalue) (ihindex hindex))
  | starred value p =>
    exact allClear_node_iff (by simp [Expr.objection?, Expr.InFragment]) allClear_nil_iff
  | other kind parts p =>
    exact allClear_node_iff (by simp [Expr.objection?, Expr.InFragment]) allClear_nil_iff
  | defect fault p => exact he.elim

theorem allSupported_of_inFragment {allowed : String → Prop} {call : π} {args : List (Expr π)}
    (h : ∀ e ∈ args, e.Whole locate → AllInFragment e.stations → e.Supported allowed)
    (hwhole : Expr.AllWhole locate args) (hplain : ∀ a ∈ args, ∀ value p, a ≠ .starred value p)
    (hin : AllInFragment (Expr.stationsArgs call args)) : Expr.AllSupported allowed args := by
  induction args with
  | nil => trivial
  | cons e rest ih =>
    rw [List.forall_mem_cons] at h hplain
    rw [Expr.stationsArgs.eq_3 _ _ _ hplain.1, allInFragment_append] at hin
    exact ⟨h.1 hwhole.1 hin.1, ih h.2 hwhole.2 hplain.2 hin.2⟩

theorem keywordsSupported_of_inFragment {allowed : String → Prop} {call : π}
    {keywords : List (Option Value × Expr π)}
    (h : ∀ k ∈ keywords, k.2.Whole locate → AllInFragment k.2.stations → k.2.Supported allowed)
    (hwhole : Expr.KeywordsWhole locate keywords) (hnamed : ∀ k ∈ keywords, k.1 ≠ none)
    (hin : AllInFragment (Expr.stationsKeywords call keywords)) :
    Expr.KeywordsSupported allowed keywords := by
  induction keywords with
  | nil => trivial
  | cons k rest ih =>
    obtain ⟨key, e⟩ := k
    rw [List.forall_mem_cons] at h hnamed
    cases key with
    | none => exact absurd rfl hnamed.1
    | some key =>
      obtain ⟨⟨s, rfl, hs⟩, hfirst, hothers⟩ := hwhole
      rw [Expr.stationsKeywords, allInFragment_append] at hin
      exact ⟨hs, h.1 hfirst hin.1, ih h.2 hothers hnamed.2 hin.2⟩

/-- What is in the fragment all the way down has a tree, whatever the heads of its calls are. -/
theorem supported_of_inFragment {e : Expr π} (he : e.Whole locate) (h : AllInFragment e.stations) :
    e.Supported fun _ => True := by
  induction e with
  | constant value p =>
    obtain ⟨⟨s, rfl⟩, -⟩ := allInFragment_node.mp h
    trivial
  | name id p =>
    obtain ⟨⟨s, rfl, hs⟩, -⟩ := he
    exact hs
  | sequence isTuple items p =>
    obtain ⟨hitems, -⟩ := allInFragment_node.mp h
    exact (constants?_isSome_iff items).mpr hitems
  | call head args keywords p _ ihargs ihkeywords =>
    obtain ⟨hname, hargs, hkeywords, -⟩ := he
    obtain ⟨⟨⟨id, q, rfl⟩, hplain, hnamed⟩, hinside⟩ := allInFragment_node.mp h
    rw [allInFragment_append] at hinside
    obtain ⟨s, rfl, hs⟩ := hname id q rfl
    exact ⟨hs, trivial, allSupported_of_inFragment ihargs hargs hplain hinside.1,
      keywordsSupported_of_inFragment ihkeywords hkeywords hnamed hinside.2⟩
  | binary op left right p ihleft ihright =>
    obtain ⟨hleft, hright, -⟩ := he
    obtain ⟨hop, hinside⟩ := allInFragment_node.mp h
    rw [allInFragment_append] at hinside
    exact ⟨op.head?_isSome_iff.mpr hop, ihleft hleft hinside.1, ihright hright hinside.2⟩
  | unary op operand p ihoperand =>
    obtain ⟨hnot, hoperand, -⟩ := he
    obtain ⟨hop, hinside⟩ := allInFragment_node.mp h
    have hhead : op.head?.isSome = true := by
      rw [Option.isSome_iff_ne_none]
      exact fun hnone => hop (hnot hnone)
    exact ⟨hhead, ihoperand hoperand hinside⟩
  | compare left rest p ihleft ihrest =>
    obtain ⟨hleft, hrest, -⟩ := he
    obtain ⟨⟨op, right, rfl, hop⟩, hinside⟩ := allInFragment_node.mp h
    rw [allInFragment_append, Expr.stationsCompared, allInFragment_append] at hinside
    exact ⟨op.head?_isSome_iff.mpr hop, ihleft hleft hinside.1,
      ihrest (op, right) (List.mem_singleton_self _) hrest.1 hinside.2.1⟩
  | subscript value index p ihvalue ihindex =>
    obtain ⟨hvalue, hindex, -⟩ := he
    obtain ⟨-, hinside⟩ := allInFragment_node.mp h
    rw [allInFragment_append] at hinside
    exact ⟨ihvalue hvalue hinside.1, ihindex hindex hinside.2⟩
  | starred value p => exact (allInFragment_node.mp h).1.elim
  | other kind parts p => exact (allInFragment_node.mp h).1.elim
  | defect fault p => exact he.elim

/-- An expression is captured exactly when all that capturing comes upon is in the fragment. Otherwise
it is malformed, at the place of the first station that there is something to object to, for the reason
that there is. -/
theorem capture_accepts_fragment {e : Expr π} (he : e.Whole locate) :
    ((∃ t, capture locate e = .ok t) ↔ ∀ s, .node s ∈ e.stations → s.InFragment) ∧
      (∀ f, capture locate e = .error f → ∃ clear station after why l,
        e.stations = clear ++ station :: after ∧ (∀ s ∈ clear, s.objection? = none) ∧
          station.objection? = some why ∧ locate station.place = .ok l ∧
          f = .malformed why (some l)) := by
  refine ⟨?_, fun f hf => (answersTo_capture he).first_objection hf⟩
  change _ ↔ AllInFragment e.stations
  rw [← allClear_iff he]
  exact (answersTo_capture he).succeeds_iff

/-- `f(x, g(*y), k=a and b) + [x]`: the star is come upon before the other two faults. -/
theorem capture_accepts_fragment_star :
    let x (id : String) (p : Nat) : Expr Nat := .name (.text id) p
    let inner : Expr Nat := .call (x "g" 3) [.starred (x "y" 4) 5] [] 6
    let call : Expr Nat := .call (x "f" 1) [x "x" 2, inner]
      [(some (.text "k"), .other "BoolOp" [x "a" 7, x "b" 8] 9)] 10
    let e : Expr Nat := .binary .add call (.sequence false [x "x" 11] 12) 13
    let locate (p : Nat) : Except Fault Location :=
      .ok ⟨.int 1, .int p, .int 1, .int (p + 1), .absent⟩
    e.Whole locate ∧ (¬∃ t, capture locate e = .ok t) ∧
      capture locate e = .error (.malformed .starArgument
        (some ⟨.int 1, .int 6, .int 1, .int 7, .absent⟩)) := by
  intro x inner call e locate
  have hname : ∀ (id : String) (p : Nat), Text.isIdentifier id = true → (x id p).Whole locate :=
    fun id p h => ⟨⟨id, rfl, h⟩, _, rfl⟩
  have hhead : ∀ (f : String) (p : Nat), Text.isIdentifier f = true →
      ∀ id q, x f p = .name id q → IsName id := by
    rintro f p h id q ⟨⟩
    exact ⟨f, rfl, h⟩
  have hinner : inner.Whole locate := ⟨hhead "g" 3 (by decide), ⟨⟨_, rfl⟩, trivial⟩, trivial, _, rfl⟩
  have hcall : call.Whole locate := ⟨hhead "f" 1 (by decide), ⟨hname "x" 2 (by decide), hinner, trivial⟩,
    ⟨⟨"k", rfl, by decide⟩, ⟨_, rfl⟩, trivial⟩, _, rfl⟩
  have he : e.Whole locate := ⟨hcall, ⟨_, rfl⟩, _, rfl⟩
  refine ⟨he, ?_, rfl⟩
  rw [(capture_accepts_fragment he).1]
  intro hall
  have hfree := (hall inner (by simp [e, call, x, Expr.stations, Expr.stationsArgs, inner])).2.1
  exact hfree (.starred (x "y" 4) 5) (List.mem_singleton_self _) (x "y" 4) 5 rfl

end Capture

end ExprMarkup
