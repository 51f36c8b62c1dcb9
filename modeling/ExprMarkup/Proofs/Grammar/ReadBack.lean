import ExprMarkup.Proofs.Captured
import ExprMarkup.Proofs.Grammar.Productions

namespace ExprMarkup

namespace Source.Expr

variable {π : Type}

mutual

/-- An expression as its tree keeps it: without places, a list as a tuple, and each keyword once. -/
def plain : Expr π → Expr Unit
  | .constant value _ => .constant value ()
  | .name id _ => .name id ()
  | .sequence _ items _ => .sequence true (plainAll items) ()
  | .call head args keywords _ =>
    .call (plain head) (plainAll args)
      ((Table.ofList (plainKeywords keywords)).entries.map fun e => (some (.text e.1), e.2)) ()
  | .binary op left right _ => .binary op (plain left) (plain right) ()
  | .unary op operand _ => .unary op (plain operand) ()
  | .compare left rest _ => .compare (plain left) (plainCompared rest) ()
  | .subscript value index _ => .subscript (plain value) (plain index) ()
  | .starred value _ => .starred (plain value) ()
  | .other kind parts _ => .other kind (plainAll parts) ()
  | .defect fault _ => .defect fault ()

def plainAll : List (Expr π) → List (Expr Unit)
  | [] => []
  | e :: rest => plain e :: plainAll rest

/-- Keywords that are names. -/
def plainKeywords : List (Option Value × Expr π) → List (String × Expr Unit)
  | [] => []
  | (some (.scalar (.text key)), e) :: rest => (key, plain e) :: plainKeywords rest
  | (_, _) :: rest => plainKeywords rest

def plainCompared : List (CompareOp × Expr π) → List (CompareOp × Expr Unit)
  | [] => []
  | (op, e) :: rest => (op, plain e) :: plainCompared rest

end

end Source.Expr

namespace Grammar

open Source Capture

/-- How a call of an operator's name is written. -/
inductive Form
  | group
  | binary (s : Sign)
  | unary (s : Sign)
  | power
  | item

def forms : List (String × Form) :=
  [("group", .group), ("add", .binary .plus), ("sub", .binary .minus), ("mul", .binary .star),
   ("truediv", .binary .slash), ("floordiv", .binary .doubleSlash), ("mod", .binary .percent),
   ("matmul", .binary .at), ("pow", .power), ("getitem", .item), ("neg", .unary .minus),
   ("pos", .unary .plus), ("invert", .unary .tilde), ("eq", .binary .equal), ("ne", .binary .notEqual),
   ("lt", .binary .less), ("le", .binary .lessEqual), ("gt", .binary .greater),
   ("ge", .binary .greaterEqual)]

/-- The names that operators and groups are captured as. -/
def operatorNames : List String := forms.map Prod.fst

def arrange (head : String) (args : List (List Token)) (named : List (String × List Token)) :
    List Token :=
  match forms.lookup head, args, named with
  | some .group, [a], [] => .opening .group :: (a ++ [.closing .group])
  | some (.binary s), [a, b], [] => a ++ .sign s :: b
  | some (.unary s), [a], [] => .sign s :: a
  | some .power, [a, b], [] =>
    a ++ .sign .doubleStar :: .opening .exponent :: (b ++ [.closing .exponent])
  | some .item, [a, b], [] => a ++ .opening .index :: (b ++ [.closing .index])
  | _, args, named => .name head :: .opening .arguments :: argumentTokens args named

mutual

/-- A tree as a flat list of tokens. -/
def tokens : Tree → List Token
  | .literal value _ => [.literal value]
  | .symbol name _ => [.name name]
  | .call head args named _ => arrange head (tokensAll args) (tokensNamed named)
  | .bare _ => []

def tokensAll : List Tree → List (List Token)
  | [] => []
  | t :: rest => tokens t :: tokensAll rest

def tokensNamed : List (String × Tree) → List (String × List Token)
  | [] => []
  | (name, t) :: rest => (name, tokens t) :: tokensNamed rest

end

theorem tokens_group (t : Tree) (location : Option Location) :
    tokens (.call group [t] [] location) = .opening .group :: (tokens t ++ [.closing .group]) := rfl

theorem tokens_binary {head : String} {s : Sign} (h : forms.lookup head = some (.binary s))
    (a b : Tree) (location : Option Location) :
    tokens (.call head [a, b] [] location) = tokens a ++ .sign s :: tokens b := by
  simp [tokens, tokensAll, tokensNamed, arrange, h]

theorem tokens_unary {head : String} {s : Sign} (h : forms.lookup head = some (.unary s))
    (a : Tree) (location : Option Location) :
    tokens (.call head [a] [] location) = .sign s :: tokens a := by
  simp [tokens, tokensAll, tokensNamed, arrange, h]

/-- The level of the place that an expression's tokens fit. -/
def level {π : Type} : Expr π → Level
  | .binary .add _ _ _ | .binary .sub _ _ _ => .sum
  | .binary .mul _ _ _ | .binary .truediv _ _ _ | .binary .floordiv _ _ _ | .binary .mod _ _ _
  | .binary .matmul _ _ _ => .term
  | .binary .pow _ _ _ => .power
  | .unary _ _ _ => .factor
  | .compare _ _ _ => .comparison
  | .subscript _ _ _ => .item
  | _ => .atom

/-- The strengths that capturing compares. -/
def Level.precedence : Level → Nat
  | .comparison => 1
  | .sum => 10
  | .term => 11
  | .factor => 12
  | .power => 13
  | .item | .atom => 100

theorem precedence_eq {π : Type} (e : Expr π) : e.precedence = (level e).precedence := by
  cases e with
  | binary op left right place => cases op <;> rfl
  | _ => rfl

theorem rank_le_of_precedence_le {j k : Level} (hk : k ≠ .atom) (h : k.precedence ≤ j.precedence) :
    k.rank ≤ j.rank := by
  cases k <;> cases j <;> simp_all [Level.precedence, Level.rank]

/-- An operand fits its place as it is, or in parentheses. -/
theorem fits_wrap {j k : Level} {t : Tree} {x : Expr Unit} {grouped : Bool} (ht : Fits j (tokens t) x)
    (hgrouped : grouped = false → k.rank ≤ j.rank) : Fits k (tokens (wrap grouped t)) x := by
  cases grouped with
  | false => exact ht.mono (hgrouped rfl)
  | true =>
    have hinside : Fits .comparison (tokens t) x := ht.mono (Nat.zero_le _)
    have hgroup : Fits .atom (tokens (wrap true t)) x := fits_group hinside
    exact hgroup.mono k.rank_le

variable {π : Type} {place : π → Location}

/-- An operand that is not grouped is at least as tight as its place. -/
theorem fits_operand {k : Level} {e : Expr π} {t : Tree} {x : Expr Unit} {grouped : Bool}
    (hk : k ≠ .atom) (ht : Fits (level e) (tokens t) x)
    (hgrouped : grouped = false → k.precedence ≤ e.precedence) :
    Fits k (tokens (wrap grouped t)) x := by
  refine fits_wrap ht fun h => ?_
  have hle := hgrouped h
  rw [precedence_eq] at hle
  exact rank_le_of_precedence_le hk hle

/-- Nothing is tighter than a power but items and atoms. -/
theorem item_of_lt_precedence {e : Expr π} (h : 13 < e.precedence) :
    Level.item.precedence ≤ e.precedence := by
  rw [precedence_eq] at h ⊢
  cases hlevel : level e <;> simp_all [Level.precedence]

/-- Operators of sums and of terms, with their sign and their level. -/
theorem binary_form {op : BinaryOp} {head : String} (hhead : op.head? = some head) (hpow : op ≠ .pow) :
    ∃ k s, forms.lookup head = some (.binary s) ∧ s.binary? k = some op ∧
      op.precedence = k.precedence ∧ (k.tighter.precedence = op.precedence + 1) ∧
      ∀ (left right : Expr π) (p : π), level (.binary op left right p) = k := by
  cases op with
  | pow => exact absurd rfl hpow
  | other kind => simp [BinaryOp.head?] at hhead
  | add => exact ⟨.sum, .plus, by cases hhead; rfl, rfl, rfl, rfl, fun _ _ _ => rfl⟩
  | sub => exact ⟨.sum, .minus, by cases hhead; rfl, rfl, rfl, rfl, fun _ _ _ => rfl⟩
  | mul => exact ⟨.term, .star, by cases hhead; rfl, rfl, rfl, rfl, fun _ _ _ => rfl⟩
  | truediv => exact ⟨.term, .slash, by cases hhead; rfl, rfl, rfl, rfl, fun _ _ _ => rfl⟩
  | floordiv => exact ⟨.term, .doubleSlash, by cases hhead; rfl, rfl, rfl, rfl, fun _ _ _ => rfl⟩
  | mod => exact ⟨.term, .percent, by cases hhead; rfl, rfl, rfl, rfl, fun _ _ _ => rfl⟩
  | matmul => exact ⟨.term, .at, by cases hhead; rfl, rfl, rfl, rfl, fun _ _ _ => rfl⟩

theorem unary_form {op : UnaryOp} {head : String} (hhead : op.head? = some head) :
    ∃ s, forms.lookup head = some (.unary s) ∧ s.unary? = some op := by
  cases op with
  | neg => exact ⟨.minus, by cases hhead; rfl, rfl⟩
  | pos => exact ⟨.plus, by cases hhead; rfl, rfl⟩
  | invert => exact ⟨.tilde, by cases hhead; rfl, rfl⟩
  | other kind => simp [UnaryOp.head?] at hhead

theorem compare_form {op : CompareOp} {head : String} (hhead : op.head? = some head) :
    ∃ s, forms.lookup head = some (.binary s) ∧ s.compare? = some op := by
  cases op with
  | eq => exact ⟨.equal, by cases hhead; rfl, rfl⟩
  | ne => exact ⟨.notEqual, by cases hhead; rfl, rfl⟩
  | lt => exact ⟨.less, by cases hhead; rfl, rfl⟩
  | le => exact ⟨.lessEqual, by cases hhead; rfl, rfl⟩
  | gt => exact ⟨.greater, by cases hhead; rfl, rfl⟩
  | ge => exact ⟨.greaterEqual, by cases hhead; rfl, rfl⟩
  | other kind => simp [CompareOp.head?] at hhead

theorem fits_captured_binary {op : BinaryOp} {head : String} {left right : Expr π} {p : π}
    (hhead : op.head? = some head)
    (hleft : Fits (level left) (tokens (captured place left)) left.plain)
    (hright : Fits (level right) (tokens (captured place right)) right.plain) :
    Fits (level (.binary op left right p)) (tokens (captured place (.binary op left right p)))
      (Expr.plain (.binary op left right p)) := by
  rw [captured, hhead, Option.getD_some, Expr.plain]
  by_cases hpow : op = .pow
  · subst hpow
    obtain rfl : "pow" = head := Option.some.inj hhead
    have hbase : Fits .item (tokens (wrap (BinaryOp.groupsLeft .pow left) (captured place left)))
        left.plain := by
      refine fits_operand (by decide) hleft fun h => item_of_lt_precedence ?_
      have hnot : ¬left.precedence ≤ 13 := of_decide_eq_false h
      omega
    exact fits_power hbase (hright.mono (Nat.zero_le _))
  · obtain ⟨k, s, hform, hs, hk, htighter, hlevel⟩ := binary_form (π := π) hhead hpow
    rw [hlevel, tokens_binary hform]
    have hka : k ≠ .atom := by rcases level_of_binary? hs with rfl | rfl <;> decide
    have hkt : k.tighter ≠ .atom := by rcases level_of_binary? hs with rfl | rfl <;> decide
    refine fits_binary hs (fits_operand hka hleft ?_) (fits_operand hkt hright ?_)
    · intro h
      simp only [BinaryOp.groupsLeft, hpow, if_false, decide_eq_false_iff_not] at h
      omega
    · intro h
      simp only [BinaryOp.groupsRight, hpow, if_false, decide_eq_false_iff_not] at h
      omega

theorem fits_captured_unary {op : UnaryOp} {head : String} {operand : Expr π} {p : π}
    (hhead : op.head? = some head)
    (hoperand : Fits (level operand) (tokens (captured place operand)) operand.plain) :
    Fits .factor (tokens (captured place (.unary op operand p)))
      (Expr.plain (.unary op operand p)) := by
  obtain ⟨s, hform, hs⟩ := unary_form hhead
  rw [captured, hhead, Option.getD_some, Expr.plain, tokens_unary hform]
  refine fits_unary hs (fits_operand (by decide) hoperand ?_)
  intro h
  exact Nat.le_of_not_lt (of_decide_eq_false h)

theorem fits_captured_compare {op : CompareOp} {head : String} {left right : Expr π} {p : π}
    (hhead : op.head? = some head)
    (hleft : Fits (level left) (tokens (captured place left)) left.plain)
    (hright : Fits (level right) (tokens (captured place right)) right.plain) :
    Fits .comparison (tokens (captured place (.compare left [(op, right)] p)))
      (Expr.plain (.compare left [(op, right)] p)) := by
  obtain ⟨s, hform, hs⟩ := compare_form hhead
  rw [captured, hhead, Option.getD_some, Expr.plain, Expr.plainCompared, Expr.plainCompared,
    tokens_binary hform]
  have hsum : ∀ e : Expr π, decide (e.precedence ≤ comparePrecedence) = false →
      Level.sum.precedence ≤ e.precedence := by
    intro e h
    rw [decide_eq_false_iff_not, precedence_eq, comparePrecedence] at h
    rw [precedence_eq]
    cases hlevel : level e <;> simp_all [Level.precedence]
  exact fits_compare hs (fits_operand (by decide) hleft (hsum left))
    (fits_operand (by decide) hright (hsum right))

theorem fits_captured_subscript {value index : Expr π} {p : π}
    (hvalue : Fits (level value) (tokens (captured place value)) value.plain)
    (hindex : Fits (level index) (tokens (captured place index)) index.plain) :
    Fits .item (tokens (captured place (.subscript value index p)))
      (Expr.plain (.subscript value index p)) := by
  have hitem : Fits .item (tokens (wrap (value.precedence < atomPrecedence) (captured place value)))
      value.plain := by
    refine fits_operand (by decide) hvalue ?_
    intro h
    exact Nat.le_of_not_lt (of_decide_eq_false h)
  rw [captured, Expr.plain]
  exact fits_subscript hitem (hindex.mono (Nat.zero_le _))

theorem tokensNamed_eq_map (named : List (String × Tree)) :
    tokensNamed named = named.map fun e => (e.1, tokens e.2) := by
  induction named with
  | nil => rfl
  | cons e rest ih => rw [tokensNamed, ih, List.map_cons]

/-- A call whose head is no operator's name. -/
theorem fits_captured_call {head : String} {args : List (Expr π)}
    {keywords : List (Option Value × Expr π)} {q p : π} (hhead : head ∉ operatorNames)
    {positional : List (List Token × Expr Unit)} {named : List (String × List Token × Expr Unit)}
    (hargs : positional.map Prod.fst = tokensAll (capturedAll place args))
    (hplainArgs : positional.map Prod.snd = Expr.plainAll args)
    (hnamed : named.map (fun e => (e.1, e.2.1)) = tokensNamed (capturedKeywords place keywords))
    (hplainNamed : named.map (fun e => (e.1, e.2.2)) = Expr.plainKeywords keywords)
    (hfits : ∀ a ∈ positional, Fits .comparison a.1 a.2)
    (hfitsNamed : ∀ e ∈ named, Fits .comparison e.2.1 e.2.2) :
    Fits .atom (tokens (captured place (.call (.name (.text head) q) args keywords p)))
      (Expr.plain (.call (.name (.text head) q) args keywords p)) := by
  have hlookup : forms.lookup head = none := by
    rw [List.lookup_eq_none_iff]
    intro e he
    rw [bne_iff_ne]
    rintro rfl
    exact hhead (List.mem_map_of_mem he)
  have htokens : tokensNamed (Table.ofList (capturedKeywords place keywords)).entries =
      (Table.ofList named).entries.map fun e => (e.1, e.2.1) := by
    calc tokensNamed (Table.ofList (capturedKeywords place keywords)).entries
        = ((Table.ofList (capturedKeywords place keywords)).map tokens).entries :=
          tokensNamed_eq_map _
      _ = (Table.ofList (named.map fun e => (e.1, e.2.1))).entries := by
          rw [← Table.ofList_map, hnamed, tokensNamed_eq_map]
      _ = (Table.ofList named).entries.map fun e => (e.1, e.2.1) := by
          rw [Table.ofList_map Prod.fst named]
          rfl
  have hplain : (Table.ofList (Expr.plainKeywords keywords)).entries =
      (Table.ofList named).entries.map fun e => (e.1, e.2.2) := by
    rw [← hplainNamed, Table.ofList_map Prod.snd named]
    rfl
  have hfolded : ∀ e ∈ (Table.ofList named).entries, Fits .comparison e.2.1 e.2.2 :=
    fun e he => hfitsNamed e (Table.mem_ofList he)
  have hcall := fits_call head hfits hfolded
  rw [hargs, hplainArgs, ← htokens] at hcall
  simpa [captured, tokens, arrange, hlookup, Expr.plain, hplain, Function.comp_def] using hcall

theorem plainAll_of_constants {items : List (Expr π)} {ss : List Scalar}
    (h : constants? items = some ss) : Expr.plainAll items = ss.map constant := by
  fun_induction constants? items generalizing ss with
  | case1 =>
    obtain rfl : [] = ss := by simpa using h
    rfl
  | case2 s p rest ih =>
    obtain ⟨others, hothers, rfl⟩ := Option.map_eq_some_iff.mp h
    rw [Expr.plainAll, ih hothers]
    rfl
  | case3 e rest hne => simp at h

theorem fits_capturedAll {args : List (Expr π)}
    (h : ∀ e ∈ args, Fits (level e) (tokens (captured place e)) e.plain) :
    ∃ positional : List (List Token × Expr Unit),
      positional.map Prod.fst = tokensAll (capturedAll place args) ∧
      positional.map Prod.snd = Expr.plainAll args ∧
      ∀ a ∈ positional, Fits .comparison a.1 a.2 := by
  induction args with
  | nil => exact ⟨[], rfl, rfl, by simp⟩
  | cons e rest ih =>
    rw [List.forall_mem_cons] at h
    obtain ⟨positional, htokens, hplain, hfits⟩ := ih h.2
    refine ⟨(tokens (captured place e), e.plain) :: positional, ?_, ?_, ?_⟩
    · rw [List.map_cons, htokens, capturedAll, tokensAll]
    · rw [List.map_cons, hplain, Expr.plainAll]
    · rw [List.forall_mem_cons]
      exact ⟨h.1.mono (Nat.zero_le _), hfits⟩

theorem fits_capturedKeywords {keywords : List (String × Expr π)}
    (h : ∀ k ∈ keywords, Fits (level k.2) (tokens (captured place k.2)) k.2.plain) :
    ∃ named : List (String × List Token × Expr Unit),
      named.map (fun e => (e.1, e.2.1)) =
        tokensNamed (capturedKeywords place (keywords.map Expr.keyword)) ∧
      named.map (fun e => (e.1, e.2.2)) = Expr.plainKeywords (keywords.map Expr.keyword) ∧
      ∀ e ∈ named, Fits .comparison e.2.1 e.2.2 := by
  induction keywords with
  | nil => exact ⟨[], rfl, rfl, by simp⟩
  | cons k rest ih =>
    rw [List.forall_mem_cons] at h
    obtain ⟨named, htokens, hplain, hfits⟩ := ih h.2
    refine ⟨(k.1, tokens (captured place k.2), k.2.plain) :: named, ?_, ?_, ?_⟩
    · rw [List.map_cons, htokens, List.map_cons, Expr.keyword, capturedKeywords, tokensNamed]
    · rw [List.map_cons, hplain, List.map_cons, Expr.keyword, Expr.plainKeywords]
    · rw [List.forall_mem_cons]
      exact ⟨h.1.mono (Nat.zero_le _), hfits⟩

/-- The tokens of a captured expression fit a place of its level, and are read as it there. -/
theorem fits_captured {e : Expr π} (he : e.Supported (· ∉ operatorNames)) :
    Fits (level e) (tokens (captured place e)) e.plain := by
  induction e, he using Expr.Supported.induction with
  | constant s p => exact fits_literal (.scalar s)
  | name id p => exact fits_name id
  | sequence isTuple items ss p he hss =>
    rw [captured, hss, Option.getD_some, Expr.plain, plainAll_of_constants hss]
    exact fits_literal (.sequence ss)
  | call f q args named p he _ hf hargs hnamed =>
    obtain ⟨positional, hpositional, hplainArgs, hfits⟩ :=
      fits_capturedAll fun e he => (hargs e he).2
    obtain ⟨pairs, hpairs, hplainPairs, hfitsPairs⟩ :=
      fits_capturedKeywords fun k hk => (hnamed k hk).2.2
    exact fits_captured_call hf hpositional hplainArgs hpairs hplainPairs hfits hfitsPairs
  | binary op head left right p he _ _ hhead hleft hright =>
    exact fits_captured_binary hhead hleft hright
  | unary op head operand p he _ hhead hoperand => exact fits_captured_unary hhead hoperand
  | compare op head left right p he _ _ hhead hleft hright =>
    exact fits_captured_compare hhead hleft hright
  | subscript value index p he _ _ hvalue hindex => exact fits_captured_subscript hvalue hindex

/-- An expression is read back from the flat tokens of its tree, and it has one. -/
theorem read_capture {locate : π → Except Fault Location} {e : Expr π}
    (he : e.Supported (· ∉ operatorNames)) :
    (∀ t, capture locate e = .ok t → read (tokens t) = some e.plain) ∧
      ((∀ p, ∃ l, locate p = .ok l) → ∃ t, capture locate e = .ok t) := by
  constructor
  · intro t ht
    have hfits : Fits (level e) (tokens (captured (placed locate) e)) e.plain := fits_captured he
    rw [captured_of_capture he ht] at hfits
    exact read_fits (hfits.mono (Nat.zero_le _))
  · intro hlocate
    obtain ⟨place, hplace⟩ := Classical.axiomOfChoice hlocate
    exact ⟨captured place e, capture_eq_captured hplace he⟩

/-- `((-x) ** (a - (b - c)))[i < (j < k)] * -(f(n=a + 1, n=-y) @ [1, 2])[0]`, of whose two keywords the
tree keeps one. -/
theorem read_capture_nested :
    let x (id : String) : Expr Nat := .name (.text id) 0
    let base : Expr Nat := .unary .neg (x "x") 1
    let exponent : Expr Nat := .binary .sub (x "a") (.binary .sub (x "b") (x "c") 2) 3
    let index : Expr Nat := .compare (x "i") [(.lt, .compare (x "j") [(.lt, x "k")] 4)] 5
    let call : Expr Nat := .call (x "f") [] [(some (.text "n"), .binary .add (x "a")
      (.constant (.scalar (.int 1)) 6) 7), (some (.text "n"), .unary .neg (x "y") 8)] 9
    let pair : Expr Nat :=
      .sequence false [.constant (.scalar (.int 1)) 10, .constant (.scalar (.int 2)) 11] 12
    let e : Expr Nat := .binary .mul (.subscript (.binary .pow base exponent 13) index 14)
      (.unary .neg (.subscript (.binary .matmul call pair 15) (.constant (.scalar (.int 0)) 16) 17) 18)
      19
    let locate (p : Nat) : Except Fault Location :=
      .ok ⟨.int 1, .int p, .int 1, .int (p + 1), .absent⟩
    e.Supported (· ∉ operatorNames) ∧
      ∃ t, capture locate e = .ok t ∧ read (tokens t) = some e.plain := by
  intro x base exponent index call pair e locate
  have he : e.Supported (· ∉ operatorNames) := by
    simp only [e, base, exponent, index, call, pair, x, Expr.Supported, Expr.AllSupported,
      Expr.KeywordsSupported]
    decide
  obtain ⟨hread, hsome⟩ := @read_capture Nat locate e he
  obtain ⟨t, ht⟩ := hsome fun p => ⟨_, rfl⟩
  exact ⟨he, t, ht, hread t ht⟩

end Grammar

end ExprMarkup
