import ExprMarkup.Proofs.Grammar.ReadBack

namespace ExprMarkup

namespace Source.Expr

variable {π : Type}

mutual

/-- The number of operands in an expression that are grouped. -/
def groups : Expr π → Nat
  | .call _ args keywords _ => groupsAll args + groupsKeywords keywords
  | .binary op left right _ =>
    groups left + (op.groupsLeft left).toNat + (groups right + (op.groupsRight right).toNat)
  | .unary _ operand _ => groups operand + (decide (operand.precedence < unaryPrecedence)).toNat
  | .compare left [(_, right)] _ =>
    groups left + (decide (left.precedence ≤ comparePrecedence)).toNat +
      (groups right + (decide (right.precedence ≤ comparePrecedence)).toNat)
  | .subscript value index _ =>
    groups value + (decide (value.precedence < atomPrecedence)).toNat + groups index
  | _ => 0

def groupsAll : List (Expr π) → Nat
  | [] => 0
  | e :: rest => groups e + groupsAll rest

def groupsKeywords : List (Option Value × Expr π) → Nat
  | [] => 0
  | (_, e) :: rest => groups e + groupsKeywords rest

end

end Source.Expr

namespace Grammar

open Source Capture

variable {π : Type}

/-- Whether an expression binds more loosely than a place of a level asks for. -/
def looser (k : Level) (e : Expr π) : Bool := e.precedence < k.precedence

theorem looser_of_level_le {k : Level} {e : Expr π} (h : k.precedence ≤ (level e).precedence) :
    looser k e = false := by
  rw [looser, precedence_eq, decide_eq_false_iff_not]
  exact Nat.not_lt.mpr h

theorem looser_mono {j k : Level} (h : j.precedence ≤ k.precedence) (e : Expr π) :
    (looser j e).toNat ≤ (looser k e).toNat := by
  cases hj : looser j e with
  | false => exact Nat.zero_le _
  | true =>
    have hlt : e.precedence < j.precedence := of_decide_eq_true hj
    have hk : looser k e = true := decide_eq_true (Nat.lt_of_lt_of_le hlt h)
    exact Nat.le_of_eq (congrArg Bool.toNat hk.symm)

/-- No expression is too loose for a comparison's place. -/
theorem looser_comparison (e : Expr π) : looser .comparison e = false :=
  looser_of_level_le (by cases level e <;> decide)

/-- No strength lies between those of a level and of the next tighter one. -/
theorem le_iff_looser_tighter {k : Level} (hk : k.precedence < k.tighter.precedence) (e : Expr π) :
    decide (e.precedence ≤ k.precedence) = looser k.tighter e := by
  rw [looser, precedence_eq, decide_eq_decide]
  cases k <;> cases level e <;> simp_all [Level.precedence, Level.tighter]

/-- An operator that a sign stands for at a level has the strength of the level. -/
theorem precedence_of_binary? {op : BinaryOp} {s : Sign} {k : Level} (hs : s.binary? k = some op) :
    op ≠ .pow ∧ op.precedence = k.precedence ∧
      ∀ (left right : Expr π) (p : π), level (.binary op left right p) = k := by
  cases k <;> cases s <;> simp [Sign.binary?] at hs <;> subst hs <;>
    exact ⟨by decide, rfl, fun _ _ _ => rfl⟩

theorem groupsLeft_eq_looser {op : BinaryOp} {s : Sign} {k : Level} (hs : s.binary? k = some op)
    (left : Expr π) : op.groupsLeft left = looser k left := by
  obtain ⟨hpow, hk, -⟩ := precedence_of_binary? (π := π) hs
  rw [BinaryOp.groupsLeft, if_neg hpow, hk, looser]

theorem groupsRight_eq_looser {op : BinaryOp} {s : Sign} {k : Level} (hs : s.binary? k = some op)
    (right : Expr π) : op.groupsRight right = looser k.tighter right := by
  obtain ⟨hpow, hk, -⟩ := precedence_of_binary? (π := π) hs
  have hlt : k.precedence < k.tighter.precedence := by
    rcases level_of_binary? hs with rfl | rfl <;> decide
  rw [BinaryOp.groupsRight, if_neg hpow, hk, le_iff_looser_tighter hlt]

theorem groupsLeft_pow (base : Expr π) : BinaryOp.groupsLeft .pow base = looser .item base :=
  le_iff_looser_tighter (k := .power) (by decide) base

theorem groups_compared (e : Expr π) :
    decide (e.precedence ≤ comparePrecedence) = looser .sum e :=
  le_iff_looser_tighter (k := .comparison) (by decide) e

/-- The parentheses that an expression takes in a place of a level: those of its operands, and a pair
around it if it is too loose for the place. -/
def need (k : Level) (e : Expr π) : Nat := e.groups + (looser k e).toNat

theorem need_mono {j k : Level} (h : j.precedence ≤ k.precedence) (e : Expr π) :
    need j e ≤ need k e :=
  Nat.add_le_add_left (looser_mono h e) _

theorem need_of_level {k : Level} {e : Expr π} (h : level e = k) : need k e = e.groups := by
  rw [need, looser_of_level_le (Nat.le_of_eq (by rw [h]))]
  rfl

theorem need_comparison (e : Expr π) : need .comparison e = e.groups := by
  rw [need, looser_comparison]
  rfl

theorem need_le_comparison (k : Level) (e : Expr π) : need k e ≤ need .comparison e + 1 := by
  rw [need_comparison]
  exact Nat.add_le_add_left (Bool.toNat_le _) _

theorem need_binary {op : BinaryOp} {s : Sign} {k : Level} (hs : s.binary? k = some op)
    (left right : Expr π) (p : π) :
    need k (.binary op left right p) = need k left + need k.tighter right := by
  obtain ⟨-, -, hlevel⟩ := precedence_of_binary? (π := π) hs
  rw [need_of_level (hlevel left right p), Expr.groups, groupsLeft_eq_looser hs, groupsRight_eq_looser hs]
  rfl

theorem need_pow (base exponent : Expr π) (p : π) :
    need .power (.binary .pow base exponent p) = need .item base + need .comparison exponent := by
  have hlevel : level (.binary .pow base exponent p) = .power := rfl
  rw [need_of_level hlevel, Expr.groups, groupsLeft_pow, need_comparison]
  rfl

theorem need_unary (op : UnaryOp) (operand : Expr π) (p : π) :
    need .factor (.unary op operand p) = need .factor operand := by
  have hlevel : level (.unary op operand p) = .factor := rfl
  rw [need_of_level hlevel, Expr.groups]
  rfl

theorem need_compare (op : CompareOp) (left right : Expr π) (p : π) :
    need .comparison (.compare left [(op, right)] p) = need .sum left + need .sum right := by
  rw [need_comparison, Expr.groups, groups_compared, groups_compared]
  rfl

theorem need_subscript (value index : Expr π) (p : π) :
    need .item (.subscript value index p) = need .item value + need .comparison index := by
  have hlevel : level (.subscript value index p) = .item := rfl
  rw [need_of_level hlevel, Expr.groups, need_comparison]
  rfl

/-- The number of opening parentheses. -/
def openings (text : List Token) : Nat := text.count (.opening .group)

@[simp] theorem openings_nil : openings [] = 0 := rfl

@[simp] theorem openings_append (a b : List Token) : openings (a ++ b) = openings a + openings b :=
  List.count_append

@[simp] theorem openings_group (text : List Token) :
    openings (.opening .group :: text) = openings text + 1 :=
  List.count_cons_self

theorem openings_cons {t : Token} (h : t ≠ .opening .group) (text : List Token) :
    openings (t :: text) = openings text :=
  List.count_cons_of_ne h

/-- What is found costs no more, with the parentheses that are left, than a budget. -/
def Within {α : Type} (cost : α → Nat) (budget : Nat) (found : Option (α × List Token)) : Prop :=
  ∀ a rest, found = some (a, rest) → cost a + openings rest ≤ budget

theorem within_none {α : Type} {cost : α → Nat} {budget : Nat} : Within cost budget none := by
  intro a rest h
  cases h

theorem within_some {α : Type} {cost : α → Nat} {budget : Nat} {a : α} {rest : List Token}
    (h : cost a + openings rest ≤ budget) : Within cost budget (some (a, rest)) := by
  rintro a rest ⟨⟩
  exact h

theorem Within.bind {α β : Type} {cost : α → Nat} {cost' : β → Nat} {budget budget' : Nat}
    {found : Option (α × List Token)} {next : α × List Token → Option (β × List Token)}
    (h : Within cost budget found)
    (hnext : ∀ a rest, cost a + openings rest ≤ budget → Within cost' budget' (next (a, rest))) :
    Within cost' budget' (found.bind next) := by
  intro b rest hb
  obtain ⟨⟨a, left⟩, hfound, hb⟩ := Option.bind_eq_some_iff.mp hb
  exact hnext a left (h a left hfound) b rest hb

theorem Within.mono {α : Type} {cost : α → Nat} {budget budget' : Nat}
    {found : Option (α × List Token)} (h : Within cost budget found) (hbudget : budget ≤ budget') :
    Within cost budget' found :=
  fun a rest ha => Nat.le_trans (h a rest ha) hbudget

theorem within_dite {α : Type} {c : Prop} [Decidable c] {cost : α → Nat} {budget : Nat}
    {found : c → Option (α × List Token)} (h : ∀ hc, Within cost budget (found hc)) :
    Within cost budget (if hc : c then found hc else none) := by
  by_cases hc : c
  · rw [dif_pos hc]
    exact h hc
  · rw [dif_neg hc]
    exact within_none

/-- The level of the operand that reading at a level goes on from. Sums, terms and items go on from what
they have already read of their own level. -/
def Level.first : Level → Level
  | .comparison => .sum
  | .power => .item
  | k => k

theorem need_le_first (k : Level) (e : Expr π) : need k e ≤ need k.first e :=
  need_mono (by cases k <;> decide) e

theorem need_first_le (k : Level) (e : Expr π) : need k.first e ≤ need k.tighter e :=
  need_mono (by cases k <;> decide) e

theorem leading?_eq_some {α : Type} {operator? : Sign → Option α} {text rest : List Token} {op : α}
    (h : leading? operator? text = some (op, rest)) :
    ∃ s, text = .sign s :: rest ∧ operator? s = some op := by
  unfold leading? at h
  split at h
  · next s more =>
    obtain ⟨own, hs, heq⟩ := Option.map_eq_some_iff.mp h
    cases heq
    exact ⟨s, rfl, hs⟩
  · cases h

theorem before?_eq_some {k : Level} {text rest : List Token} {op : UnaryOp}
    (h : k.before? text = some (op, rest)) :
    k = .factor ∧ ∃ s, text = .sign s :: rest ∧ s.unary? = some op := by
  cases k with
  | factor => exact ⟨rfl, leading?_eq_some h⟩
  | _ => cases h

/-- What the arguments of a call cost together. -/
def needArguments (found : List (Expr π) × List (Option Value × Expr π)) : Nat :=
  Expr.groupsAll found.1 + Expr.groupsKeywords found.2

theorem within_unary {s : Sign} {op : UnaryOp} {rest : List Token} (hs : s.unary? = some op)
    (h : Within (need .factor) (openings rest) (readAt .factor rest)) :
    Within (need .factor) (openings (.sign s :: rest)) (readAt .factor (.sign s :: rest)) := by
  have hsign : Level.factor.before? (.sign s :: rest) = some (op, rest) := by
    simp [Level.before?, leading?, hs]
  rw [readAt, dif_neg (by decide), hsign, openings_cons (by simp)]
  refine within_dite fun _ => h.bind fun operand after hoperand => within_some ?_
  rw [need_unary]
  exact hoperand

theorem within_tighter {k : Level} {text : List Token} (hatom : k ≠ .atom)
    (hbefore : k.before? text = none)
    (h : Within (need k.tighter) (openings text) (readAt k.tighter text))
    (hmore : ∀ e rest, rest.length ≤ text.length →
      Within (need k) (need k.first e + openings rest) (readMore k e rest)) :
    Within (need k) (openings text) (readAt k text) := by
  rw [readAt, dif_neg hatom, hbefore]
  refine h.bind fun e rest he => within_dite fun hleft => (hmore e rest hleft).mono ?_
  have hfirst := need_first_le k e
  omega

theorem within_stopped {k : Level} {e : Expr Unit} {text : List Token}
    (h : readMore k e text = some (e, text)) :
    Within (need k) (need k.first e + openings text) (readMore k e text) := by
  rw [h]
  exact within_some (Nat.add_le_add_right (need_le_first k e) _)

theorem within_compare {s : Sign} {op : CompareOp} {e : Expr Unit} {rest : List Token}
    (hs : s.compare? = some op) (h : Within (need .sum) (openings rest) (readAt .sum rest)) :
    Within (need .comparison) (need .sum e + openings (.sign s :: rest))
      (readMore .comparison e (.sign s :: rest)) := by
  have hsign : leading? Sign.compare? (.sign s :: rest) = some (op, rest) := by simp [leading?, hs]
  rw [readMore, hsign, openings_cons (by simp)]
  refine within_dite fun _ => h.bind fun right after hright => within_some ?_
  rw [need_compare, Nat.add_assoc]
  exact Nat.add_le_add_left hright _

theorem within_power {e : Expr Unit} {rest : List Token}
    (h : Within (need .comparison) (openings rest) (readEnclosed .exponent rest)) :
    Within (need .power) (need .item e + openings (.sign .doubleStar :: .opening .exponent :: rest))
      (readMore .power e (.sign .doubleStar :: .opening .exponent :: rest)) := by
  rw [readMore, openings_cons (by simp), openings_cons (by simp)]
  refine h.bind fun exponent after hexponent => within_some ?_
  rw [need_pow, Nat.add_assoc]
  exact Nat.add_le_add_left hexponent _

theorem within_index {e : Expr Unit} {rest : List Token}
    (h : Within (need .comparison) (openings rest) (readEnclosed .index rest))
    (hmore : ∀ index after, after.length ≤ rest.length → Within (need .item)
      (need .item (.subscript e index ()) + openings after)
      (readMore .item (.subscript e index ()) after)) :
    Within (need .item) (need .item e + openings (.opening .index :: rest))
      (readMore .item e (.opening .index :: rest)) := by
  rw [readMore, openings_cons (by simp)]
  refine h.bind fun index after hindex => within_dite fun hleft => (hmore index after hleft).mono ?_
  rw [need_subscript, Nat.add_assoc]
  exact Nat.add_le_add_left hindex _

theorem within_binary {k : Level} {s : Sign} {op : BinaryOp} {e : Expr Unit} {rest : List Token}
    (hs : s.binary? k = some op) (h : Within (need k.tighter) (openings rest) (readAt k.tighter rest))
    (hmore : ∀ right after, after.length ≤ rest.length → Within (need k)
      (need k (.binary op e right ()) + openings after) (readMore k (.binary op e right ()) after)) :
    Within (need k) (need k e + openings (.sign s :: rest)) (readMore k e (.sign s :: rest)) := by
  rw [readMore_binary hs, openings_cons (by simp)]
  refine h.bind fun right after hright => within_dite fun hleft => (hmore right after hleft).mono ?_
  rw [need_binary hs, Nat.add_assoc]
  exact Nat.add_le_add_left hright _

theorem within_enclosed {d : Delimiter} {text : List Token}
    (h : Within (need .comparison) (openings text) (readAt .comparison text)) :
    Within (need .comparison) (openings text) (readEnclosed d text) := by
  rw [readEnclosed]
  refine h.bind fun e rest he => ?_
  dsimp only
  split
  · next d' more =>
    rw [openings_cons (by simp)] at he
    exact within_dite fun _ => within_some he
  · exact within_none

/-- Parentheses pay for an expression that would be too loose without them. -/
theorem within_group {rest : List Token}
    (h : Within (need .comparison) (openings rest) (readEnclosed .group rest)) :
    Within (need .atom) (openings (.opening .group :: rest)) (readAtom (.opening .group :: rest)) := by
  rw [readAtom, openings_group]
  intro e after he
  have hinside := h e after he
  have hneed := need_le_comparison .atom e
  omega

theorem need_literal (value : Literal) : need .atom (literal value) = 0 := by
  cases value <;> rfl

theorem within_call {id : String} {rest : List Token}
    (h : Within needArguments (openings rest) (readArguments rest)) :
    Within (need .atom) (openings (.name id :: .opening .arguments :: rest))
      (readAtom (.name id :: .opening .arguments :: rest)) := by
  rw [readAtom, openings_cons (by simp), openings_cons (by simp)]
  exact h.bind fun found after hfound => within_some hfound

theorem within_argument {key : Option String} {rest : List Token}
    (h : Within (need .comparison) (openings rest) (readAt .comparison rest))
    (hmore : ∀ after, after.length ≤ rest.length →
      Within needArguments (openings after) (readArguments after)) :
    Within needArguments (openings (.argument key :: rest)) (readArguments (.argument key :: rest)) := by
  rw [openings_cons (by simp)]
  cases key with
  | none =>
    rw [readArguments]
    refine h.bind fun e after he => within_dite fun hleft =>
      (hmore after hleft).bind fun found last hfound => within_some ?_
    rw [need_comparison] at he
    simp only [needArguments, Expr.groupsAll] at hfound ⊢
    omega
  | some key =>
    rw [readArguments]
    refine h.bind fun e after he => within_dite fun hleft =>
      (hmore after hleft).bind fun found last hfound => within_some ?_
    rw [need_comparison] at he
    simp only [needArguments, Expr.groupsKeywords] at hfound ⊢
    omega

/-- Each reader gets parentheses for all the groups that its expression needs. -/
theorem within_readers :
    (∀ k text, Within (need k) (openings text) (readAt k text)) ∧
      (∀ k e text, Within (need k) (need k.first e + openings text) (readMore k e text)) ∧
      (∀ d text, Within (need .comparison) (openings text) (readEnclosed d text)) ∧
      (∀ text, Within (need .atom) (openings text) (readAtom text)) ∧
      ∀ text, Within needArguments (openings text) (readArguments text) := by
  apply readAt.mutual_induct
    (fun k text => Within (need k) (openings text) (readAt k text))
    (fun k e text => Within (need k) (need k.first e + openings text) (readMore k e text))
    (fun d text => Within (need .comparison) (openings text) (readEnclosed d text))
    (fun text => Within (need .atom) (openings text) (readAtom text))
    (fun text => Within needArguments (openings text) (readArguments text))
  · intro text h
    rw [readAt, dif_pos rfl]
    exact h
  · intro k text hatom op rest hbefore _ h
    obtain ⟨rfl, s, rfl, hs⟩ := before?_eq_some hbefore
    exact within_unary hs h
  · intro k text hatom op rest hbefore hleft
    obtain ⟨rfl, s, rfl, hs⟩ := before?_eq_some hbefore
    exact absurd (Nat.lt_succ_self _) hleft
  · intro k text hatom hbefore h hmore
    exact within_tighter hatom hbefore h hmore
  · intro e text op rest hsign _ h
    obtain ⟨s, rfl, hs⟩ := leading?_eq_some hsign
    exact within_compare hs h
  · intro e text op rest hsign hleft
    obtain ⟨s, rfl, hs⟩ := leading?_eq_some hsign
    exact absurd (Nat.lt_succ_self _) hleft
  · intro e text hsign
    exact within_stopped (by rw [readMore, hsign])
  · intro e rest h
    exact within_power h
  · intro e text hother
    exact within_stopped (by rw [readMore]; exact hother)
  · intro e rest h hmore
    exact within_index h hmore
  · intro e text hother
    exact within_stopped (by rw [readMore]; exact hother)
  · intro e text k hcomparison hpower hitem op rest hsign _ h hmore
    obtain ⟨s, rfl, hs⟩ := leading?_eq_some hsign
    have hfirst : k.first = k := by cases k <;> first | rfl | contradiction
    rw [hfirst] at hmore ⊢
    exact within_binary hs h hmore
  · intro e text k hcomparison hpower hitem op rest hsign hleft
    obtain ⟨s, rfl, hs⟩ := leading?_eq_some hsign
    exact absurd (Nat.lt_succ_self _) hleft
  · intro e text k hcomparison hpower hitem hsign
    exact within_stopped (by cases k <;> simp_all [readMore.eq_def])
  · intro d text h
    exact within_enclosed h
  · intro value rest
    rw [readAtom, openings_cons (by simp)]
    exact within_some (Nat.le_of_eq (by rw [need_literal, Nat.zero_add]))
  · intro rest h
    exact within_group h
  · intro id rest h
    exact within_call h
  · intro id rest hname
    rw [readAtom, openings_cons (by simp)]
    · exact within_some (Nat.le_of_eq (Nat.zero_add _))
    · exact hname
  · intro text hliteral hgroup hcall hname
    rw [readAtom]
    · exact within_none
    all_goals assumption
  · intro rest
    rw [readArguments, openings_cons (by simp)]
    exact within_some (Nat.le_of_eq (Nat.zero_add _))
  · intro rest h hmore
    exact within_argument h hmore
  · intro key rest h hmore
    exact within_argument h hmore
  · intro text hclosing hpositional hkeyword
    rw [readArguments]
    · exact within_none
    all_goals assumption

/-- A list of tokens has parentheses for all the groups of the expression that it is read as. -/
theorem groups_le_openings {text : List Token} {e : Expr Unit} (h : read text = some e) :
    e.groups ≤ openings text := by
  unfold read at h
  split at h
  · next own hread =>
    cases h
    have hwithin := within_readers.1 .comparison text e [] hread
    rw [need_comparison] at hwithin
    exact hwithin
  · cases h

end Grammar

end ExprMarkup
