import ExprMarkup.Proofs.Grammar.Groups
import ExprMarkup.Proofs.Rendering.Composition

namespace ExprMarkup

namespace Grammar

open Source Capture

variable {π : Type} {place : π → Location}

theorem arrange_of_not_mem {head : String} (h : head ∉ operatorNames) (args : List (List Token))
    (named : List (String × List Token)) :
    arrange head args named = .name head :: .opening .arguments :: argumentTokens args named := by
  have hlookup : forms.lookup head = none := by
    rw [List.lookup_eq_none_iff]
    intro e he
    rw [bne_iff_ne]
    rintro rfl
    exact h (List.mem_map_of_mem he)
  simp [arrange, hlookup]

theorem openings_argumentTokens (args : List (List Token)) (named : List (String × List Token)) :
    openings (argumentTokens args named) =
      openings args.flatten + openings (named.flatMap Prod.snd) := by
  induction args with
  | nil =>
    induction named with
    | nil => rfl
    | cons e rest ih =>
      rw [argumentTokens_named, openings_cons (by simp), openings_append, ih]
      simp
  | cons a rest ih =>
    rw [argumentTokens_cons, openings_cons (by simp), openings_append, ih, List.flatten_cons,
      openings_append, Nat.add_assoc]

theorem openings_wrap (grouped : Bool) (t : Tree) :
    openings (tokens (wrap grouped t)) = openings (tokens t) + grouped.toNat := by
  cases grouped with
  | false => rfl
  | true =>
    have htokens : tokens (wrap true t) = .opening .group :: (tokens t ++ [.closing .group]) := rfl
    rw [htokens, openings_group, openings_append, openings_cons (by simp)]
    rfl

theorem openings_binary {op : BinaryOp} {head : String} (hhead : op.head? = some head) (a b : Tree)
    (location : Option Location) :
    openings (tokens (.call head [a, b] [] location)) =
      openings (tokens a) + openings (tokens b) := by
  by_cases hpow : op = .pow
  · subst hpow
    obtain rfl : "pow" = head := Option.some.inj hhead
    have htokens : tokens (.call "pow" [a, b] [] location) = tokens a ++ .sign .doubleStar ::
        .opening .exponent :: (tokens b ++ [.closing .exponent]) := rfl
    simp [htokens, openings_cons]
  · obtain ⟨k, s, hform, -⟩ := binary_form (π := Unit) hhead hpow
    simp [tokens_binary hform, openings_cons]

theorem tokensAll_eq_map (args : List Tree) : tokensAll args = args.map tokens := by
  induction args with
  | nil => rfl
  | cons t rest ih => rw [tokensAll, ih, List.map_cons]

theorem plainKeywords_named (named : List (String × Expr π)) :
    Expr.plainKeywords (named.map Expr.keyword) = named.map fun k => (k.1, k.2.plain) := by
  induction named with
  | nil => rfl
  | cons k rest ih => rw [List.map_cons, Expr.keyword, Expr.plainKeywords, ih, List.map_cons]

theorem precedence_plain (e : Expr π) : e.plain.precedence = e.precedence := by
  cases e <;> simp only [Expr.plain, Expr.precedence]

theorem groupsLeft_plain (op : BinaryOp) (left : Expr π) :
    op.groupsLeft left.plain = op.groupsLeft left := by
  simp only [BinaryOp.groupsLeft, precedence_plain]

theorem groupsRight_plain (op : BinaryOp) (right : Expr π) :
    op.groupsRight right.plain = op.groupsRight right := by
  simp only [BinaryOp.groupsRight, precedence_plain]

theorem openings_capturedAll {args : List (Expr π)}
    (h : ∀ e ∈ args, openings (tokens (captured place e)) = e.plain.groups) :
    openings (tokensAll (capturedAll place args)).flatten =
      Expr.groupsAll (Expr.plainAll args) := by
  induction args with
  | nil => rfl
  | cons e rest ih =>
    rw [List.forall_mem_cons] at h
    rw [capturedAll, tokensAll, List.flatten_cons, openings_append, h.1, ih h.2, Expr.plainAll,
      Expr.groupsAll]

theorem openings_keywords {entries : List (String × Expr π)}
    (h : ∀ k ∈ entries, openings (tokens (captured place k.2)) = k.2.plain.groups) :
    openings ((entries.map fun k => (k.1, tokens (captured place k.2))).flatMap Prod.snd) =
      Expr.groupsKeywords (entries.map fun k => (some (.text k.1), k.2.plain)) := by
  induction entries with
  | nil => rfl
  | cons k rest ih =>
    rw [List.forall_mem_cons] at h
    rw [List.map_cons, List.flatMap_cons, openings_append, h.1, ih h.2, List.map_cons,
      Expr.groupsKeywords]

theorem openings_captured_call {head : String} {args : List (Expr π)}
    {named : List (String × Expr π)} {q p : π} (hhead : head ∉ operatorNames)
    (hargs : ∀ e ∈ args, openings (tokens (captured place e)) = e.plain.groups)
    (hnamed : ∀ k ∈ named, openings (tokens (captured place k.2)) = k.2.plain.groups) :
    openings (tokens (captured place
        (.call (.name (.text head) q) args (named.map Expr.keyword) p))) =
      (Expr.plain (.call (.name (.text head) q) args (named.map Expr.keyword) p)).groups := by
  have htable : ∀ k ∈ (Table.ofList named).entries,
      openings (tokens (captured place k.2)) = k.2.plain.groups :=
    fun k hk => hnamed k (Table.mem_ofList hk)
  have htokens : tokensNamed (Table.ofList (capturedKeywords place (named.map Expr.keyword))).entries =
      (Table.ofList named).entries.map fun k => (k.1, tokens (captured place k.2)) := by
    rw [capturedKeywords_named, Table.ofList_map, tokensNamed_eq_map, Table.map, List.map_map]
    rfl
  have hplain : (Table.ofList (Expr.plainKeywords (named.map Expr.keyword))).entries =
      (Table.ofList named).entries.map fun k => (k.1, k.2.plain) := by
    rw [plainKeywords_named, Table.ofList_map, Table.map]
  rw [captured, tokens, arrange_of_not_mem hhead, openings_cons (by simp), openings_cons (by simp),
    openings_argumentTokens, openings_capturedAll hargs, htokens, openings_keywords htable, Expr.plain,
    Expr.groups, hplain, List.map_map]
  rfl

/-- The tokens of a captured expression have as many parentheses as it has groups. -/
theorem openings_captured {e : Expr π} (he : e.Supported (· ∉ operatorNames)) :
    openings (tokens (captured place e)) = e.plain.groups := by
  induction e, he using Expr.Supported.induction with
  | constant s p => rfl
  | name id p => rfl
  | sequence isTuple items ss p he hss => rfl
  | call f q args named p he _ hf hargs hnamed =>
    exact openings_captured_call hf (fun e he => (hargs e he).2) fun k hk => (hnamed k hk).2.2
  | binary op head left right p he _ _ hhead hleft hright =>
    rw [captured, hhead, Option.getD_some, openings_binary hhead, openings_wrap, openings_wrap, hleft,
      hright, Expr.plain, Expr.groups, groupsLeft_plain, groupsRight_plain]
  | unary op head operand p he _ hhead hoperand =>
    obtain ⟨s, hform, -⟩ := unary_form hhead
    rw [captured, hhead, Option.getD_some, tokens_unary hform, openings_cons (by simp), openings_wrap,
      hoperand, Expr.plain, Expr.groups, precedence_plain]
  | compare op head left right p he _ _ hhead hleft hright =>
    obtain ⟨s, hform, -⟩ := compare_form hhead
    rw [captured, hhead, Option.getD_some, tokens_binary hform, openings_append,
      openings_cons (by simp), openings_wrap, openings_wrap, hleft, hright, Expr.plain,
      Expr.plainCompared, Expr.plainCompared, Expr.groups, precedence_plain,
      precedence_plain]
  | subscript value index p he _ _ hvalue hindex =>
    have htokens (a b : Tree) (location : Option Location) :
        tokens (.call "getitem" [a, b] [] location) =
          tokens a ++ .opening .index :: (tokens b ++ [.closing .index]) := rfl
    rw [captured, htokens, openings_append, openings_cons (by simp), openings_append,
      openings_cons (by simp), openings_wrap, hvalue, hindex, Expr.plain, Expr.groups,
      precedence_plain, openings_nil, Nat.add_zero]

/-- A text is made around the tokens that it is given. -/
def Around (text : List Token → List Token) : Prop :=
  ∃ left right, ∀ a, text a = left ++ a ++ right

theorem Around.comp {f g : List Token → List Token} (hf : Around f) (hg : Around g) :
    Around fun a => f (g a) := by
  obtain ⟨left, right, hf⟩ := hf
  obtain ⟨left', right', hg⟩ := hg
  refine ⟨left ++ left', right' ++ right, fun a => ?_⟩
  simp only [hf, hg, List.append_assoc]

theorem around_call_arg {head : String} {before after : List (List Token)}
    {named : List (String × List Token)}
    (h : ∀ a, arrange head (before ++ a :: after) named =
      .name head :: .opening .arguments :: argumentTokens (before ++ a :: after) named) :
    Around fun a => arrange head (before ++ a :: after) named := by
  refine ⟨.name head :: .opening .arguments ::
    (before.flatMap (fun a => .argument none :: a) ++ [.argument none]),
    argumentTokens after named, fun a => ?_⟩
  simp [h, argumentTokens]

/-- Only calls with one or two arguments and no keyword are written in another way. -/
theorem arrange_of_many {head : String} {args : List (List Token)}
    {named : List (String × List Token)} (h : named ≠ [] ∨ 2 < args.length) :
    arrange head args named = .name head :: .opening .arguments :: argumentTokens args named := by
  unfold arrange
  split <;> simp_all

theorem around_arrange_arg (head : String) (before after : List (List Token))
    (named : List (String × List Token)) :
    Around fun a => arrange head (before ++ a :: after) named := by
  by_cases hmany : named ≠ [] ∨ 1 < before.length + after.length
  · refine around_call_arg fun a => arrange_of_many (hmany.imp_right fun h => ?_)
    rw [List.length_append, List.length_cons]
    omega
  obtain ⟨rfl, hfew⟩ : named = [] ∧ before.length + after.length ≤ 1 := by
    simpa using hmany
  match before, after, hform : forms.lookup head with
  | [], [], some .group =>
    exact ⟨[.opening .group], [.closing .group], fun a => by simp [arrange, hform]⟩
  | [], [], some (.unary s) => exact ⟨[.sign s], [], fun a => by simp [arrange, hform]⟩
  | [b], [], some (.binary s) => exact ⟨b ++ [.sign s], [], fun a => by simp [arrange, hform]⟩
  | [], [b], some (.binary s) => exact ⟨[], .sign s :: b, fun a => by simp [arrange, hform]⟩
  | [b], [], some .power =>
    exact ⟨b ++ [.sign .doubleStar, .opening .exponent], [.closing .exponent],
      fun a => by simp [arrange, hform]⟩
  | [], [b], some .power =>
    exact ⟨[], .sign .doubleStar :: .opening .exponent :: (b ++ [.closing .exponent]),
      fun a => by simp [arrange, hform]⟩
  | [b], [], some .item =>
    exact ⟨b ++ [.opening .index], [.closing .index], fun a => by simp [arrange, hform]⟩
  | [], [b], some .item =>
    exact ⟨[], .opening .index :: (b ++ [.closing .index]), fun a => by simp [arrange, hform]⟩
  | [], [], none | [], [], some (.binary _) | [], [], some .power | [], [], some .item
  | [_], [], none | [_], [], some .group | [_], [], some (.unary _)
  | [], [_], none | [], [_], some .group | [], [_], some (.unary _) =>
    exact around_call_arg fun a => by simp [arrange, hform]
  | _ :: _ :: _, _, _ | _ :: _, _ :: _, _ | [], _ :: _ :: _, _ =>
    simp only [List.length_cons, List.length_nil] at hfew
    omega

theorem around_arrange_named (head key : String) (args : List (List Token))
    (before after : List (String × List Token)) :
    Around fun a => arrange head args (before ++ (key, a) :: after) := by
  refine ⟨.name head :: .opening .arguments :: (args.flatMap (fun a => .argument none :: a) ++
    (before.flatMap (fun e => .argument (some e.1) :: e.2) ++ [.argument (some key)])),
    after.flatMap (fun e => .argument (some e.1) :: e.2) ++ [.closing .arguments], fun a => ?_⟩
  dsimp only
  rw [arrange_of_many (.inl (by simp))]
  simp [argumentTokens]

/-- The tokens of a part stand in those of the whole, and only they change if it is replaced. -/
theorem around_replaced {s s' t t' : Tree} {depth : Nat} (h : Interpret.Replaced s s' depth t t') :
    ∃ left right, tokens t = left ++ tokens s ++ right ∧ tokens t' = left ++ tokens s' ++ right := by
  suffices hframe : ∃ text, Around text ∧ tokens t = text (tokens s) ∧ tokens t' = text (tokens s') by
    obtain ⟨text, ⟨left, right, htext⟩, ht, ht'⟩ := hframe
    exact ⟨left, right, ht.trans (htext _), ht'.trans (htext _)⟩
  induction h with
  | here => exact ⟨id, ⟨[], [], by simp⟩, rfl, rfl⟩
  | @arg depth t t' head before after named location _ ih =>
    obtain ⟨text, htext, ht, ht'⟩ := ih
    refine ⟨_, (around_arrange_arg head (tokensAll before) (tokensAll after)
      (tokensNamed named)).comp htext, ?_, ?_⟩
    · simp [tokens, tokensAll_eq_map, ht]
    · simp [tokens, tokensAll_eq_map, ht']
  | @named depth t t' head name args before after location _ ih =>
    obtain ⟨text, htext, ht, ht'⟩ := ih
    refine ⟨_, (around_arrange_named head name (tokensAll args) (tokensNamed before)
      (tokensNamed after)).comp htext, ?_, ?_⟩
    · simp [tokens, tokensNamed_eq_map, ht]
    · simp [tokens, tokensNamed_eq_map, ht']

/-- If one group of a captured tree is left out, just its pair of parentheses is missing from the flat
tokens, and what is read from the rest is not the expression. -/
theorem read_ungrouped_ne {locate : π → Except Fault Location} {e : Expr π} {t : Tree}
    (he : e.Supported (· ∉ operatorNames)) (ht : capture locate e = .ok t) {s t' : Tree}
    {location : Option Location} {depth : Nat}
    (h : Interpret.Replaced (.call group [s] [] location) s depth t t') :
    (∃ left right,
      tokens t = left ++ .opening .group :: (tokens s ++ .closing .group :: right) ∧
      tokens t' = left ++ (tokens s ++ right)) ∧ read (tokens t') ≠ some e.plain := by
  obtain ⟨left, right, hwith, hwithout⟩ := around_replaced h
  rw [tokens_group] at hwith
  refine ⟨⟨left, right, by simpa using hwith, by simpa using hwithout⟩, fun hread => ?_⟩
  have hgroups : openings (tokens (captured (placed locate) e)) = e.plain.groups :=
    openings_captured he
  rw [captured_of_capture he ht, hwith] at hgroups
  have hle := groups_le_openings hread
  rw [hwithout] at hle
  simp only [openings_append, openings_group] at hgroups hle
  omega

/-- The group in `f(n=a - (b - c)) * d`. -/
theorem read_ungrouped_ne_keyword :
    let x (id : String) : Expr Nat := .name (.text id) 0
    let right : Expr Nat := .binary .sub (x "b") (x "c") 1
    let call : Expr Nat :=
      .call (x "f") [] [(some (.text "n"), .binary .sub (x "a") right 2)] 3
    let e : Expr Nat := .binary .mul call (x "d") 4
    let place (p : Nat) : Location := ⟨.int 1, .int p, .int 1, .int (p + 1), .absent⟩
    let s : Tree := captured place right
    ∃ t t' depth, e.Supported (· ∉ operatorNames) ∧ capture (fun p => .ok (place p)) e = .ok t ∧
      Interpret.Replaced (.call group [s] [] (some (place 1))) s depth t t' ∧
      read (tokens t') ≠ some e.plain := by
  intro x right call e place s
  have he : e.Supported (· ∉ operatorNames) := by
    simp only [e, call, right, x, Expr.Supported, Expr.AllSupported, Expr.KeywordsSupported]
    decide
  have ht : capture (fun p => .ok (place p)) e = .ok (captured place e) :=
    capture_eq_captured (fun _ => rfl) he
  let grouped : Tree := .call group [s] [] (some (place 1))
  let sub (t : Tree) : Tree := .call "sub" [captured place (x "a"), t] [] (some (place 2))
  let f (t : Tree) : Tree := .call "f" [] [("n", t)] (some (place 3))
  let mul (t : Tree) : Tree := .call "mul" [t, captured place (x "d")] [] (some (place 4))
  have hsub : Interpret.Replaced grouped s 1 (sub grouped) (sub s) :=
    @Interpret.Replaced.arg _ _ 0 grouped s "sub" [captured place (x "a")] [] [] _ .here
  have hf : Interpret.Replaced grouped s 2 (f (sub grouped)) (f (sub s)) :=
    @Interpret.Replaced.named _ _ 1 _ _ "f" "n" [] [] [] _ hsub
  have hmul : Interpret.Replaced grouped s 3 (captured place e) (mul (f (sub s))) :=
    @Interpret.Replaced.arg _ _ 2 _ _ "mul" [] [captured place (x "d")] [] _ hf
  exact ⟨_, _, _, he, ht, hmul, (read_ungrouped_ne he ht hmul).2⟩

end Grammar

end ExprMarkup
