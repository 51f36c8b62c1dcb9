import ExprMarkup.Proofs.Grammar.Reader

namespace ExprMarkup.Grammar

open Source

theorem Level.rank_injective {j k : Level} (h : j.rank = k.rank) : j = k := by
  cases j <;> cases k <;> simp_all [Level.rank]

/-- Whether a token goes on with an operand of a level. The arguments of a call go on with its name. -/
def Token.continues : Level → Token → Bool
  | .comparison, .sign s => s.compare?.isSome
  | .power, .sign s => s = .doubleStar
  | .item, .opening d => d = .index
  | .atom, .opening d => d = .arguments
  | k, .sign s => (s.binary? k).isSome
  | _, _ => false

/-- No level from this one on goes on with the tokens. -/
def Stops (k : Level) (rest : List Token) : Prop :=
  ∀ t ∈ rest.head?, ∀ j, k.rank ≤ j.rank → t.continues j = false

theorem Stops.mono {j k : Level} {rest : List Token} (h : Stops j rest) (hjk : j.rank ≤ k.rank) :
    Stops k rest :=
  fun t ht i hi => h t ht i (Nat.le_trans hjk hi)

theorem stops_nil (k : Level) : Stops k [] := by
  intro t ht
  simp at ht

theorem stops_closing (k : Level) (d : Delimiter) (rest : List Token) :
    Stops k (.closing d :: rest) := by
  intro t ht j hj
  obtain rfl : Token.closing d = t := by simpa using ht
  cases j <;> rfl

theorem stops_argument (k : Level) (key : Option String) (rest : List Token) :
    Stops k (.argument key :: rest) := by
  intro t ht j hj
  obtain rfl : Token.argument key = t := by simpa using ht
  cases j <;> rfl

/-- A sign between operands of a level belongs to no tighter level. -/
theorem stops_binary {k : Level} {s : Sign} {op : BinaryOp} (h : s.binary? k = some op)
    (rest : List Token) : Stops k.tighter (.sign s :: rest) := by
  intro t ht j hj
  obtain rfl : Token.sign s = t := by simpa using ht
  cases k <;> cases s <;> simp [Sign.binary?] at h <;> cases j <;>
    first | rfl | exact absurd hj (by decide)

theorem stops_compare {s : Sign} {op : CompareOp} (h : s.compare? = some op) (rest : List Token) :
    Stops .sum (.sign s :: rest) := by
  intro t ht j hj
  obtain rfl : Token.sign s = t := by simpa using ht
  cases s <;> simp [Sign.compare?] at h <;> cases j <;> first | rfl | exact absurd hj (by decide)

theorem stops_doubleStar (rest : List Token) : Stops .item (.sign .doubleStar :: rest) := by
  intro t ht j hj
  obtain rfl : Token.sign .doubleStar = t := by simpa using ht
  cases j <;> first | rfl | exact absurd hj (by decide)

theorem stops_index (rest : List Token) : Stops .atom (.opening .index :: rest) := by
  intro t ht j hj
  obtain rfl : Token.opening .index = t := by simpa using ht
  cases j <;> first | rfl | exact absurd hj (by decide)

theorem leading?_stops {α : Type} {operator? : Sign → Option α} {rest : List Token}
    (h : ∀ s more, rest = .sign s :: more → operator? s = none) :
    leading? operator? rest = none := by
  unfold leading?
  split
  · next s more => simp [h s more rfl]
  · rfl

/-- Reading goes no further where nothing goes on. -/
theorem readMore_stops {k : Level} {rest : List Token} (h : Stops k rest) (e : Expr Unit) :
    readMore k e rest = some (e, rest) := by
  have hhead : ∀ t more, rest = t :: more → t.continues k = false := by
    rintro t more rfl
    exact h t rfl k (Nat.le_refl _)
  have hbinary : ∀ k', (∀ s, Token.continues k' (.sign s) = (s.binary? k').isSome) → k' = k →
      leading? (Sign.binary? k') rest = none := by
    rintro k' hk' rfl
    refine leading?_stops fun s more hs => ?_
    have hs' := hhead _ _ hs
    rwa [hk', Option.isSome_eq_false_iff, Option.isNone_iff_eq_none] at hs'
  rw [readMore.eq_def]
  cases k with
  | comparison =>
    have hnone : leading? Sign.compare? rest = none := by
      refine leading?_stops fun s more hs => ?_
      have hs' := hhead _ _ hs
      rwa [Token.continues, Option.isSome_eq_false_iff, Option.isNone_iff_eq_none] at hs'
    simp only [hnone]
  | power =>
    dsimp only
    split
    · next more => exact absurd (hhead _ _ rfl) (by decide)
    · rfl
  | item =>
    dsimp only
    split
    · next more => exact absurd (hhead _ _ rfl) (by decide)
    · rfl
  | sum => simp only [hbinary .sum (fun _ => rfl) rfl]
  | term => simp only [hbinary .term (fun _ => rfl) rfl]
  | factor => simp only [hbinary .factor (fun _ => rfl) rfl]
  | atom => simp only [hbinary .atom (fun _ => rfl) rfl]

/-- Reading at a level takes the tokens for the expression. -/
def Reads (k : Level) (text : List Token) (e : Expr Unit) : Prop :=
  ∀ rest, Stops k rest → readAt k (text ++ rest) = some (e, rest)

/-- Reading at a level takes the tokens for the expression as its first operand, and may go on. -/
def Extends (k : Level) (text : List Token) (e : Expr Unit) : Prop :=
  ∀ rest, Stops k.tighter rest → readAt k (text ++ rest) = readMore k e rest

/-- The tokens do not begin with a sign that an operand may have before it. -/
def Unsigned (text : List Token) : Prop :=
  ∀ rest, leading? Sign.unary? (text ++ rest) = none

/-- The tokens of an expression in a place of a level. Sums, terms and items may go on. -/
def Fits (k : Level) (text : List Token) (e : Expr Unit) : Prop :=
  match k with
  | .comparison => Reads .comparison text e
  | .sum => Extends .sum text e
  | .term => Extends .term text e
  | .factor => Reads .factor text e
  | .power => Reads .power text e ∧ Unsigned text
  | .item => Extends .item text e ∧ Unsigned text
  | .atom => Reads .atom text e ∧ Unsigned text

theorem Extends.reads {k : Level} {text : List Token} {e : Expr Unit} (h : Extends k text e) :
    Reads k text e := by
  intro rest hrest
  have htighter : k.rank ≤ k.tighter.rank := by cases k <;> decide
  rw [h rest (hrest.mono htighter), readMore_stops hrest]

theorem Reads.extends {k : Level} {text : List Token} {e : Expr Unit} (h : Reads k.tighter text e)
    (hatom : k ≠ .atom) (hfactor : k ≠ .factor) : Extends k text e := by
  intro rest hrest
  have hbefore : k.before? (text ++ rest) = none := by
    cases k <;> first | rfl | contradiction
  rw [readAt, dif_neg hatom, hbefore]
  simp [h rest hrest]

theorem Reads.factor {text : List Token} {e : Expr Unit} (h : Reads .power text e)
    (hunsigned : Unsigned text) : Reads .factor text e := by
  intro rest hrest
  have hpower : readAt Level.factor.tighter (text ++ rest) = some (e, rest) :=
    h rest (hrest.mono (by decide))
  rw [readAt, dif_neg (by decide), Level.before?, hunsigned rest]
  simp [hpower, readMore_stops hrest]

theorem Fits.reads {k : Level} {text : List Token} {e : Expr Unit} (h : Fits k text e) :
    Reads k text e := by
  cases k with
  | comparison => exact h
  | sum => exact Extends.reads h
  | term => exact Extends.reads h
  | factor => exact h
  | power => exact h.1
  | item => exact h.1.reads
  | atom => exact h.1

/-- What fits a level fits the next looser one. -/
theorem Fits.tighter {k : Level} {text : List Token} {e : Expr Unit} (h : Fits k.tighter text e) :
    Fits k text e := by
  cases k with
  | comparison => exact (h.reads.extends (by decide) (by decide)).reads
  | sum => exact h.reads.extends (by decide) (by decide)
  | term => exact h.reads.extends (by decide) (by decide)
  | factor => exact h.reads.factor h.2
  | power => exact ⟨(h.reads.extends (by decide) (by decide)).reads, h.2⟩
  | item => exact ⟨h.reads.extends (by decide) (by decide), h.2⟩
  | atom => exact h

theorem Fits.mono {j k : Level} {text : List Token} {e : Expr Unit} (h : Fits j text e)
    (hkj : k.rank ≤ j.rank) : Fits k text e := by
  obtain ⟨n, hn⟩ := Nat.exists_eq_add_of_le hkj
  induction n generalizing k with
  | zero =>
    obtain rfl := Level.rank_injective hn
    exact h
  | succ n ih =>
    have hatom : k ≠ .atom := by
      rintro rfl
      have hj := j.rank_le
      have hsix : Level.atom.rank = 6 := rfl
      omega
    have hrank := Level.rank_tighter hatom
    exact (ih (by omega) (by omega)).tighter

theorem level_of_binary? {k : Level} {s : Sign} {op : BinaryOp} (h : s.binary? k = some op) :
    k = .sum ∨ k = .term := by
  cases k <;> simp_all [Sign.binary?]

theorem fits_iff_extends {k : Level} {text : List Token} {e : Expr Unit} (h : k = .sum ∨ k = .term) :
    Fits k text e ↔ Extends k text e := by
  rcases h with rfl | rfl <;> rfl

theorem readMore_binary {k : Level} {s : Sign} {op : BinaryOp} (h : s.binary? k = some op)
    (e : Expr Unit) (rest : List Token) :
    readMore k e (.sign s :: rest) =
      (readAt k.tighter rest).bind fun found =>
        if found.2.length ≤ rest.length then readMore k (.binary op e found.1 ()) found.2
        else none := by
  rw [readMore.eq_def]
  rcases level_of_binary? h with rfl | rfl <;> simp [leading?, h]

theorem fits_binary {k : Level} {s : Sign} {op : BinaryOp} {a b : List Token} {x y : Expr Unit}
    (hs : s.binary? k = some op) (ha : Fits k a x) (hb : Fits k.tighter b y) :
    Fits k (a ++ .sign s :: b) (.binary op x y ()) := by
  have hk := level_of_binary? hs
  rw [fits_iff_extends hk] at ha ⊢
  intro rest hrest
  calc readAt k ((a ++ .sign s :: b) ++ rest)
      = readAt k (a ++ .sign s :: (b ++ rest)) := by simp
    _ = readMore k x (.sign s :: (b ++ rest)) := ha _ (stops_binary hs _)
    _ = (readAt k.tighter (b ++ rest)).bind fun found =>
          if found.2.length ≤ (b ++ rest).length then readMore k (.binary op x found.1 ()) found.2
          else none := readMore_binary hs x _
    _ = readMore k (.binary op x y ()) rest := by simp [hb.reads rest hrest]

theorem fits_unary {s : Sign} {op : UnaryOp} {a : List Token} {x : Expr Unit}
    (hs : s.unary? = some op) (ha : Fits .factor a x) :
    Fits .factor (.sign s :: a) (.unary op x ()) := by
  intro rest hrest
  have hsign : leading? Sign.unary? (.sign s :: (a ++ rest)) = some (op, a ++ rest) := by
    simp [leading?, hs]
  rw [List.cons_append, readAt, dif_neg (by decide), Level.before?, hsign]
  simp [ha rest hrest]

theorem fits_compare {s : Sign} {op : CompareOp} {a b : List Token} {x y : Expr Unit}
    (hs : s.compare? = some op) (ha : Fits .sum a x) (hb : Fits .sum b y) :
    Fits .comparison (a ++ .sign s :: b) (.compare x [(op, y)] ()) := by
  intro rest hrest
  have hsign : leading? Sign.compare? (.sign s :: (b ++ rest)) = some (op, b ++ rest) := by
    simp [leading?, hs]
  have hleft : readAt .sum (a ++ .sign s :: (b ++ rest)) = some (x, .sign s :: (b ++ rest)) :=
    ha.reads _ (stops_compare hs _)
  have hright : readAt .sum (b ++ rest) = some (y, rest) :=
    hb.reads rest (hrest.mono (by decide))
  have hmore : readMore .comparison x (.sign s :: (b ++ rest)) =
      some (.compare x [(op, y)] (), rest) := by
    rw [readMore, hsign]
    simp [hright]
  have hfirst : Extends .comparison a x :=
    Reads.extends (k := .comparison) ha.reads (by decide) (by decide)
  rw [List.append_assoc, List.cons_append, hfirst _ (stops_compare hs _), hmore]

/-- Delimiters make an operand of any expression. -/
theorem readEnclosed_fits {a : List Token} {x : Expr Unit} (ha : Fits .comparison a x) (d : Delimiter)
    (rest : List Token) : readEnclosed d (a ++ .closing d :: rest) = some (x, rest) := by
  have hread : readAt .comparison (a ++ .closing d :: rest) = some (x, .closing d :: rest) :=
    ha.reads _ (stops_closing _ d rest)
  rw [readEnclosed, hread]
  simp

theorem Unsigned.append {a : List Token} (h : Unsigned a) (b : List Token) : Unsigned (a ++ b) := by
  intro rest
  rw [List.append_assoc]
  exact h (b ++ rest)

theorem fits_power {a b : List Token} {x y : Expr Unit} (ha : Fits .item a x)
    (hb : Fits .comparison b y) :
    Fits .power (a ++ .sign .doubleStar :: .opening .exponent :: (b ++ [.closing .exponent]))
      (.binary .pow x y ()) := by
  refine ⟨?_, ha.2.append _⟩
  intro rest hrest
  have hbase : Extends .power a x := Reads.extends (k := .power) ha.reads (by decide) (by decide)
  have hexponent := readEnclosed_fits hb .exponent rest
  calc readAt .power
        ((a ++ .sign .doubleStar :: .opening .exponent :: (b ++ [.closing .exponent])) ++ rest)
      = readAt .power (a ++ .sign .doubleStar :: .opening .exponent ::
          (b ++ .closing .exponent :: rest)) := by simp
    _ = readMore .power x (.sign .doubleStar :: .opening .exponent ::
          (b ++ .closing .exponent :: rest)) := hbase _ (stops_doubleStar _)
    _ = some (.binary .pow x y (), rest) := by rw [readMore, hexponent]; rfl

theorem fits_subscript {a b : List Token} {x y : Expr Unit} (ha : Fits .item a x)
    (hb : Fits .comparison b y) :
    Fits .item (a ++ .opening .index :: (b ++ [.closing .index])) (.subscript x y ()) := by
  refine ⟨?_, ha.2.append _⟩
  intro rest hrest
  have hindex := readEnclosed_fits hb .index rest
  calc readAt .item ((a ++ .opening .index :: (b ++ [.closing .index])) ++ rest)
      = readAt .item (a ++ .opening .index :: (b ++ .closing .index :: rest)) := by simp
    _ = readMore .item x (.opening .index :: (b ++ .closing .index :: rest)) :=
        ha.1 _ (stops_index _)
    _ = readMore .item (.subscript x y ()) rest := by
        have hleft : rest.length ≤ (b ++ .closing .index :: rest).length := by
          rw [List.length_append, List.length_cons]
          omega
        rw [readMore, hindex]
        exact dif_pos hleft

theorem fits_group {a : List Token} {x : Expr Unit} (ha : Fits .comparison a x) :
    Fits .atom (.opening .group :: (a ++ [.closing .group])) x := by
  refine ⟨?_, fun rest => rfl⟩
  intro rest hrest
  have hgroup := readEnclosed_fits ha .group rest
  have htext : (.opening .group :: (a ++ [.closing .group])) ++ rest =
      .opening .group :: (a ++ .closing .group :: rest) := by simp
  rw [htext, readAt, dif_pos rfl, readAtom, hgroup]

theorem fits_literal (value : Literal) : Fits .atom [.literal value] (literal value) := by
  refine ⟨?_, fun rest => rfl⟩
  intro rest hrest
  rw [List.cons_append, readAt, dif_pos rfl, readAtom, List.nil_append]

theorem fits_name (id : String) : Fits .atom [.name id] (.name (.text id) ()) := by
  refine ⟨?_, fun rest => rfl⟩
  intro rest hrest
  have hcall : ∀ more, rest ≠ .opening .arguments :: more := by
    rintro more rfl
    exact absurd (hrest _ rfl .atom (Nat.le_refl _)) (by decide)
  rw [List.cons_append, readAt, dif_pos rfl, List.nil_append, readAtom]
  exact hcall

/-- Arguments of a call, as tokens: those without a keyword come first. -/
def argumentTokens (args : List (List Token)) (named : List (String × List Token)) : List Token :=
  args.flatMap (fun a => .argument none :: a) ++
    (named.flatMap (fun e => .argument (some e.1) :: e.2) ++ [.closing .arguments])

theorem argumentTokens_cons (a : List Token) (args : List (List Token))
    (named : List (String × List Token)) :
    argumentTokens (a :: args) named = .argument none :: (a ++ argumentTokens args named) := by
  simp [argumentTokens]

theorem argumentTokens_named (key : String) (a : List Token) (named : List (String × List Token)) :
    argumentTokens [] ((key, a) :: named) = .argument (some key) :: (a ++ argumentTokens [] named) := by
  simp [argumentTokens]

theorem stops_argumentTokens (k : Level) (args : List (List Token))
    (named : List (String × List Token)) (rest : List Token) :
    Stops k (argumentTokens args named ++ rest) := by
  cases args with
  | cons a args => exact stops_argument k none _
  | nil =>
    cases named with
    | cons e named => exact stops_argument k (some e.1) _
    | nil => exact stops_closing k .arguments rest

theorem readArguments_named {named : List (String × List Token × Expr Unit)}
    (hnamed : ∀ e ∈ named, Fits .comparison e.2.1 e.2.2) (rest : List Token) :
    readArguments (argumentTokens [] (named.map fun e => (e.1, e.2.1)) ++ rest) =
      some (([], named.map fun e => (some (.text e.1), e.2.2)), rest) := by
  induction named with
  | nil => rw [readArguments.eq_def]; rfl
  | cons e others ih =>
    have hothers := ih fun e he => hnamed e (by simp [he])
    have hfirst := (hnamed e (by simp)).reads _ (stops_argumentTokens _ []
      (others.map fun e => (e.1, e.2.1)) rest)
    rw [List.map_cons, argumentTokens_named, List.cons_append, List.append_assoc,
      readArguments.eq_def]
    simp [hfirst, hothers]

theorem readArguments_fits {args : List (List Token × Expr Unit)}
    {named : List (String × List Token × Expr Unit)}
    (hargs : ∀ a ∈ args, Fits .comparison a.1 a.2)
    (hnamed : ∀ e ∈ named, Fits .comparison e.2.1 e.2.2) (rest : List Token) :
    readArguments (argumentTokens (args.map Prod.fst) (named.map fun e => (e.1, e.2.1)) ++ rest) =
      some ((args.map Prod.snd, named.map fun e => (some (.text e.1), e.2.2)), rest) := by
  induction args with
  | nil => exact readArguments_named hnamed rest
  | cons a others ih =>
    have hothers := ih fun a ha => hargs a (by simp [ha])
    have hfirst := (hargs a (by simp)).reads _ (stops_argumentTokens _ (others.map Prod.fst)
      (named.map fun e => (e.1, e.2.1)) rest)
    rw [List.map_cons, argumentTokens_cons, List.cons_append, List.append_assoc,
      readArguments.eq_def]
    simp [hfirst, hothers]

theorem fits_call {args : List (List Token × Expr Unit)}
    {named : List (String × List Token × Expr Unit)} (id : String)
    (hargs : ∀ a ∈ args, Fits .comparison a.1 a.2)
    (hnamed : ∀ e ∈ named, Fits .comparison e.2.1 e.2.2) :
    Fits .atom (.name id :: .opening .arguments ::
        argumentTokens (args.map Prod.fst) (named.map fun e => (e.1, e.2.1)))
      (.call (.name (.text id) ()) (args.map Prod.snd)
        (named.map fun e => (some (.text e.1), e.2.2)) ()) := by
  refine ⟨?_, fun rest => rfl⟩
  intro rest hrest
  rw [List.cons_append, List.cons_append, readAt, dif_pos rfl, readAtom,
    readArguments_fits hargs hnamed rest]
  rfl

/-- What is read from the tokens of a whole expression. -/
theorem read_fits {text : List Token} {e : Expr Unit} (h : Fits .comparison text e) :
    read text = some e := by
  have hread := h.reads [] (stops_nil _)
  rw [List.append_nil] at hread
  rw [read, hread]

end ExprMarkup.Grammar
