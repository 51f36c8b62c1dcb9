import Mathlib.Data.List.Nodup
import ExprMarkup.Capture.Assembled
import ExprMarkup.Proofs.Construction.Checks
import ExprMarkup.Proofs.Document.Parts

namespace ExprMarkup

namespace Tree

open Source (IsName)

/-- What a node has to be by itself. -/
def Sound : Tree → Prop
  | .literal value _ => value.toValue.IsLiteral
  | .symbol name _ => Text.isIdentifier name = true
  | .call head _ named _ =>
    Text.isIdentifier head = true ∧ (∀ e ∈ named, Text.isIdentifier e.1 = true) ∧
      (named.map Prod.fst).Nodup
  | .bare _ => False

/-- All nodes of a tree are sound. -/
def AllSound (t : Tree) : Prop := ∀ n ∈ t.preorder, n.Sound

theorem isLiteral_toValue (l : Literal) : l.toValue.IsLiteral := by
  cases l with
  | scalar s => trivial
  | sequence items =>
    intro v hv
    obtain ⟨s, -, rfl⟩ := List.mem_map.mp hv
    exact ⟨s, rfl⟩

theorem allSound_literal (l : Literal) (location : Option Location) :
    AllSound (.literal l location) := by
  simpa [AllSound, preorder, Sound] using isLiteral_toValue l

theorem allSound_symbol {name : String} (h : Text.isIdentifier name = true)
    (location : Option Location) : AllSound (.symbol name location) := by
  simpa [AllSound, preorder, Sound] using h

theorem allSound_call {head : String} {args : List Tree} {named : List (String × Tree)}
    {location : Option Location} (hself : Sound (.call head args named location))
    (hargs : ∀ t ∈ args, AllSound t) (hnamed : ∀ e ∈ named, AllSound e.2) :
    AllSound (.call head args named location) :=
  forall_preorder_call.mpr ⟨hself, hargs, hnamed⟩

theorem allSound_newLiteral {value : Value} {location : Option Location} {t : Tree}
    (h : newLiteral value location = .ok t) : AllSound t := by
  obtain ⟨-, l, -, rfl⟩ := (newLiteral_decides value location).of_ok h
  exact allSound_literal l location

theorem allSound_newSymbol {name : Value} {location : Option Location} {t : Tree}
    (h : newSymbol name location = .ok t) : AllSound t := by
  obtain ⟨-, s, -, hs, rfl⟩ := (newSymbol_decides name location).of_ok h
  exact allSound_symbol hs location

theorem allSound_newCall {head : Value} {args : List Argument} {named : List (Value × Argument)}
    {location : Option Location} {t : Tree} (h : newCall head args named location = .ok t)
    (hargs : ∀ s, .node s ∈ args → AllSound s) (hnamed : ∀ e ∈ named, ∀ s, e.2 = .node s → AllSound s) :
    AllSound t := by
  obtain ⟨hcallable, name, ts, es, rfl, rfl, rfl, rfl⟩ :=
    (newCall_decides head args named location).of_ok h
  obtain ⟨hhead, -, hnames, -, hdistinct⟩ := hcallable
  have htext : ∀ {s : String}, IsName (.text s) → Text.isIdentifier s = true := by
    rintro s ⟨_, ⟨⟩, hs⟩
    exact hs
  refine allSound_call ⟨htext hhead, ?_, ?_⟩ ?_ ?_
  · exact fun e he => htext (hnames _ (List.mem_map_of_mem he))
  · rw [List.map_map] at hdistinct
    exact List.Nodup.of_map Value.text (by simpa [Function.comp_def] using hdistinct)
  · exact fun t ht => hargs t (List.mem_map_of_mem ht)
  · exact fun e he => hnamed _ (List.mem_map_of_mem he) e.2 rfl

theorem allSound_build {head : Value} {args : List Argument} {named : List (Value × Argument)}
    {location : Option Location} {t : Tree} (h : build head args named location = .ok t)
    (hargs : ∀ s, .node s ∈ args → AllSound s) (hnamed : ∀ e ∈ named, ∀ s, e.2 = .node s → AllSound s) :
    AllSound t := by
  refine allSound_newCall (newCall_of_build h) hargs fun e he s hs => ?_
  obtain ⟨p, hp, hitem⟩ := Value.exists_of_mem_foldPairs he
  exact hnamed p hp s (hitem.trans hs)

theorem build_of_ofKeywords {head : Value} {args : List Argument} {named : List (Value × Argument)}
    {t : Tree} (h : ofKeywords head args named = .ok t) : build head args named none = .ok t := by
  dsimp only [ofKeywords] at h
  split at h
  · exact h
  · cases h

theorem allSound_ofDocument {d : Value} {t : Tree} (h : ofDocument d = .ok t) : AllSound t := by
  induction d using parts_induction generalizing t with
  | step d ih =>
    obtain ⟨location, ⟨value, h⟩ | ⟨name, h⟩ | ⟨head, args, named, h, hargs, hnamed⟩⟩ := ofDocument_ok h
    · exact allSound_newLiteral h
    · exact allSound_newSymbol h
    · refine allSound_newCall h ?_ ?_
      · intro s hs
        obtain ⟨w, hw, hok⟩ := hargs s (by simpa using hs)
        exact ih w hw hok
      · intro e he s hs
        obtain ⟨p, hp, hitem⟩ := Value.exists_of_mem_foldPairs he
        obtain ⟨q, hq, rfl⟩ := List.mem_map.mp hp
        obtain ⟨w, hw, hok⟩ := hnamed q hq
        obtain rfl : q.2 = s := by simpa using hitem.trans hs
        exact ih w hw hok

end Tree

namespace Capture

open Source ExprMarkup.Tree

variable {π : Type} {locate : π → Except Fault Location}

theorem isIdentifier_of_binary {op : BinaryOp} {head : String} (h : op.head? = some head) :
    Text.isIdentifier head = true := by
  cases op <;> cases h <;> decide +kernel

theorem isIdentifier_of_unary {op : UnaryOp} {head : String} (h : op.head? = some head) :
    Text.isIdentifier head = true := by
  cases op <;> cases h <;> decide +kernel

theorem isIdentifier_of_compare {op : CompareOp} {head : String} (h : op.head? = some head) :
    Text.isIdentifier head = true := by
  cases op <;> cases h <;> decide +kernel

/-- A call with positional arguments only. -/
theorem allSound_positional {head : String} {args : List Tree} {location : Option Location}
    (hhead : Text.isIdentifier head = true) (hargs : ∀ t ∈ args, AllSound t) :
    AllSound (.call head args [] location) :=
  allSound_call ⟨hhead, by simp, by simp⟩ hargs (by simp)

/-- A call of what two results are turned into. -/
theorem allSound_of_both {head : String} {location : Option Location} {x y : Except Failure Tree}
    {f g : Tree → Tree} {t : Tree} (hhead : Text.isIdentifier head = true)
    (hx : ∀ a, x = .ok a → AllSound (f a)) (hy : ∀ b, y = .ok b → AllSound (g b))
    (h : (do let a ← x; let b ← y; return Tree.call head [f a, g b] [] location) = .ok t) :
    AllSound t := by
  obtain ⟨a, ha, h⟩ := bind_eq_ok.mp h
  obtain ⟨b, hb, h⟩ := bind_eq_ok.mp h
  cases h
  exact allSound_positional hhead (by simpa using ⟨hx a ha, hy b hb⟩)

theorem allSound_wrap {t : Tree} (h : AllSound t) (grouped : Bool) : AllSound (wrap grouped t) := by
  cases grouped with
  | true => exact allSound_positional (by decide +kernel) (by simpa using h)
  | false => exact h

theorem allSound_captureArgs {l : Location} {args : List (Expr π)} {ts : List Tree}
    (hargs : ∀ e ∈ args, ∀ t, capture locate e = .ok t → AllSound t)
    (h : captureArgs locate l args = .ok ts) : ∀ t ∈ ts, AllSound t := by
  induction args generalizing ts with
  | nil =>
    cases h
    simp
  | cons e rest ih =>
    unfold captureArgs at h
    split at h
    · contradiction
    · cases h
    · next hlist =>
      cases hlist
      obtain ⟨first, hfirst, h⟩ := bind_eq_ok.mp h
      obtain ⟨others, hothers, h⟩ := bind_eq_ok.mp h
      obtain rfl := pure_eq_ok.mp h
      rintro t (_ | ⟨_, ht⟩)
      · exact hargs e (by simp) first hfirst
      · exact ih (fun e' he' => hargs e' (by simp [he'])) hothers t ht

theorem allSound_captureKeywords {l : Location} {keywords : List (Option Value × Expr π)}
    {pairs : List (Value × Tree)}
    (hkeywords : ∀ k ∈ keywords, ∀ t, capture locate k.2 = .ok t → AllSound t)
    (h : captureKeywords locate l keywords = .ok pairs) : ∀ p ∈ pairs, AllSound p.2 := by
  induction keywords generalizing pairs with
  | nil =>
    cases h
    simp
  | cons k rest ih =>
    obtain ⟨key, e⟩ := k
    cases key with
    | none => cases h
    | some name =>
      rw [captureKeywords] at h
      obtain ⟨first, hfirst, h⟩ := bind_eq_ok.mp h
      obtain ⟨others, hothers, h⟩ := bind_eq_ok.mp h
      obtain rfl := pure_eq_ok.mp h
      rintro p (_ | ⟨_, hp⟩)
      · exact hkeywords (some name, e) (by simp) first hfirst
      · exact ih (fun k' hk' => hkeywords k' (by simp [hk'])) hothers p hp

theorem allSound_capture {e : Expr π} {t : Tree} (h : capture locate e = .ok t) : AllSound t := by
  induction e generalizing t with
  | constant value p =>
    obtain ⟨l, -, h⟩ := bind_eq_ok.mp h
    cases value with
    | scalar s =>
      cases h
      exact allSound_literal _ _
    | other kind => cases h
  | name id p =>
    obtain ⟨l, -, h⟩ := bind_eq_ok.mp h
    exact allSound_newSymbol h
  | sequence isTuple items p _ =>
    obtain ⟨l, -, h⟩ := bind_eq_ok.mp h
    cases hss : constants? items with
    | some ss =>
      rw [hss] at h
      cases h
      exact allSound_literal _ _
    | none =>
      rw [hss] at h
      cases h
  | call head args keywords p _ ihargs ihkeywords =>
    obtain ⟨l, -, h⟩ := bind_eq_ok.mp h
    cases head with
    | name id q =>
      obtain ⟨ts, hts, h⟩ := bind_eq_ok.mp h
      obtain ⟨pairs, hpairs, h⟩ := bind_eq_ok.mp h
      refine allSound_build h ?_ ?_
      · intro s hs
        exact allSound_captureArgs (fun e he t => ihargs e he) hts s (by simpa using hs)
      · intro e he s hs
        obtain ⟨p, hp, rfl⟩ := List.mem_map.mp he
        obtain rfl : p.2 = s := by simpa using hs
        exact allSound_captureKeywords (fun k hk t => ihkeywords k hk) hpairs p hp
    | _ => cases h
  | binary op left right p ihleft ihright =>
    obtain ⟨l, -, h⟩ := bind_eq_ok.mp h
    cases hhead : op.head? with
    | some head =>
      rw [hhead] at h
      exact allSound_of_both (isIdentifier_of_binary hhead) (fun a ha => allSound_wrap (ihleft ha) _)
        (fun b hb => allSound_wrap (ihright hb) _) h
    | none =>
      rw [hhead] at h
      cases h
  | unary op operand p ihoperand =>
    obtain ⟨l, -, h⟩ := bind_eq_ok.mp h
    cases hhead : op.head? with
    | some head =>
      rw [hhead] at h
      obtain ⟨a, ha, h⟩ := bind_eq_ok.mp h
      cases h
      exact allSound_positional (isIdentifier_of_unary hhead)
        (by simpa using allSound_wrap (ihoperand ha) _)
    | none =>
      rw [hhead] at h
      cases h
  | compare left rest p ihleft ihrest =>
    unfold capture at h
    obtain ⟨l, -, h⟩ := bind_eq_ok.mp h
    split at h
    · next op right _ =>
      cases hhead : op.head? with
      | some head =>
        rw [hhead] at h
        exact allSound_of_both (isIdentifier_of_compare hhead) (fun a ha => allSound_wrap (ihleft ha) _)
          (fun b hb => allSound_wrap (ihrest (op, right) (by simp) hb) _) h
      | none =>
        rw [hhead] at h
        cases h
    · cases h
  | subscript value index p ihvalue ihindex =>
    obtain ⟨l, -, h⟩ := bind_eq_ok.mp h
    exact allSound_of_both (by decide +kernel) (fun a ha => allSound_wrap (ihvalue ha) _)
      (fun b hb => ihindex hb) h
  | starred value p _ =>
    obtain ⟨l, -, h⟩ := bind_eq_ok.mp h
    cases h
  | other kind parts p _ =>
    obtain ⟨l, -, h⟩ := bind_eq_ok.mp h
    cases h
  | defect fault p =>
    obtain ⟨l, -, h⟩ := bind_eq_ok.mp h
    cases h

theorem allSound_captureWithin {host : Host} {e : Expr π} {t : Tree}
    (h : captureWithin host locate e = .ok t) : AllSound t := by
  unfold captureWithin at h
  split at h
  · cases h
  · exact allSound_capture h

theorem allSound_ofText {host : Host} {text : String} {file : Option String} {t : Tree}
    (h : ofText host text file = .ok t) : AllSound t := by
  dsimp only [ofText] at h
  split at h
  · cases h
  · split at h
    · cases h
    · cases h
    · split at h
      · exact allSound_captureWithin h
      · cases h

theorem allSound_ofCodePoints {host : Host} {source : List CodePoint} {file : Option String} {t : Tree}
    (h : ofCodePoints host source file = .ok t) : AllSound t := by
  unfold ofCodePoints at h
  split at h
  · exact allSound_ofText h
  · split at h
    · cases h
    · cases h

theorem allSound_captureAny {host : Host} {file : Option String} {a : Assembled} {t : Tree}
    (h : a.captureAny host file = .ok t) : AllSound t := by
  have hexpression : ∀ a : Assembled, a.captureExpression host file = .ok t → AllSound t := by
    intro a h
    dsimp only [Assembled.captureExpression] at h
    split at h
    · split at h
      · exact allSound_captureWithin h
      · cases h
    · cases h
  unfold Assembled.captureAny at h
  split at h
  · exact allSound_ofText h
  · split at h
    · exact hexpression _ h
    · cases h
  · exact hexpression a h

end Capture

namespace Tree

open Source (IsName)

/-- The trees that can be made: by the constructors, of values and of trees that were made before, by
capturing an expression, a text or anything that was put together, and by reading a document. -/
inductive Made : Tree → Prop
  | literal {value : Value} {location : Option Location} {t : Tree}
      (h : newLiteral value location = .ok t) : Made t
  | symbol {name : Value} {location : Option Location} {t : Tree}
      (h : newSymbol name location = .ok t) : Made t
  | call {head : Value} {args : List Argument} {named : List (Value × Argument)}
      {location : Option Location} {t : Tree} (hargs : ∀ s, .node s ∈ args → Made s)
      (hnamed : ∀ e ∈ named, ∀ s, e.2 = .node s → Made s)
      (h : newCall head args named location = .ok t) : Made t
  | build {head : Value} {args : List Argument} {named : List (Value × Argument)}
      {location : Option Location} {t : Tree} (hargs : ∀ s, .node s ∈ args → Made s)
      (hnamed : ∀ e ∈ named, ∀ s, e.2 = .node s → Made s)
      (h : build head args named location = .ok t) : Made t
  | ofKeywords {head : Value} {args : List Argument} {named : List (Value × Argument)} {t : Tree}
      (hargs : ∀ s, .node s ∈ args → Made s) (hnamed : ∀ e ∈ named, ∀ s, e.2 = .node s → Made s)
      (h : ofKeywords head args named = .ok t) : Made t
  | captured {π : Type} {locate : π → Except Fault Location} {e : Source.Expr π} {t : Tree}
      (h : Capture.capture locate e = .ok t) : Made t
  | assembled {host : Capture.Host} {file : Option String} {a : Capture.Assembled} {t : Tree}
      (h : a.captureAny host file = .ok t) : Made t
  | text {host : Capture.Host} {source : List Capture.CodePoint} {file : Option String} {t : Tree}
      (h : Capture.ofCodePoints host source file = .ok t) : Made t
  | document {d : Value} {t : Tree} (h : ofDocument d = .ok t) : Made t

theorem Made.allSound {t : Tree} (h : Made t) : AllSound t := by
  induction h with
  | literal h => exact allSound_newLiteral h
  | symbol h => exact allSound_newSymbol h
  | call _ _ h hargs hnamed => exact allSound_newCall h hargs hnamed
  | build _ _ h hargs hnamed => exact allSound_build h hargs hnamed
  | ofKeywords _ _ h hargs hnamed => exact allSound_build (build_of_ofKeywords h) hargs hnamed
  | captured h => exact Capture.allSound_capture h
  | assembled h => exact Capture.allSound_captureAny h
  | text h => exact Capture.allSound_ofCodePoints h
  | document h => exact allSound_ofDocument h

/-- Whoever makes a tree, all its nodes are sound. A constructor that is offered anything that makes no
sound node refuses it as malformed, at the location the node was to have, and refuses nothing else, unless
the first thing wrong is a name that cannot be shown: then it breaks down over the digits. -/
theorem made_sound_and_refused_malformed (value name head : Value) (args : List Argument)
    (named : List (Value × Argument)) (location : Option Location) :
    (∀ t, Made t → ∀ n ∈ t.preorder, n.Sound) ∧
      ((∃ why, newLiteral value location = .error (.malformed why location)) ↔ ¬value.IsLiteral) ∧
      ((∃ why, newSymbol name location = .error (.malformed why location)) ↔
        ¬IsName name ∧ name.isShowable = true) ∧
      (newSymbol name location = .error (.fault .digitLimit) ↔ name.isShowable = false) ∧
      ((∃ why, newCall head args named location = .error (.malformed why location)) ↔
        ¬Callable head args named ∧ ¬CallSpoiled head named) ∧
      (newCall head args named location = .error (.fault .digitLimit) ↔ CallSpoiled head named) := by
  have hliteral := newLiteral_decides value location
  have hsymbol := newSymbol_decides name location
  have hcall := newCall_decides head args named location
  refine ⟨fun _ h => h.allSound, ?_, ?_, hsymbol.broken_iff, hcall.malformed_iff, hcall.broken_iff⟩
  · rw [hliteral.malformed_iff, and_iff_left id]
  · rw [hsymbol.malformed_iff, Bool.not_eq_false]

/-- `x + 1`, as it is captured at one place. -/
def sum : Tree :=
  .call "add" [.symbol "x" (some default), .literal (.scalar (.int 1)) (some default)] [] (some default)

/-- A call of a captured sum and of a symbol from a document folds a repeated name. The constructor
itself refuses the repetition, at the call's own location. -/
theorem made_sound_and_refused_malformed_repeated :
    ∃ t, Made t ∧ (∀ n ∈ t.preorder, n.Sound) ∧
      ∃ why, newCall (.text "f") [.node sum]
        [(.text "k", .node sum), (.text "k", .node (.symbol "y" none))]
          (some ⟨.int 3, .int 7, .absent, .absent, .absent⟩) =
            .error (.malformed why (some ⟨.int 3, .int 7, .absent, .absent, .absent⟩)) := by
  have hcapture : Capture.capture (fun _ : Unit => .ok default)
      (.binary .add (.name (.text "x") ()) (.constant (.scalar (.int 1)) ()) ()) = .ok sum := rfl
  have hsum : Made sum := .captured hcapture
  have hsymbol : Made (.symbol "y" none) :=
    .document (d := .dict [("_type", .text "Symbol"), ("name", .text "y")]) rfl
  have hbuild : build (.text "f") [.node sum]
      [(.text "k", .node sum), (.text "k", .node (.symbol "y" none))]
      (some ⟨.int 3, .int 7, .absent, .absent, .absent⟩) =
        .ok (.call "f" [sum] (Table.ofList [("k", sum), ("k", .symbol "y" none)]).entries
          (some ⟨.int 3, .int 7, .absent, .absent, .absent⟩)) :=
    @build_text "f" [sum] [("k", sum), ("k", .symbol "y" none)] _ (by decide +kernel)
      (by simp; decide +kernel)
  have hmade : Made _ := .build (by simpa using hsum) (by simpa using ⟨hsum, hsymbol⟩) hbuild
  have hcall := made_sound_and_refused_malformed .absent (.text "y") (.text "f") [.node sum]
    [(.text "k", .node sum), (.text "k", .node (.symbol "y" none))]
    (some ⟨.int 3, .int 7, .absent, .absent, .absent⟩)
  refine ⟨_, hmade, hcall.1 _ hmade, hcall.2.2.2.2.1.mpr ⟨fun h => ?_, ?_⟩⟩
  · simpa using h.distinct
  · rintro (hhead | ⟨before, e, after, hsplit, -, hname⟩)
    · cases hhead
    · have hmem : e ∈ [(Value.text "k", Argument.node sum), (.text "k", .node (.symbol "y" none))] := by
        rw [hsplit]
        simp
      have htext : e.1 = .text "k" := by
        rcases List.mem_pair.mp hmem with rfl | rfl
        · rfl
        · rfl
      rw [htext] at hname
      cases hname

/-- The least number that has too many digits to be written: a one and 4300 zeros. -/
def tooLong : Int := Int.ofNat (Decimal.power 10 Decimal.digitLimit)

/-- A number is no name, but the refusal of one that is too long breaks down over its digits. -/
theorem newSymbol_tooLong :
    ¬IsName (.int tooLong) ∧ newSymbol (.int tooLong) none = .error (.fault .digitLimit) ∧
      ∀ why, newSymbol (.int tooLong) none ≠ .error (.malformed why none) := by
  have hlimit : Decimal.withinLimit tooLong = false := by
    rw [Decimal.withinLimit, tooLong, Int.ofNat_eq_natCast, Int.natAbs_natCast]
    exact decide_eq_false (Nat.lt_irrefl _)
  have hbroken := (newSymbol_decides (.int tooLong) none).broken hlimit
  refine ⟨?_, hbroken, fun why h => ?_⟩
  · rintro ⟨s, hs, -⟩
    cases hs
  · cases hbroken.symm.trans h

end Tree

end ExprMarkup
