import ExprMarkup.Proofs.Rendering.Failure
import ExprMarkup.Proofs.Walk.Address

namespace ExprMarkup

section

variable {ε ε' α α' β β' : Type} {F : ε → ε' → Prop} {V : α → α' → Prop} {W : β → β' → Prop}

/-- Two computations end alike: both with values, which are related, or both with failures, which are. -/
inductive Matches (F : ε → ε' → Prop) (V : α → α' → Prop) : Except ε α → Except ε' α' → Prop
  | ok {a : α} {a' : α'} (h : V a a') : Matches F V (.ok a) (.ok a')
  | error {e : ε} {e' : ε'} (h : F e e') : Matches F V (.error e) (.error e')

namespace Matches

variable {x : Except ε α} {y : Except ε' α'}

theorem refl {F : ε → ε → Prop} {V : α → α → Prop} {x : Except ε α}
    (hF : ∀ e, x = .error e → F e e) (hV : ∀ a, x = .ok a → V a a) : Matches F V x x := by
  cases x with
  | ok a => exact .ok (hV a rfl)
  | error e => exact .error (hF e rfl)

theorem mono {F' : ε → ε' → Prop} (h : Matches F V x y) (hF : ∀ e e', F e e' → F' e e') :
    Matches F' V x y := by
  cases h with
  | ok h => exact .ok h
  | error h => exact .error (hF _ _ h)

theorem and_left {p : ε → Prop} (h : Matches F V x y) (hp : ∀ e, x = .error e → p e) :
    Matches (fun e e' => F e e' ∧ p e) V x y := by
  cases h with
  | ok h => exact .ok h
  | error h => exact .error ⟨h, hp _ rfl⟩

theorem bind {next : α → Except ε β} {next' : α' → Except ε' β'} (h : Matches F V x y)
    (hnext : ∀ a a', V a a' → Matches F W (next a) (next' a')) :
    Matches F W (x >>= next) (y >>= next') := by
  cases h with
  | ok h => exact hnext _ _ h
  | error h => exact .error h

theorem map {f : α → β} {f' : α' → β'} (h : Matches F V x y) (hf : ∀ a a', V a a' → W (f a) (f' a')) :
    Matches F W (x.map f) (y.map f') := by
  cases h with
  | ok h => exact .ok (hf _ _ h)
  | error h => exact .error h

theorem mapError {ξ ξ' : Type} {G : ξ → ξ' → Prop} {f : ε → ξ} {f' : ε' → ξ'} (h : Matches F V x y)
    (hf : ∀ e e', F e e' → G (f e) (f' e')) : Matches G V (x.mapError f) (y.mapError f') := by
  cases h with
  | ok h => exact .ok h
  | error h => exact .error (hf _ _ h)

theorem bind_run {F : Failure → Failure → Prop} {r : Run α} {r' : Run α'} {next : α → Run β}
    {next' : α' → Run β'} (h : Matches F V r.result r'.result)
    (hnext : ∀ a a', V a a' → Matches F W (next a).result (next' a').result) :
    Matches F W (r >>= next).result (r' >>= next').result := by
  rw [Run.result_bind, Run.result_bind]
  exact h.bind hnext

end Matches

end

namespace Tree

mutual

/-- The tree without its locations. -/
def unplaced : Tree → Tree
  | .literal value _ => .literal value none
  | .symbol name _ => .symbol name none
  | .call head args named _ => .call head (unplacedArgs args) (unplacedNamed named) none
  | .bare _ => .bare none

def unplacedArgs : List Tree → List Tree
  | [] => []
  | t :: rest => unplaced t :: unplacedArgs rest

def unplacedNamed : List (String × Tree) → List (String × Tree)
  | [] => []
  | (name, t) :: rest => (name, unplaced t) :: unplacedNamed rest

end

theorem exists_literal_of_unplaced {t : Tree} {value : Literal} {location : Option Location}
    (h : (literal value location).unplaced = t.unplaced) : ∃ place, t = .literal value place := by
  cases t <;> cases h
  exact ⟨_, rfl⟩

theorem exists_symbol_of_unplaced {t : Tree} {name : String} {location : Option Location}
    (h : (symbol name location).unplaced = t.unplaced) : ∃ place, t = .symbol name place := by
  cases t <;> cases h
  exact ⟨_, rfl⟩

theorem exists_bare_of_unplaced {t : Tree} {location : Option Location}
    (h : (bare location).unplaced = t.unplaced) : ∃ place, t = .bare place := by
  cases t <;> cases h
  exact ⟨_, rfl⟩

theorem exists_call_of_unplaced {t : Tree} {head : String} {args : List Tree}
    {named : List (String × Tree)} {location : Option Location}
    (h : (call head args named location).unplaced = t.unplaced) :
    ∃ args' named' place, t = .call head args' named' place ∧
      unplacedArgs args = unplacedArgs args' ∧ unplacedNamed named = unplacedNamed named' := by
  cases t with
  | call head' args' named' place =>
    simp only [unplaced, call.injEq, and_true] at h
    obtain ⟨rfl, hargs, hnamed⟩ := h
    exact ⟨args', named', place, rfl, hargs, hnamed⟩
  | literal => cases h
  | symbol => cases h
  | bare => cases h

theorem exists_cons_of_unplacedArgs {t : Tree} {rest args : List Tree}
    (h : unplacedArgs (t :: rest) = unplacedArgs args) :
    ∃ t' rest', args = t' :: rest' ∧ t.unplaced = t'.unplaced ∧
      unplacedArgs rest = unplacedArgs rest' := by
  cases args with
  | nil => cases h
  | cons t' rest' =>
    obtain ⟨hfirst, hrest⟩ := List.cons.inj h
    exact ⟨t', rest', rfl, hfirst, hrest⟩

theorem exists_cons_of_unplacedNamed {name : String} {t : Tree} {rest named : List (String × Tree)}
    (h : unplacedNamed ((name, t) :: rest) = unplacedNamed named) :
    ∃ t' rest', named = (name, t') :: rest' ∧ t.unplaced = t'.unplaced ∧
      unplacedNamed rest = unplacedNamed rest' := by
  cases named with
  | nil => cases h
  | cons e rest' =>
    obtain ⟨name', t'⟩ := e
    obtain ⟨hfirst, hrest⟩ := List.cons.inj h
    obtain ⟨rfl, ht⟩ := Prod.mk.inj hfirst
    exact ⟨t', rest', rfl, ht, hrest⟩

theorem length_unplacedArgs (args : List Tree) : (unplacedArgs args).length = args.length := by
  induction args with
  | nil => rfl
  | cons t rest ih => simp only [unplacedArgs, List.length_cons, ih]

end Tree

namespace Failure

def IsRaised (f : Failure) : Prop := ∀ e, f = .error e → e.IsRaised

/-- One fault in two trees, or errors of one cause at one address, each with the location that its tree
has there. -/
inductive Corresponds (t t' : Tree) : Failure → Failure → Prop
  | fault (b : Fault) : Corresponds t t' (.fault b) (.fault b)
  | error (cause : Cause) {address : List Nat} {n n' : Tree} (hn : t.at? address = some n)
      (hn' : t'.at? address = some n') :
      Corresponds t t' (.error ⟨cause, n.location⟩) (.error ⟨cause, n'.location⟩)

/-- The failures are at corresponding nodes of corresponding trees of two lists. -/
def CorrespondsIn (ts ts' : List Tree) (f f' : Failure) : Prop :=
  ∃ (i : Nat) (c c' : Tree), ts[i]? = some c ∧ ts'[i]? = some c' ∧ Corresponds c c' f f'

namespace Corresponds

variable {t t' : Tree} {f f' : Failure}

theorem self (cause : Cause) :
    Corresponds t t' (.error ⟨cause, t.location⟩) (.error ⟨cause, t'.location⟩) := by
  have hat : t.at? [] = some t := rfl
  have hat' : t'.at? [] = some t' := rfl
  exact .error cause hat hat'

theorem of_children (h : CorrespondsIn t.children t'.children f f') : Corresponds t t' f f' := by
  obtain ⟨i, c, c', hc, hc', h⟩ := h
  cases h with
  | fault b => exact .fault b
  | @error cause address n n' hn hn' =>
    have hat : t.at? (i :: address) = some n := by rw [Tree.at?, hc, Option.bind_some, hn]
    have hat' : t'.at? (i :: address) = some n' := by rw [Tree.at?, hc', Option.bind_some, hn']
    exact .error cause hat hat'

/-- In one tree there is only one node at an address. -/
theorem eq_of_self (h : Corresponds t t f f') : f = f' := by
  cases h with
  | fault b => rfl
  | error cause hn hn' =>
    obtain rfl := Option.some.inj (hn.symm.trans hn')
    rfl

/-- A failure as it is raised gets the location of the call. -/
theorem locate (hraised : f.IsRaised) :
    Corresponds t t' (f.locate t.location) (f.locate t'.location) := by
  cases f with
  | fault b => exact .fault b
  | error e =>
    obtain ⟨hlocation, hrejection⟩ := hraised e rfl
    rw [locate_of_isRejection hrejection, locate_of_isRejection hrejection, hlocation]
    exact self e.cause

end Corresponds

namespace CorrespondsIn

variable {t t' : Tree} {ts ts' us us' : List Tree} {f f' : Failure}

theorem first (h : Corresponds t t' f f') : CorrespondsIn (t :: ts) (t' :: ts') f f' :=
  ⟨0, t, t', rfl, rfl, h⟩

theorem later (h : CorrespondsIn ts ts' f f') : CorrespondsIn (t :: ts) (t' :: ts') f f' := by
  obtain ⟨i, c, c', hc, hc', h⟩ := h
  exact ⟨i + 1, c, c', hc, hc', h⟩

theorem append_right (us us' : List Tree) (h : CorrespondsIn ts ts' f f') :
    CorrespondsIn (ts ++ us) (ts' ++ us') f f' := by
  obtain ⟨i, c, c', hc, hc', h⟩ := h
  obtain ⟨hi, -⟩ := List.getElem?_eq_some_iff.mp hc
  obtain ⟨hi', -⟩ := List.getElem?_eq_some_iff.mp hc'
  exact ⟨i, c, c', (List.getElem?_append_left hi).trans hc, (List.getElem?_append_left hi').trans hc', h⟩

theorem append_left (hlength : ts.length = ts'.length) (h : CorrespondsIn us us' f f') :
    CorrespondsIn (ts ++ us) (ts' ++ us') f f' := by
  obtain ⟨i, c, c', hc, hc', h⟩ := h
  refine ⟨ts.length + i, c, c', ?_, ?_, h⟩
  · rw [List.getElem?_append_right (Nat.le_add_right _ _), Nat.add_sub_cancel_left, hc]
  · rw [hlength, List.getElem?_append_right (Nat.le_add_right _ _), Nat.add_sub_cancel_left, hc']

end CorrespondsIn

end Failure

/-- Renderers raise their failures without locations, if those that are not made here do. -/
theorem Renderer.isRaised_of_run {r : Renderer}
    (hcustom : ∀ label own, r = .custom label own → ∀ children attributes e,
      own children attributes = .error e → e.IsRaised)
    {children : List Rendered} {attributes : List (String × Rendered)} {f : Failure}
    (h : r.run children attributes = .error f) : f.IsRaised := by
  intro e he
  rw [he] at h
  exact error_of_run (fun _ hraised => hraised) hcustom h

/-- Related values under one name. -/
def UnderOneName (V : Rendered → Rendered → Prop) (e e' : String × Rendered) : Prop :=
  e.1 = e'.1 ∧ V e.2 e'.2

theorem eq_of_underOneName {es es' : List (String × Rendered)}
    (h : List.Forall₂ (UnderOneName Eq) es es') : es = es' := by
  induction h with
  | nil => rfl
  | cons hfirst _ ih => rw [Prod.ext hfirst.1 hfirst.2, ih]

/-- Two renderers make related fragments of related arguments, where the named ones have the given names,
or else raise one failure. -/
def Renderer.Parallels (V : Rendered → Rendered → Prop) (names : List String) (r r' : Renderer) : Prop :=
  ∀ children children' attributes attributes', List.Forall₂ V children children' →
    List.Forall₂ (UnderOneName V) attributes attributes' → attributes.map Prod.fst = names →
    Matches (fun f f' => f = f' ∧ f.IsRaised) (fun f f' => V (.one f) (.one f'))
      (r.run children attributes) (r'.run children' attributes')

/-- Two dialects write a tree in parallel if they have related texts for its literals and its symbols, and
parallel renderers for its calls. -/
structure Dialect.Parallels (V : Rendered → Rendered → Prop) (d d' : Dialect) (config : Config)
    (t : Tree) : Prop where
  literal : ∀ value location, .literal value location ∈ t.preorder →
    Matches Eq V (value.toValue.escape d.escaper) (value.toValue.escape d'.escaper)
  symbol : ∀ name location, .symbol name location ∈ t.preorder →
    V (.one (d.symbolText name)) (.one (d'.symbolText name))
  call : ∀ head args named location, .call head args named location ∈ t.preorder →
    (d.rendererFor config head).Parallels V (named.map Prod.fst) (d'.rendererFor config head)

theorem Dialect.Parallels.part {V : Rendered → Rendered → Prop} {d d' : Dialect} {config : Config}
    {t s : Tree} (h : d.Parallels V d' config t) (hs : s ∈ t.preorder) : d.Parallels V d' config s where
  literal value location hn := h.literal value location (Tree.mem_preorder_trans hs hn)
  symbol name location hn := h.symbol name location (Tree.mem_preorder_trans hs hn)
  call head args named location hn := h.call head args named location (Tree.mem_preorder_trans hs hn)

/-- A dialect is parallel to one with the same renderers and the same texts. -/
theorem Dialect.parallels_of_eq {d d' : Dialect} {config : Config} {t : Tree}
    (hescaper : d.escaper = d'.escaper) (hsymbol : ∀ name, d.symbolText name = d'.symbolText name)
    (hrenderer : ∀ head, d.rendererFor config head = d'.rendererFor config head)
    (hraised : ∀ head children attributes f,
      (d.rendererFor config head).run children attributes = .error f → f.IsRaised) :
    d.Parallels Eq d' config t where
  literal value location _ := by
    rw [hescaper]
    exact .refl (fun _ _ => rfl) (fun _ _ => rfl)
  symbol name location _ := by rw [hsymbol]
  call head args named location _ := by
    intro children children' attributes attributes' hchildren hattributes _
    obtain rfl : children = children' := List.forall₂_eq_eq_eq ▸ hchildren
    obtain rfl := eq_of_underOneName hattributes
    rw [← hrenderer]
    exact .refl (fun f hf => ⟨rfl, hraised head children attributes f hf⟩) (fun _ _ => rfl)

namespace Interpret

variable {d d' : Dialect} {config : Config} {scope scope' : Scope} {V : Rendered → Rendered → Prop}

/-- Both nodes have a value, and the values are related. -/
def Valued (V : Rendered → Rendered → Prop) (v v' : Option Rendered) : Prop :=
  ∃ r r', v = some r ∧ v' = some r' ∧ V r r'

def ValuedAll (V : Rendered → Rendered → Prop) (vs vs' : List (Option Rendered)) : Prop :=
  ∃ rs rs', vs = rs.map some ∧ vs' = rs'.map some ∧ List.Forall₂ V rs rs'

def ValuedNamed (V : Rendered → Rendered → Prop) (names : List String)
    (vs vs' : List (String × Option Rendered)) : Prop :=
  ∃ rs rs', vs = rs.map (fun e => (e.1, some e.2)) ∧ vs' = rs'.map (fun e => (e.1, some e.2)) ∧
    List.Forall₂ (UnderOneName V) rs rs' ∧ rs.map Prod.fst = names

theorem literal_matches {value : Literal} {t t' : Tree}
    (h : Matches Eq V (value.toValue.escape d.escaper) (value.toValue.escape d'.escaper)) :
    Matches (Failure.Corresponds t t') V (literal (some d) value).result
      (literal (some d') value).result := by
  refine h.mapError ?_
  rintro b _ rfl
  exact .fault b

/-- On related arguments parallel renderers end alike, and their failures get the locations of the two
calls. -/
theorem invoke_matches {r r' : Renderer} {names : List String} {t t' : Tree} {head : String}
    {vs vs' : List (Option Rendered)} {us us' : List (String × Option Rendered)}
    (hr : r.Parallels V names r') (hvs : ValuedAll V vs vs') (hus : ValuedNamed V names us us') :
    Matches (Failure.Corresponds t t') V (invoke (some r) head t.location vs us).result
      (invoke (some r') head t'.location vs' us').result := by
  obtain ⟨children, children', rfl, rfl, hchildren⟩ := hvs
  obtain ⟨attributes, attributes', rfl, rfl, hattributes, hnames⟩ := hus
  rw [invoke_result, invoke_result]
  have hrun := hr children children' attributes attributes' hchildren hattributes hnames
  refine (hrun.mapError ?_).map fun f f' hf => hf
  rintro f _ ⟨rfl, hraised⟩
  exact .locate hraised

mutual

/-- Trees that differ in their locations alone are rendered alike by dialects that write them in
parallel. -/
theorem node_matches {t t' : Tree} (hform : t.unplaced = t'.unplaced) (h : d.Parallels V d' config t)
    (hcovers : scope.Covers d t) (hcovers' : scope'.Covers d' t') (depth : Nat) :
    Matches (Failure.Corresponds t t') (Valued V) (node (some d) config scope depth t).result
      (node (some d') config scope' depth t').result := by
  have hdeep : Matches (Failure.Corresponds t t') (Valued V)
      (Run.fail (tooDeep config t.location) : Run (Option Rendered)).result
      (Run.fail (tooDeep config t'.location) : Run (Option Rendered)).result := .error (.self _)
  cases t with
  | literal value location =>
    obtain ⟨place, rfl⟩ := Tree.exists_literal_of_unplaced hform
    rw [node, node]
    split
    · exact hdeep
    · refine (literal_matches (h.literal value location (Tree.self_mem_preorder _))).bind_run ?_
      exact fun r r' hr => .ok ⟨r, r', rfl, rfl, hr⟩
  | symbol name location =>
    obtain ⟨place, rfl⟩ := Tree.exists_symbol_of_unplaced hform
    rw [node, node]
    split
    · exact hdeep
    · rw [symbol_of_covers hcovers, symbol_of_covers hcovers']
      exact .ok ⟨_, _, rfl, rfl, h.symbol name location (Tree.self_mem_preorder _)⟩
  | call head args named location =>
    obtain ⟨args', named', place, rfl, hargs, hnamed⟩ := Tree.exists_call_of_unplaced hform
    rw [node, node]
    split
    · exact hdeep
    · have hlength : args.length = args'.length := by
        rw [← Tree.length_unplacedArgs args, hargs, Tree.length_unplacedArgs]
      have hchildren := positional_matches hargs (fun t ht => h.part (Tree.mem_preorder_arg ht))
        (fun t ht => hcovers.part (Tree.mem_preorder_arg ht))
        (fun t ht => hcovers'.part (Tree.mem_preorder_arg ht)) (depth + 1)
      have hattributes := keyed_matches hnamed (fun e he => h.part (Tree.mem_preorder_named he))
        (fun e he => hcovers.part (Tree.mem_preorder_named he))
        (fun e he => hcovers'.part (Tree.mem_preorder_named he)) (depth + 1)
      rw [chooseRenderer_of_covers hcovers, chooseRenderer_of_covers hcovers']
      refine Matches.bind_run (V := fun r r' => r = some (d.rendererFor config head) ∧
        r' = some (d'.rendererFor config head)) (.ok ⟨rfl, rfl⟩) ?_
      rintro _ _ ⟨rfl, rfl⟩
      refine (hchildren.mono fun f f' hf => .of_children (hf.append_right _ _)).bind_run ?_
      intro vs vs' hvs
      refine (hattributes.mono fun f f' hf => .of_children (hf.append_left hlength)).bind_run ?_
      intro us us' hus
      have hr := h.call head args named location (Tree.self_mem_preorder _)
      have hinvoke : Matches (Failure.Corresponds (.call head args named location)
          (.call head args' named' place)) V
          (invoke (some (d.rendererFor config head)) head location vs us).result
          (invoke (some (d'.rendererFor config head)) head place vs' us').result :=
        invoke_matches hr hvs hus
      exact hinvoke.bind_run fun r r' hv => .ok ⟨r, r', rfl, rfl, hv⟩
  | bare location =>
    obtain ⟨place, rfl⟩ := Tree.exists_bare_of_unplaced hform
    rw [node, node]
    split
    · exact hdeep
    · exact .error (.self _)

theorem positional_matches {args args' : List Tree}
    (hform : Tree.unplacedArgs args = Tree.unplacedArgs args')
    (h : ∀ t ∈ args, d.Parallels V d' config t) (hcovers : ∀ t ∈ args, scope.Covers d t)
    (hcovers' : ∀ t ∈ args', scope'.Covers d' t) (depth : Nat) :
    Matches (Failure.CorrespondsIn args args') (ValuedAll V)
      (positional (some d) config scope depth args).result
      (positional (some d') config scope' depth args').result := by
  cases args with
  | nil =>
    cases args' with
    | nil => exact .ok ⟨[], [], rfl, rfl, .nil⟩
    | cons t' rest' => cases hform
  | cons t rest =>
    obtain ⟨t', rest', rfl, ht, hrest⟩ := Tree.exists_cons_of_unplacedArgs hform
    rw [List.forall_mem_cons] at h hcovers hcovers'
    have hfirst := node_matches ht h.1 hcovers.1 hcovers'.1 depth
    have hothers := positional_matches hrest h.2 hcovers.2 hcovers'.2 depth
    rw [positional, positional]
    refine (hfirst.mono fun f f' hf => .first hf).bind_run ?_
    rintro _ _ ⟨r, r', rfl, rfl, hr⟩
    refine (hothers.mono fun f f' hf => hf.later).bind_run ?_
    rintro _ _ ⟨rs, rs', rfl, rfl, hrs⟩
    exact .ok ⟨r :: rs, r' :: rs', rfl, rfl, .cons hr hrs⟩

theorem keyed_matches {named named' : List (String × Tree)}
    (hform : Tree.unplacedNamed named = Tree.unplacedNamed named')
    (h : ∀ e ∈ named, d.Parallels V d' config e.2) (hcovers : ∀ e ∈ named, scope.Covers d e.2)
    (hcovers' : ∀ e ∈ named', scope'.Covers d' e.2) (depth : Nat) :
    Matches (Failure.CorrespondsIn (named.map Prod.snd) (named'.map Prod.snd))
      (ValuedNamed V (named.map Prod.fst)) (keyed (some d) config scope depth named).result
      (keyed (some d') config scope' depth named').result := by
  cases named with
  | nil =>
    cases named' with
    | nil => exact .ok ⟨[], [], rfl, rfl, .nil, rfl⟩
    | cons e' rest' => cases hform
  | cons e rest =>
    obtain ⟨name, t⟩ := e
    obtain ⟨t', rest', rfl, ht, hrest⟩ := Tree.exists_cons_of_unplacedNamed hform
    rw [List.forall_mem_cons] at h hcovers hcovers'
    have hfirst := node_matches ht h.1 hcovers.1 hcovers'.1 depth
    have hothers := keyed_matches hrest h.2 hcovers.2 hcovers'.2 depth
    rw [keyed, keyed]
    refine (hfirst.mono fun f f' hf => .first hf).bind_run ?_
    rintro _ _ ⟨r, r', rfl, rfl, hr⟩
    refine (hothers.mono fun f f' hf => hf.later).bind_run ?_
    rintro _ _ ⟨rs, rs', rfl, rfl, hrs, hnames⟩
    exact .ok ⟨(name, r) :: rs, (name, r') :: rs', rfl, rfl, .cons ⟨rfl, hr⟩ hrs,
      congrArg (name :: ·) hnames⟩

end

/-- The renderings of two trees that differ in their locations alone match, if two dialects write them in
parallel. -/
theorem rendering_matches {t t' : Tree} (hform : t.unplaced = t'.unplaced)
    (h : d.Parallels V d' config t) :
    Matches (Failure.Corresponds t t') V (d.rendering config t).result
      (d'.rendering config t').result := by
  refine (node_matches hform h (d.covers_scopeFor_self t) (d'.covers_scopeFor_self t') 0).bind_run ?_
  rintro _ _ ⟨r, r', rfl, rfl, hr⟩
  exact .ok hr

theorem renderText_matches {t t' : Tree} (hform : t.unplaced = t'.unplaced)
    (h : d.Parallels V d' config t) :
    Matches (Failure.Corresponds t t')
      (fun text text' => ∃ r r', V r r' ∧ text = r.asFragment.text ∧ text' = r'.asFragment.text)
      (renderText d config t).result (renderText d' config t').result := by
  refine (rendering_matches hform h).bind_run ?_
  exact fun r r' hr => .ok ⟨r, r', hr, rfl, rfl⟩

theorem renderText_eq_of_parallels {t : Tree} (h : d.Parallels Eq d' config t) :
    (renderText d config t).result = (renderText d' config t).result := by
  have hmatches := renderText_matches rfl h
  generalize (renderText d config t).result = x at hmatches ⊢
  generalize (renderText d' config t).result = x' at hmatches ⊢
  cases hmatches with
  | ok htexts =>
    obtain ⟨r, _, rfl, rfl, rfl⟩ := htexts
    rfl
  | error hfailures => exact congrArg Except.error hfailures.eq_of_self

end Interpret

end ExprMarkup
