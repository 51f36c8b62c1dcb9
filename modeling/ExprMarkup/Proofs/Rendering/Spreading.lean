import ExprMarkup.Dialect.Latex
import ExprMarkup.Proofs.Markup.ReadBack
import ExprMarkup.Proofs.Rendering.Composition

namespace ExprMarkup

/-- Renderers that take the elements of their children. -/
def Renderer.spreads : Renderer → Bool
  | .container _ => true
  | .operator _ (.variadic _ _ _ _) => true
  | .mathFallback _ _ => true
  | _ => false

def Renderer.isContainer : Renderer → Bool
  | .container _ => true
  | _ => false

/-- A scalar that is there: the empty text for an absent one. -/
def Scalar.filled : Scalar → Scalar
  | .absent => .text ""
  | s => s

/-- Scalars as arguments of their own, each with its location. -/
def Tree.apart (items : List (Scalar × Option Location)) : List Tree :=
  items.map fun e => .literal (.scalar e.1) e.2

namespace Rendered

theorem flatten_append (values others : List Rendered) :
    flatten (values ++ others) = flatten values ++ flatten others :=
  List.flatMap_append

/-- A rendered value as an element of a sequence. -/
def element (r : Rendered) : Rendered := .one r.asFragment

theorem flatten_elements (rs : List Rendered) :
    flatten (rs.map element) = rs.map asFragment := by
  induction rs with
  | nil => rfl
  | cons r rest ih => exact congrArg (r.asFragment :: ·) ih

theorem flatten_many (fs : List Fragment) (others : List Rendered) :
    flatten (.many fs :: others) = fs ++ flatten others := rfl

/-- A list that has a sequence in it has the same text as the list with its elements. -/
theorem text_concat_spread (before rs after : List Rendered) :
    (concat (before ++ .many (rs.map asFragment) :: after)).text =
      (concat (before ++ rs ++ after)).text := by
  apply String.toList_inj.mp
  have hparts : ((rs.map asFragment).flatMap fun f => f.text.toList) =
      (flatten rs).flatMap fun f => f.text.toList := by
    simp only [List.flatMap_map, Markup.toList_asFragment, flatten, List.flatMap_assoc]
  simp only [concat, Markup.toList_joinFragments, flatten_append, flatten_many, List.flatMap_append,
    hparts, List.append_assoc]

end Rendered

namespace Renderer

variable {r : Renderer}

/-- Renderers that take the elements of their children cannot tell which child an element is from. -/
theorem run_congr_of_flatten (hr : r.spreads = true) {children children' : List Rendered}
    (h : Rendered.flatten children = Rendered.flatten children')
    (attributes : List (String × Rendered)) : r.run children attributes = r.run children' attributes := by
  cases r with
  | container tag => simp only [run, runContainer, Rendered.concat, h]
  | leaf tag selfClosing => cases hr
  | operator name template =>
    cases template with
    | slots pieces => cases hr
    | variadic opening separator closing least => simp only [run, runOperator, operands, h]
  | mathFallback head separator => simp only [run, runMathFallback, Rendered.flatten_append, h]
  | custom label own => cases hr

theorem run_spread (hr : r.spreads = true) (before rs after : List Rendered)
    (attributes : List (String × Rendered)) :
    r.run (before ++ .many (rs.map Rendered.asFragment) :: after) attributes =
      r.run (before ++ rs.map Rendered.element ++ after) attributes := by
  refine run_congr_of_flatten hr ?_ attributes
  rw [Rendered.flatten_append, Rendered.flatten_many, Rendered.flatten_append, Rendered.flatten_append,
    Rendered.flatten_elements, List.append_assoc]

/-- An element counts on the text of its children alone. -/
theorem run_spread_of_isContainer (hr : r.isContainer = true) (before rs after : List Rendered)
    (attributes : List (String × Rendered)) :
    r.run (before ++ .many (rs.map Rendered.asFragment) :: after) attributes =
      r.run (before ++ rs ++ after) attributes := by
  cases r with
  | container tag => simp only [run, runContainer, Rendered.text_concat_spread]
  | leaf tag selfClosing => cases hr
  | operator name template => cases hr
  | mathFallback head separator => cases hr
  | custom label own => cases hr

end Renderer

/-- What scalars come to one by one. -/
def Value.escapeEach (escaper : Text.Escaper) (items : List Scalar) : Except Fault (List Rendered) :=
  items.mapM fun s => Value.escape escaper (.scalar s)

section

variable {escaper : Text.Escaper} {items : List Scalar}

theorem escapeEach_cons (s : Scalar) (rest : List Scalar) :
    Value.escapeEach escaper (s :: rest) = (do
      let first ← Value.escape escaper (.scalar s)
      let others ← Value.escapeEach escaper rest
      return first :: others) := by
  rw [Value.escapeEach, List.mapM_cons]
  rfl

theorem escape_sequence :
    (Literal.sequence items).toValue.escape escaper =
      (Value.escapeEach escaper items).map fun rs => .many (rs.map Rendered.asFragment) := by
  have hitems : ∀ items : List Scalar, Value.escapeItems escaper (items.map .scalar) =
      (Value.escapeEach escaper items).map (List.map Rendered.asFragment) := by
    intro items
    induction items with
    | nil => rfl
    | cons s rest ih =>
      rw [List.map_cons, Value.escapeItems, ih, escapeEach_cons]
      cases Value.escape escaper (.scalar s) with
      | error b => rfl
      | ok first => cases Value.escapeEach escaper rest <;> rfl
  rw [Literal.toValue, Value.escape, hitems]
  cases Value.escapeEach escaper items <;> rfl

/-- What is there comes to one fragment. -/
theorem element_of_escape {s : Scalar} {r : Rendered} (hs : s ≠ .absent)
    (h : Value.escape escaper (.scalar s) = .ok r) : r.element = r := by
  obtain ⟨habsent, -⟩ | ⟨-, rfl⟩ := Markup.escape_scalar h
  · exact absurd habsent hs
  · rfl

theorem map_element_of_escapeEach (hitems : .absent ∉ items) {rs : List Rendered}
    (h : Value.escapeEach escaper items = .ok rs) : rs.map Rendered.element = rs := by
  induction items generalizing rs with
  | nil =>
    cases h
    rfl
  | cons s rest ih =>
    rw [List.mem_cons, not_or] at hitems
    rw [escapeEach_cons] at h
    obtain ⟨first, hfirst, h⟩ := bind_eq_ok.mp h
    obtain ⟨others, hothers, h⟩ := bind_eq_ok.mp h
    obtain rfl := pure_eq_ok.mp h
    rw [List.map_cons, element_of_escape (Ne.symm hitems.1) hfirst, ih hitems.2 hothers]

/-- Where the empty text is written as nothing, scalars in a sequence come to the same as with the empty
text for those that are absent. -/
theorem escapeEach_filled (hempty : escaper "" = "") :
    Value.escapeEach escaper (items.map Scalar.filled) =
      (Value.escapeEach escaper items).map (List.map Rendered.element) := by
  have hone : ∀ s : Scalar, Value.escape escaper (.scalar s.filled) =
      (Value.escape escaper (.scalar s)).map Rendered.element := by
    intro s
    by_cases hs : s = .absent
    · subst hs
      exact congrArg (fun text => Except.ok (Rendered.one ⟨text⟩)) hempty
    · have hfilled : s.filled = s := by
        cases s with
        | absent => exact absurd rfl hs
        | _ => rfl
      rw [hfilled]
      cases h : Value.escape escaper (.scalar s) with
      | error b => rfl
      | ok r => exact congrArg Except.ok (element_of_escape hs h).symm
  induction items with
  | nil => rfl
  | cons s rest ih =>
    rw [List.map_cons, escapeEach_cons, escapeEach_cons, ih, hone]
    cases Value.escape escaper (.scalar s) with
    | error b => rfl
    | ok first => cases Value.escapeEach escaper rest <;> rfl

end

namespace Interpret

variable {d : Dialect} {config : Config} {scope : Scope}

theorem positional_append {depth : Nat} (args others : List Tree) :
    (positional (some d) config scope depth (args ++ others)).result =
      (positional (some d) config scope depth args).result.bind fun vs =>
        (positional (some d) config scope depth others).result.map (vs ++ ·) := by
  induction args with
  | nil => cases h : (positional (some d) config scope depth others).result <;>
      simp [positional, h, Except.bind, Except.map]
  | cons t rest ih =>
    simp only [List.cons_append, positional, Run.result_bind, ih]
    cases (node (some d) config scope depth t).result with
    | error f => rfl
    | ok v =>
      cases (positional (some d) config scope depth rest).result with
      | error f => rfl
      | ok vs => cases (positional (some d) config scope depth others).result <;> rfl

theorem positional_sequence {depth : Nat} (hdepth : config.isExceededBy depth = false)
    (items : List Scalar) (place : Option Location) :
    (positional (some d) config scope depth [.literal (.sequence items) place]).result =
      ((Value.escapeEach d.escaper items).mapError .fault).map fun rs =>
        [some (.many (rs.map Rendered.asFragment))] := by
  simp only [positional, node, hdepth, literal, escape_sequence, Run.result_bind]
  cases Value.escapeEach d.escaper items <;> rfl

theorem positional_apart {depth : Nat} (hdepth : config.isExceededBy depth = false)
    (items : List (Scalar × Option Location)) :
    (positional (some d) config scope depth (Tree.apart items)).result =
      ((Value.escapeEach d.escaper (items.map Prod.fst)).mapError .fault).map (List.map some) := by
  induction items with
  | nil => rfl
  | cons e rest ih =>
    have hcons : Tree.apart (e :: rest) = .literal (.scalar e.1) e.2 :: Tree.apart rest := rfl
    rw [hcons, List.map_cons, escapeEach_cons]
    simp only [positional, node, hdepth, literal, Literal.toValue, Run.result_bind, ih]
    cases Value.escape d.escaper (.scalar e.1) with
    | error b => rfl
    | ok first => cases Value.escapeEach d.escaper (rest.map Prod.fst) <;> rfl

/-- A call whose renderer makes the same of two lists of arguments comes to the same with both. -/
theorem node_congr_part {root : Tree} {depth : Nat} {head : String} {before part part' after : List Tree}
    {named : List (String × Tree)} {location : Option Location} {x : Except Failure (List Rendered)}
    {f g : List Rendered → List Rendered}
    (hpart : (positional (some d) config (d.scopeFor root) (depth + 1) part).result =
      x.map fun rs => (f rs).map some)
    (hpart' : (positional (some d) config (d.scopeFor root) (depth + 1) part').result =
      x.map fun rs => (g rs).map some)
    (hrun : ∀ rs, x = .ok rs → ∀ children others attributes,
      (d.rendererFor config head).run (children ++ f rs ++ others) attributes =
        (d.rendererFor config head).run (children ++ g rs ++ others) attributes) :
    (node (some d) config (d.scopeFor root) depth
      (.call head (before ++ part ++ after) named location)).result =
        (node (some d) config (d.scopeFor root) depth
          (.call head (before ++ part' ++ after) named location)).result := by
  rw [node, node]
  split
  · rfl
  · simp only [Run.result_bind, chooseRenderer_result, positional_append, hpart, hpart']
    cases hbefore : (positional (some d) config (d.scopeFor root) (depth + 1) before).result with
    | error failure => rfl
    | ok vs =>
      obtain ⟨children, rfl, -⟩ := evaluateArgs_of_positional hbefore
      cases x with
      | error failure => rfl
      | ok rs =>
        cases hafter : (positional (some d) config (d.scopeFor root) (depth + 1) after).result with
        | error failure => rfl
        | ok us =>
          obtain ⟨others, rfl, -⟩ := evaluateArgs_of_positional hafter
          cases hkeyed : (keyed (some d) config (d.scopeFor root) (depth + 1) named).result with
          | error failure => rfl
          | ok ws =>
            obtain ⟨attributes, rfl, -⟩ := evaluateNamed_of_keyed hkeyed
            simp only [Except.bind, Except.map, ← List.map_append, invoke_result,
              hrun rs rfl children others attributes]

/-- Below the limit the first argument is what is refused. -/
theorem positional_tooDeep {depth : Nat} (hdepth : config.isExceededBy depth = true) (t : Tree)
    (rest : List Tree) :
    (positional (some d) config scope depth (t :: rest)).result = .error (tooDeep config t.location) := by
  have hnode : (node (some d) config scope depth t).result = .error (tooDeep config t.location) := by
    cases t <;> simp [node, hdepth, Tree.location]
  simp only [positional, Run.result_bind, hnode, Except.bind]

/-- So nothing but its place counts. -/
theorem positional_congr_tooDeep {depth : Nat} (hdepth : config.isExceededBy depth = true)
    {args args' : List Tree} (h : args.head?.map Tree.location = args'.head?.map Tree.location) :
    (positional (some d) config scope depth args).result =
      (positional (some d) config scope depth args').result := by
  cases args with
  | nil =>
    cases args' with
    | nil => rfl
    | cons t' rest' => cases h
  | cons t rest =>
    cases args' with
    | nil => cases h
    | cons t' rest' =>
      have hlocation : t.location = t'.location := Option.some.inj h
      rw [positional_tooDeep hdepth, positional_tooDeep hdepth, hlocation]

section

variable {head : String} {before after : List Tree} {named : List (String × Tree)}
  {location place : Option Location} {items items' : List (Scalar × Option Location)} {depth : Nat}

/-- A sequence among the arguments of a call, and scalars that are at the places of its elements and that
the renderer takes for them. -/
theorem node_spread {root : Tree} {g : List Rendered → List Rendered}
    (hplaces : items'.map Prod.snd = items.map Prod.snd)
    (hdepth : config.isExceededBy (depth + 1) = true →
      before ≠ [] ∨ items.head?.map Prod.snd = some place)
    (hvalues : Value.escapeEach d.escaper (items'.map Prod.fst) =
      (Value.escapeEach d.escaper (items.map Prod.fst)).map g)
    (hrun : ∀ rs, Value.escapeEach d.escaper (items.map Prod.fst) = .ok rs →
      ∀ children others attributes,
        (d.rendererFor config head).run (children ++ .many (rs.map Rendered.asFragment) :: others)
          attributes = (d.rendererFor config head).run (children ++ g rs ++ others) attributes) :
    (node (some d) config (d.scopeFor root) depth (.call head
      (before ++ .literal (.sequence (items.map Prod.fst)) place :: after) named location)).result =
        (node (some d) config (d.scopeFor root) depth
          (.call head (before ++ Tree.apart items' ++ after) named location)).result := by
  cases hexceeded : config.isExceededBy (depth + 1) with
  | true =>
    refine call_congr (positional_congr_tooDeep hexceeded ?_) rfl
    cases before with
    | cons b bs => rfl
    | nil =>
      have hfirst : items'.head?.map Prod.snd = some place := by
        rw [← List.head?_map, hplaces, List.head?_map]
        exact (hdepth hexceeded).resolve_left (fun h => h rfl)
      cases items' with
      | nil => cases hfirst
      | cons e rest => exact hfirst.symm
  | false =>
    have hpart := @positional_sequence d config (d.scopeFor root) _ hexceeded (items.map Prod.fst) place
    have hpart' := @positional_apart d config (d.scopeFor root) _ hexceeded items'
    rw [hvalues] at hpart'
    have hsplit : before ++ .literal (.sequence (items.map Prod.fst)) place :: after =
        before ++ [.literal (.sequence (items.map Prod.fst)) place] ++ after := by
      rw [List.append_assoc, List.singleton_append]
    rw [hsplit]
    refine node_congr_part (x := (Value.escapeEach d.escaper (items.map Prod.fst)).mapError .fault)
      (f := fun rs => [.many (rs.map Rendered.asFragment)]) (g := g) hpart ?_ ?_
    · rw [hpart']
      cases Value.escapeEach d.escaper (items.map Prod.fst) <;> rfl
    · intro rs hrs children others attributes
      rw [List.append_assoc, List.singleton_append]
      exact hrun rs (mapError_eq_ok.mp hrs) children others attributes

/-- A part that comes to the same as another, in every scope of a tree, can stand in for it. -/
theorem rendering_of_replaced {s s' t t' : Tree} (hreplaced : Replaced s s' depth t t')
    (h : ∀ root, (node (some d) config (d.scopeFor root) depth s).result =
      (node (some d) config (d.scopeFor root) depth s').result) :
    (d.rendering config t).result = (d.rendering config t').result := by
  have hcovers : (d.scopeFor (.call "" [t, t'] [] none)).Covers d t :=
    d.covers_scopeFor (Tree.mem_preorder_arg (by simp))
  have hcovers' : (d.scopeFor (.call "" [t, t'] [] none)).Covers d t' :=
    d.covers_scopeFor (Tree.mem_preorder_arg (by simp))
  have hnode := node_of_replaced hreplaced 0
    (by simpa only [Nat.zero_add] using h (.call "" [t, t'] [] none))
  rw [rendering_result hcovers, rendering_result hcovers', hnode]

/-- In a call whose renderer takes the elements of its children, a sequence can be exchanged for its
elements, wherever the call is, if none of them is absent or if the renderer is an element. In every other
case it can be exchanged for them with the empty text for each that is absent. Where arguments are too deep,
the first one has to be at the same place in both calls. -/
theorem rendering_spread (hspreads : (d.rendererFor config head).spreads = true)
    (hdepth : config.isExceededBy (depth + 1) = true →
      before ≠ [] ∨ items.head?.map Prod.snd = some place) :
    (∀ t t', .absent ∉ items.map Prod.fst ∨ (d.rendererFor config head).isContainer = true →
      Replaced
        (.call head (before ++ .literal (.sequence (items.map Prod.fst)) place :: after) named location)
        (.call head (before ++ Tree.apart items ++ after) named location) depth t t' →
      (d.rendering config t).result = (d.rendering config t').result) ∧
    (d.escaper "" = "" → ∀ t t', Replaced
        (.call head (before ++ .literal (.sequence (items.map Prod.fst)) place :: after) named location)
        (.call head (before ++ Tree.apart (items.map fun e => (e.1.filled, e.2)) ++ after) named location)
        depth t t' →
      (d.rendering config t).result = (d.rendering config t').result) := by
  constructor
  · intro t t' hpresent hreplaced
    refine rendering_of_replaced hreplaced fun root => ?_
    refine node_spread (g := id) rfl hdepth ?_ ?_
    · cases Value.escapeEach d.escaper (items.map Prod.fst) <;> rfl
    · intro rs hrs children others attributes
      obtain hpresent | hcontainer := hpresent
      · rw [Renderer.run_spread hspreads, map_element_of_escapeEach hpresent hrs, id]
      · exact Renderer.run_spread_of_isContainer hcontainer children rs others attributes
  · intro hempty t t' hreplaced
    refine rendering_of_replaced hreplaced fun root => ?_
    refine node_spread (g := List.map Rendered.element) ?_ hdepth ?_ ?_
    · rw [List.map_map]
      rfl
    · have hscalars : (items.map fun e => (e.1.filled, e.2)).map Prod.fst =
          (items.map Prod.fst).map Scalar.filled := by
        rw [List.map_map, List.map_map]
        rfl
      rw [hscalars, escapeEach_filled hempty]
    · intro rs _ children others attributes
      exact Renderer.run_spread hspreads children rs others attributes

end

open Dialect (latex)

/-- The greatest of some arguments. -/
def maximum (args : List Tree) : Tree := .call "max" args [] none

theorem rendering_spread_maximum :
    let rendering := latex.rendering Config.default
    let negated (args : List Tree) : Tree := .call "neg" [maximum args] [] none
    (latex.rendererFor Config.default "max").spreads = true ∧
      (rendering (negated [.literal (.sequence [.int 1, .int 2]) none])).result =
        (rendering (negated (Tree.apart [(.int 1, none), (.int 2, none)]))).result ∧
      (rendering (negated [.literal (.sequence [.int 1, .absent]) none])).result =
        (rendering (negated (Tree.apart [(.int 1, none), (.text "", none)]))).result := by
  intro rendering negated
  have hspreads : (latex.rendererFor Config.default "max").spreads = true := by decide +kernel
  have hdepth : ¬Config.default.isExceededBy 2 = true := by decide
  have hreplaced : ∀ s s', Replaced (maximum s) (maximum s') 1 (negated s) (negated s') := by
    intro s s'
    exact @Replaced.arg _ _ 0 (maximum s) (maximum s') "neg" [] [] [] none .here
  refine ⟨hspreads, ?_, ?_⟩
  · exact (@rendering_spread latex Config.default "max" [] [] [] none none [(.int 1, none), (.int 2, none)]
      1 hspreads (absurd · hdepth)).1 _ _ (.inl (by simp)) (hreplaced _ _)
  · exact (@rendering_spread latex Config.default "max" [] [] [] none none [(.int 1, none), (.absent, none)]
      1 hspreads (absurd · hdepth)).2 rfl _ _ (hreplaced _ _)

/-- Between two numbers, an absent value leaves an empty argument in a sequence, and none beside one. -/
theorem rendering_spread_absent :
    let sequence := maximum [.literal (.sequence [.int 1, .absent, .int 2]) none]
    let separate := maximum (Tree.apart [(.int 1, none), (.absent, none), (.int 2, none)])
    let rendering := latex.rendering Config.default
    (rendering sequence).result = .ok (.one ⟨"\\max(1, , 2)"⟩) ∧
      (rendering separate).result = .ok (.one ⟨"\\max(1, 2)"⟩) ∧
      (rendering sequence).result ≠ (rendering separate).result := by
  intro sequence separate rendering
  have hsequence : (rendering sequence).result = .ok (.one ⟨"\\max(1, , 2)"⟩) :=
    toOption_eq_some.mp (by decide +kernel)
  have hseparate : (rendering separate).result = .ok (.one ⟨"\\max(1, 2)"⟩) :=
    toOption_eq_some.mp (by decide +kernel)
  refine ⟨hsequence, hseparate, ?_⟩
  rw [hsequence, hseparate]
  simp

end Interpret

end ExprMarkup
