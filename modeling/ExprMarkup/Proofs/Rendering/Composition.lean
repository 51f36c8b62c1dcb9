import ExprMarkup.Proofs.Rendering.Depth

namespace ExprMarkup.Interpret

variable {d : Dialect} {config : Config} {scope : Scope}

mutual

/-- How deep a tree is counts only as far as its nodes may be too deep. -/
theorem node_eq_of_fits {depth depth' : Nat} {t : Tree} (h : config.Fits depth t)
    (h' : config.Fits depth' t) :
    node (some d) config scope depth t = node (some d) config scope depth' t := by
  cases t with
  | literal value location => simp only [node, h.self, h'.self]
  | symbol name location => simp only [node, h.self, h'.self]
  | call head args named location =>
    obtain ⟨hdepth, hargs, hnamed⟩ := Config.fits_call_iff.mp h
    obtain ⟨hdepth', hargs', hnamed'⟩ := Config.fits_call_iff.mp h'
    have hpositional := positional_eq_of_fits hargs hargs'
    have hkeyed := keyed_eq_of_fits hnamed hnamed'
    simp only [node, hdepth, hdepth', hpositional, hkeyed]
  | bare location => simp only [node, h.self, h'.self]

theorem positional_eq_of_fits {depth depth' : Nat} {args : List Tree}
    (h : ∀ t ∈ args, config.Fits depth t) (h' : ∀ t ∈ args, config.Fits depth' t) :
    positional (some d) config scope depth args = positional (some d) config scope depth' args := by
  cases args with
  | nil => rfl
  | cons t rest =>
    rw [List.forall_mem_cons] at h h'
    have hfirst := node_eq_of_fits h.1 h'.1
    have hothers := positional_eq_of_fits h.2 h'.2
    simp only [positional, hfirst, hothers]

theorem keyed_eq_of_fits {depth depth' : Nat} {named : List (String × Tree)}
    (h : ∀ e ∈ named, config.Fits depth e.2) (h' : ∀ e ∈ named, config.Fits depth' e.2) :
    keyed (some d) config scope depth named = keyed (some d) config scope depth' named := by
  cases named with
  | nil => rfl
  | cons e rest =>
    obtain ⟨name, t⟩ := e
    rw [List.forall_mem_cons] at h h'
    have hfirst := node_eq_of_fits h.1 h'.1
    have hothers := keyed_eq_of_fits h.2 h'.2
    simp only [keyed, hfirst, hothers]

end

/-- A rendering is that of its root, in any scope that covers the tree. -/
theorem rendering_result {t : Tree} (hcovers : scope.Covers d t) :
    (d.rendering config t).result = (node (some d) config scope 0 t).result.bind fun v =>
      v.elim (.error (.fault .notFragment)) .ok := by
  have hsame : node (some d) config (d.scopeFor t) 0 t = node (some d) config scope 0 t :=
    node_eq_of_covers (d.covers_scopeFor_self t) hcovers 0
  rw [Dialect.rendering, render, Run.result_bind, hsame]
  congr 1
  funext v
  cases v <;> rfl

theorem rendering_of_node {t : Tree} {x : Except Failure Rendered} (hcovers : scope.Covers d t)
    (h : (node (some d) config scope 0 t).result = x.map some) : (d.rendering config t).result = x := by
  rw [rendering_result hcovers, h]
  cases x <;> rfl

theorem rendering_ok_iff {t : Tree} {r : Rendered} :
    (d.rendering config t).result = .ok r ↔ ComesTo d config (d.scopeFor t) 0 t r := by
  rw [rendering_result (d.covers_scopeFor_self t), ComesTo]
  cases (node (some d) config (d.scopeFor t) 0 t).result with
  | error f => simp [Except.bind]
  | ok v => cases v <;> simp [Except.bind]

/-- Within the limit a tree comes to what it renders to on its own. -/
theorem comesTo_of_rendering {depth : Nat} {t : Tree} {r : Rendered} (hcovers : scope.Covers d t)
    (hfits : config.Fits depth t) (h : (d.rendering config t).result = .ok r) :
    ComesTo d config scope depth t r := by
  have hown := rendering_ok_iff.mp h
  have hself := d.covers_scopeFor_self t
  rw [ComesTo, node_eq_of_covers hcovers hself, node_eq_of_fits hfits (fits_of_comesTo hself hown)]
  exact hown

theorem positional_of_comesTo {depth : Nat} {args : List Tree} {children : List Rendered}
    (h : List.Forall₂ (ComesTo d config scope depth) args children) :
    (positional (some d) config scope depth args).result = .ok (children.map some) := by
  induction h with
  | nil => rfl
  | cons hfirst _ ih => exact Run.bind_ok.mpr ⟨_, hfirst, Run.bind_ok.mpr ⟨_, ih, rfl⟩⟩

theorem keyed_of_comesTo {depth : Nat} {named : List (String × Tree)}
    {attributes : List (String × Rendered)}
    (h : List.Forall₂ (fun e r => e.1 = r.1 ∧ ComesTo d config scope depth e.2 r.2) named attributes) :
    (keyed (some d) config scope depth named).result =
      .ok (attributes.map fun e => (e.1, some e.2)) := by
  induction h with
  | nil => rfl
  | @cons e r _ _ hfirst _ ih =>
    obtain ⟨name, t⟩ := e
    obtain ⟨hname, ht⟩ := hfirst
    rw [List.map_cons, ← hname]
    exact Run.bind_ok.mpr ⟨_, ht, Run.bind_ok.mpr ⟨_, ih, rfl⟩⟩

/-- A call comes to its renderer applied to what its arguments come to. -/
theorem call_of_comesTo {depth : Nat} {head : String} {args : List Tree} {named : List (String × Tree)}
    {location : Option Location} {children : List Rendered} {attributes : List (String × Rendered)}
    (hcovers : scope.Covers d (.call head args named location))
    (hdepth : config.isExceededBy depth = false)
    (hchildren : List.Forall₂ (ComesTo d config scope (depth + 1)) args children)
    (hattributes : List.Forall₂ (fun e r => e.1 = r.1 ∧ ComesTo d config scope (depth + 1) e.2 r.2)
      named attributes) :
    (node (some d) config scope depth (.call head args named location)).result =
      ((((d.rendererFor config head).run children attributes).mapError
        (Failure.locate location)).map .one).map some := by
  have hargs := positional_of_comesTo hchildren
  have hnamed := keyed_of_comesTo hattributes
  rw [node, if_neg (by simp [hdepth]), chooseRenderer_of_covers hcovers]
  simp only [Run.result_bind, Except.bind, hargs, hnamed, invoke_result]
  cases ((d.rendererFor config head).run children attributes).mapError (Failure.locate location) <;> rfl

/-- One tree is another with one part at some depth replaced. -/
inductive Replaced (s s' : Tree) : Nat → Tree → Tree → Prop
  | here : Replaced s s' 0 s s'
  | arg {depth : Nat} {t t' : Tree} {head : String} {before after : List Tree}
      {named : List (String × Tree)} {location : Option Location} (h : Replaced s s' depth t t') :
      Replaced s s' (depth + 1) (.call head (before ++ t :: after) named location)
        (.call head (before ++ t' :: after) named location)
  | named {depth : Nat} {t t' : Tree} {head name : String} {args : List Tree}
      {before after : List (String × Tree)} {location : Option Location}
      (h : Replaced s s' depth t t') :
      Replaced s s' (depth + 1) (.call head args (before ++ (name, t) :: after) location)
        (.call head args (before ++ (name, t') :: after) location)

theorem Replaced.mem_preorder {s s' t t' : Tree} {depth : Nat} (h : Replaced s s' depth t t') :
    s ∈ t.preorder ∧ s' ∈ t'.preorder := by
  induction h with
  | here => exact ⟨s.self_mem_preorder, s'.self_mem_preorder⟩
  | arg _ ih =>
    exact ⟨Tree.mem_preorder_trans (Tree.mem_preorder_arg (by simp)) ih.1,
      Tree.mem_preorder_trans (Tree.mem_preorder_arg (by simp)) ih.2⟩
  | @named _ t t' _ name _ _ _ _ _ ih =>
    exact ⟨Tree.mem_preorder_trans (Tree.mem_preorder_named (e := (name, t)) (by simp)) ih.1,
      Tree.mem_preorder_trans (Tree.mem_preorder_named (e := (name, t')) (by simp)) ih.2⟩

theorem positional_congr_at {depth : Nat} {t t' : Tree} (before after : List Tree)
    (h : (node (some d) config scope depth t).result = (node (some d) config scope depth t').result) :
    (positional (some d) config scope depth (before ++ t :: after)).result =
      (positional (some d) config scope depth (before ++ t' :: after)).result := by
  induction before with
  | nil => simp only [List.nil_append, positional, Run.result_bind, h]
  | cons first rest ih => simp only [List.cons_append, positional, Run.result_bind, ih]

theorem keyed_congr_at {depth : Nat} {name : String} {t t' : Tree}
    (before after : List (String × Tree))
    (h : (node (some d) config scope depth t).result = (node (some d) config scope depth t').result) :
    (keyed (some d) config scope depth (before ++ (name, t) :: after)).result =
      (keyed (some d) config scope depth (before ++ (name, t') :: after)).result := by
  induction before with
  | nil => simp only [List.nil_append, keyed, Run.result_bind, h]
  | cons first rest ih => simp only [List.cons_append, keyed, Run.result_bind, ih]

/-- Of its arguments, a call depends only on what they come to. -/
theorem call_congr {depth : Nat} {head : String} {args args' : List Tree}
    {named named' : List (String × Tree)} {location : Option Location}
    (hargs : (positional (some d) config scope (depth + 1) args).result =
      (positional (some d) config scope (depth + 1) args').result)
    (hnamed : (keyed (some d) config scope (depth + 1) named).result =
      (keyed (some d) config scope (depth + 1) named').result) :
    (node (some d) config scope depth (.call head args named location)).result =
      (node (some d) config scope depth (.call head args' named' location)).result := by
  rw [node, node]
  split
  · rfl
  · simp only [Run.result_bind, hargs, hnamed]

theorem node_of_replaced {s s' t t' : Tree} {depth : Nat} (h : Replaced s s' depth t t')
    (above : Nat)
    (hs : (node (some d) config scope (above + depth) s).result =
      (node (some d) config scope (above + depth) s').result) :
    (node (some d) config scope above t).result = (node (some d) config scope above t').result := by
  induction h generalizing above with
  | here => exact hs
  | @arg depth t t' head before after named location _ ih =>
    have hpart := ih (above + 1) (by rwa [Nat.add_assoc, Nat.add_comm 1])
    exact call_congr (positional_congr_at before after hpart) rfl
  | @named depth t t' head name args before after location _ ih =>
    have hpart := ih (above + 1) (by rwa [Nat.add_assoc, Nat.add_comm 1])
    exact call_congr rfl (keyed_congr_at before after hpart)

/-- A part renders in the scope of the whole as in its own, a call renders as its renderer makes of what
its arguments render to on their own, and parts that render to the same can be exchanged. -/
theorem rendering_compositional (d : Dialect) (config : Config) :
    (∀ root s, s ∈ root.preorder →
      render (some d) config (d.scopeFor root) s = d.rendering config s ∧
      ∀ depth, node (some d) config (d.scopeFor root) depth s =
        node (some d) config (d.scopeFor s) depth s) ∧
      (∀ head args named location children attributes,
        config.Fits 0 (.call head args named location) →
        List.Forall₂ (fun t r => (d.rendering config t).result = .ok r) args children →
        List.Forall₂ (fun e r => e.1 = r.1 ∧ (d.rendering config e.2).result = .ok r.2) named
          attributes →
        (d.rendering config (.call head args named location)).result =
          (((d.rendererFor config head).run children attributes).mapError
            (Failure.locate location)).map .one) ∧
      ∀ s s' depth t t' r, Replaced s s' depth t t' → (d.rendering config s).result = .ok r →
        (d.rendering config s').result = .ok r → config.Fits depth s → config.Fits depth s' →
        (d.rendering config t).result = (d.rendering config t').result := by
  refine ⟨?_, ?_, ?_⟩
  · intro root s hs
    have hnode : ∀ depth, node (some d) config (d.scopeFor root) depth s =
        node (some d) config (d.scopeFor s) depth s :=
      node_eq_of_covers (d.covers_scopeFor hs) (d.covers_scopeFor_self s)
    refine ⟨?_, hnode⟩
    rw [Dialect.rendering, render, render, hnode]
  · intro head args named location children attributes hfits hchildren hattributes
    obtain ⟨hdepth, hargs, hnamed⟩ := Config.fits_call_iff.mp hfits
    have hcovers := d.covers_scopeFor_self (.call head args named location)
    have hparts : ∀ t ∈ args, (d.scopeFor (.call head args named location)).Covers d t ∧
        config.Fits 1 t := fun t ht => ⟨hcovers.part (Tree.mem_preorder_arg ht), hargs t ht⟩
    have hentries : ∀ e ∈ named, (d.scopeFor (.call head args named location)).Covers d e.2 ∧
        config.Fits 1 e.2 := fun e he => ⟨hcovers.part (Tree.mem_preorder_named he), hnamed e he⟩
    have hcomes : List.Forall₂ (ComesTo d config (d.scopeFor (.call head args named location)) 1) args
        children := by
      refine ((List.forall₂_and_left _ _).mpr ⟨hparts, hchildren⟩).imp ?_
      rintro t r ⟨⟨hcovered, hfit⟩, hr⟩
      exact comesTo_of_rendering hcovered hfit hr
    have hcomes' : List.Forall₂ (fun e r => e.1 = r.1 ∧
        ComesTo d config (d.scopeFor (.call head args named location)) 1 e.2 r.2) named attributes := by
      refine ((List.forall₂_and_left _ _).mpr ⟨hentries, hattributes⟩).imp ?_
      rintro e r ⟨⟨hcovered, hfit⟩, hname, hr⟩
      exact ⟨hname, comesTo_of_rendering hcovered hfit hr⟩
    exact rendering_of_node hcovers (call_of_comesTo hcovers hdepth hcomes hcomes')
  · intro s s' depth t t' r hreplaced hs hs' hfits hfits'
    have hcovers : (d.scopeFor (.call "" [t, t'] [] none)).Covers d t :=
      d.covers_scopeFor (Tree.mem_preorder_arg (by simp))
    have hcovers' : (d.scopeFor (.call "" [t, t'] [] none)).Covers d t' :=
      d.covers_scopeFor (Tree.mem_preorder_arg (by simp))
    obtain ⟨hpart, hpart'⟩ := hreplaced.mem_preorder
    have hcomes := comesTo_of_rendering (hcovers.part hpart) hfits hs
    have hcomes' := comesTo_of_rendering (hcovers'.part hpart') hfits' hs'
    rw [rendering_result hcovers, rendering_result hcovers']
    rw [node_of_replaced hreplaced 0 (by rw [Nat.zero_add, hcomes, hcomes'])]

/-- An element around some part, which has a name that the dialect knows beside it. -/
def holding (t : Tree) : Tree :=
  .call "card" [.symbol "deny" none, t] [("id", .symbol "x" none)] none

theorem rendering_compositional_holding :
    let symbol : Tree := .symbol "<" none
    let literal : Tree := .literal (.scalar (.text "<")) none
    let rendering := Dialect.trial.rendering Config.default
    symbol ∈ (holding symbol).preorder ∧
      render (some Dialect.trial) Config.default (Dialect.trial.scopeFor (holding symbol)) symbol =
        rendering symbol ∧
      (rendering symbol).result = .ok (.one ⟨"&lt;"⟩) ∧
      (rendering literal).result = .ok (.one ⟨"&lt;"⟩) ∧
      Config.default.Fits 1 symbol ∧ Config.default.Fits 1 literal ∧
      (rendering (holding symbol)).result = (rendering (holding literal)).result ∧
      Config.default.Fits 0 (holding symbol) ∧
      (rendering (holding symbol)).result =
        (((Dialect.trial.rendererFor Config.default "card").run [.one ⟨"&not;"⟩, .one ⟨"&lt;"⟩]
          [("id", .one ⟨"x"⟩)]).mapError (Failure.locate none)).map .one := by
  intro symbol literal rendering
  obtain ⟨hscopes, hcalls, hparts⟩ := rendering_compositional Dialect.trial Config.default
  have hmem : symbol ∈ (holding symbol).preorder := Tree.mem_preorder_arg (by simp)
  have hsymbol : (rendering symbol).result = .ok (.one ⟨"&lt;"⟩) :=
    toOption_eq_some.mp (by decide +kernel)
  have hknown : (rendering (.symbol "deny" none)).result = .ok (.one ⟨"&not;"⟩) :=
    toOption_eq_some.mp (by decide +kernel)
  have hunknown : (rendering (.symbol "x" none)).result = .ok (.one ⟨"x"⟩) :=
    toOption_eq_some.mp (by decide +kernel)
  have hliteral : (rendering literal).result = .ok (.one ⟨"&lt;"⟩) := rfl
  have hfits : Config.default.Fits 1 symbol := by
    simp only [Config.Fits, symbol, Tree.levels]
    decide
  have hfits' : Config.default.Fits 1 literal := by
    simp only [Config.Fits, literal, Tree.levels]
    decide
  have hwhole : Config.default.Fits 0 (holding symbol) := by
    simp only [Config.Fits, holding, symbol, Tree.levels, Tree.levelsArgs, Tree.levelsNamed]
    decide
  have hreplaced : Replaced symbol literal 1 (holding symbol) (holding literal) :=
    @Replaced.arg _ _ 0 symbol literal "card" [.symbol "deny" none] [] [("id", .symbol "x" none)] none
      .here
  refine ⟨hmem, (hscopes _ _ hmem).1, hsymbol, hliteral, hfits, hfits', ?_, hwhole, ?_⟩
  · exact hparts _ _ _ _ _ _ hreplaced hsymbol hliteral hfits hfits'
  · exact hcalls _ _ _ _ _ _ hwhole (.cons hknown (.cons hsymbol .nil))
      (.cons ⟨rfl, hunknown⟩ .nil)

end ExprMarkup.Interpret
