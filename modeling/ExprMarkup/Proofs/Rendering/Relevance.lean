import ExprMarkup.Proofs.Rendering.Failure

namespace ExprMarkup

namespace Dialect

variable {d d' : Dialect} {root : Tree}

/-- Dialects that know the same of the names of a tree build scopes that agree on it. -/
theorem agreeOn_scopeFor (hescaper : d'.escaper = d.escaper)
    (hheads : ∀ head ∈ root.calls, d'.operators.find? head = d.operators.find? head)
    (hsymbols : ∀ name ∈ root.symbols, d'.symbols.find? name = d.symbols.find? name) :
    (d'.scopeFor root).AgreeOn (d.scopeFor root) root where
  symbol name location hn := by
    have hname : name ∈ root.symbols := Tree.mem_symbols.mpr ⟨location, hn⟩
    have htext : d'.symbolText name = d.symbolText name := by
      rw [symbolText, symbolText, hsymbols name hname, hescaper]
    rw [resolve_scopeFor, resolve_scopeFor, if_pos (.inr hname), if_pos (.inr hname), htext]
  head head args named location hn := by
    have hhead : head ∈ root.calls := Tree.mem_calls.mpr ⟨args, named, location, hn⟩
    rw [resolveCall_scopeFor, resolveCall_scopeFor, hheads head hhead]

/-- A tree renders the same in dialects that know the same of its names. -/
theorem rendering_congr (hescaper : d'.escaper = d.escaper) (hfallback : d'.fallback = d.fallback)
    (hheads : ∀ head ∈ root.calls, d'.operators.find? head = d.operators.find? head)
    (hsymbols : ∀ name ∈ root.symbols, d'.symbols.find? name = d.symbols.find? name)
    (config : Config) :
    d'.rendering config root = d.rendering config root ∧
      Interpret.renderText d' config root = Interpret.renderText d config root := by
  have hagree := agreeOn_scopeFor hescaper hheads hsymbols
  have hrendering : d'.rendering config root = d.rendering config root := by
    rw [rendering, rendering, Interpret.render, Interpret.render,
      Interpret.node_congr hescaper hfallback hagree 0]
  refine ⟨hrendering, ?_⟩
  rw [rendering, rendering] at hrendering
  rw [Interpret.renderText, Interpret.renderText, hrendering]

/-- What a symbol stands for does not depend on the renderers, even on one of its own name. -/
theorem resolve_scopeFor_operators (d : Dialect) (operators : Registry) (root : Tree) (name : String) :
    ({ d with operators := operators }.scopeFor root).resolve name = (d.scopeFor root).resolve name := by
  rw [resolve_scopeFor, resolve_scopeFor]
  rfl

/-- What a head stands for does not depend on the known symbols, even on one of its own name. -/
theorem resolveCall_scopeFor_symbols (d : Dialect) (symbols : Table Fragment) (root : Tree)
    (head : String) :
    ({ d with symbols := symbols }.scopeFor root).resolveCall head =
      (d.scopeFor root).resolveCall head := by
  rw [resolveCall_scopeFor, resolveCall_scopeFor]

end Dialect

namespace Interpret

/-- Dialects with one escaper and one fallback render a tree alike if they know the same of its heads
in head position and of its symbols in symbol position. So a renderer can be added, replaced or removed
under any name that is no head, and a translation under any name that is no symbol; and where a name is
both, a change of one kind still does not reach the other position. -/
theorem rendering_unused_inert (d : Dialect) (config : Config) (root : Tree) :
    (∀ d' : Dialect, d'.escaper = d.escaper → d'.fallback = d.fallback →
      (∀ head ∈ root.calls, d'.operators.find? head = d.operators.find? head) →
      (∀ name ∈ root.symbols, d'.symbols.find? name = d.symbols.find? name) →
      d'.rendering config root = d.rendering config root ∧
        renderText d' config root = renderText d config root) ∧
      (∀ name (operators : Registry), name ∉ root.calls →
        (∀ other, other ≠ name → operators.find? other = d.operators.find? other) →
        renderText { d with operators := operators } config root = renderText d config root) ∧
      (∀ name (symbols : Table Fragment), name ∉ root.symbols →
        (∀ other, other ≠ name → symbols.find? other = d.symbols.find? other) →
        renderText { d with symbols := symbols } config root = renderText d config root) ∧
      (∀ operators name location,
        symbol ({ d with operators := operators }.scopeFor root) name location =
          symbol (d.scopeFor root) name location) ∧
      ∀ symbols head,
        chooseRenderer (some { d with symbols := symbols }) config
            ({ d with symbols := symbols }.scopeFor root) head =
          chooseRenderer (some d) config (d.scopeFor root) head := by
  refine ⟨?_, ?_, ?_, ?_, ?_⟩
  · intro d' hescaper hfallback hheads hsymbols
    exact Dialect.rendering_congr hescaper hfallback hheads hsymbols config
  · intro name operators hname hothers
    have hheads : ∀ head ∈ root.calls, operators.find? head = d.operators.find? head :=
      fun head hhead => hothers head fun heq => hname (heq ▸ hhead)
    exact (@Dialect.rendering_congr d { d with operators := operators } root rfl rfl hheads
      (fun _ _ => rfl) config).2
  · intro name symbols hname hothers
    have hsymbols : ∀ other ∈ root.symbols, symbols.find? other = d.symbols.find? other :=
      fun other hother => hothers other fun heq => hname (heq ▸ hother)
    exact (@Dialect.rendering_congr d { d with symbols := symbols } root rfl rfl (fun _ _ => rfl)
      hsymbols config).2
  · intro operators name location
    rw [symbol, symbol, d.resolve_scopeFor_operators]
  · intro symbols head
    exact chooseRenderer_congr rfl (d.resolveCall_scopeFor_symbols symbols root head)

/-- `wrap(deny, card(wrap))`: one name is registered and a symbol, and one is a head and a symbol. -/
def crossing : Tree :=
  .call "wrap" [.symbol "deny" none, .call "card" [.symbol "wrap" none] [] none] [] none

/-- The renderer that only a symbol is named after is taken away, and a translation is added that only a
head is named after. -/
theorem rendering_unused_inert_crossing :
    let d := Dialect.trial
    let operators : Registry := ⟨Table.ofList [("wrap", .container "w")]⟩
    let symbols : Table Fragment := Dialect.knownSymbols [("deny", "&not;"), ("card", "&clubs;")]
    (∀ head ∈ crossing.calls, operators.find? head = d.operators.find? head) ∧
      (∀ name ∈ crossing.symbols, symbols.find? name = d.symbols.find? name) ∧
      operators.find? "deny" = none ∧ (d.operators.find? "deny").isSome = true ∧
      (renderText d Config.default crossing).result = .ok "<w>&not;<card>wrap</card></w>" ∧
      renderText { d with operators := operators, symbols := symbols } Config.default crossing =
        renderText d Config.default crossing := by
  intro d operators symbols
  have hcalls : crossing.calls = ["wrap", "card"] := by
    rw [Tree.calls, Tree.nodes_eq_preorder]
    rfl
  have hnames : crossing.symbols = ["deny", "wrap"] := by
    rw [Tree.symbols, Tree.nodes_eq_preorder]
    rfl
  have hheads : ∀ head ∈ crossing.calls, operators.find? head = d.operators.find? head := by
    rw [hcalls]
    simp only [List.forall_mem_cons, List.not_mem_nil, false_imp_iff, implies_true, and_true]
    exact ⟨rfl, rfl⟩
  have hsymbols : ∀ name ∈ crossing.symbols, symbols.find? name = d.symbols.find? name := by
    rw [hnames]
    simp only [List.forall_mem_cons, List.not_mem_nil, false_imp_iff, implies_true, and_true]
    exact ⟨rfl, rfl⟩
  have htext : (renderText d Config.default crossing).result =
      .ok "<w>&not;<card>wrap</card></w>" := toOption_eq_some.mp (by decide +kernel)
  have hsame := (rendering_unused_inert d Config.default crossing).1
    { d with operators := operators, symbols := symbols } rfl rfl hheads hsymbols
  exact ⟨hheads, hsymbols, rfl, rfl, htext, hsame.2⟩

end Interpret

end ExprMarkup
