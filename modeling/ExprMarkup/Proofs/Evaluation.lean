import ExprMarkup.Interpret

namespace ExprMarkup

namespace Run

variable {α β : Type}

@[simp] theorem result_pure (a : α) : (pure a : Run α).result = .ok a := rfl

@[simp] theorem result_fail (e : Failure) : (fail e : Run α).result = .error e := rfl

@[simp] theorem result_ofExcept (e : Except Failure α) : (ofExcept e).result = e := rfl

@[simp] theorem result_record (e : Event) : (record e).result = .ok () := rfl

theorem result_bind (r : Run α) (next : α → Run β) :
    (r >>= next).result = r.result.bind fun a => (next a).result := by
  change (Run.bind r next).result = _
  unfold Run.bind
  cases r.result <;> rfl

/-- A computation in two steps succeeds when both steps do. -/
theorem bind_ok {r : Run α} {next : α → Run β} {b : β} :
    (r >>= next).result = .ok b ↔ ∃ a, r.result = .ok a ∧ (next a).result = .ok b := by
  rw [result_bind]
  cases h : r.result <;> simp [Except.bind]

end Run

namespace Dialect

/-- What a symbol is written as: its known text, or else its escaped name. -/
def symbolText (d : Dialect) (name : String) : Fragment :=
  (d.symbols.find? name).getD ⟨d.escaper name⟩

/-- The renderer of a head: the registered one, or else the fallback. -/
def rendererFor (d : Dialect) (config : Config) (head : String) : Renderer :=
  (d.operators.find? head).getD (d.fallback head config)

/-- In a dialect's own scope a name stands for its symbol text if the dialect knows it or the tree has
a symbol of that name, and for nothing otherwise. -/
theorem resolve_scopeFor (d : Dialect) (root : Tree) (name : String) :
    (d.scopeFor root).resolve name =
      if (d.symbols.find? name).isSome ∨ name ∈ root.symbols then
        some (.fragment (d.symbolText name)) else none := by
  have hown := Table.find?_ofList_map root.nodup_symbols
    (fun name => Binding.fragment ⟨d.escaper name⟩) name
  have hknown := Table.find?_map Binding.fragment d.symbols name
  simp only [scopeFor, Scope.build, Scope.resolve, Scope.first?, Bool.not_true, Bool.not_false,
    Bool.false_eq_true, if_false, if_true, hown, hknown, symbolText]
  cases d.symbols.find? name with
  | some f => simp
  | none => by_cases h : name ∈ root.symbols <;> simp [h]

theorem resolveCall_scopeFor (d : Dialect) (root : Tree) (head : String) :
    (d.scopeFor root).resolveCall head = (d.operators.find? head).map .renderer := by
  have hknown := Table.find?_map Binding.renderer d.operators.renderers head
  simp only [scopeFor, Scope.build, Scope.resolveCall, Scope.first?, if_true, hknown, Registry.find?]
  cases d.operators.renderers.find? head <;> simp

mutual

/-- The value of a tree. -/
def evaluate (d : Dialect) (config : Config) : Tree → Except Failure Rendered
  | .literal value _ => (value.toValue.escape d.escaper).mapError .fault
  | .symbol name _ => .ok (.one (d.symbolText name))
  | .call head args named location => do
    let children ← evaluateArgs d config args
    let attributes ← evaluateNamed d config named
    (((d.rendererFor config head).run children attributes).mapError
      (Failure.locate location)).map .one
  | .bare location => .error (.malformed .unknownNode location)

def evaluateArgs (d : Dialect) (config : Config) : List Tree → Except Failure (List Rendered)
  | [] => .ok []
  | t :: rest => do
    let first ← evaluate d config t
    return first :: (← evaluateArgs d config rest)

def evaluateNamed (d : Dialect) (config : Config) :
    List (String × Tree) → Except Failure (List (String × Rendered))
  | [] => .ok []
  | (name, t) :: rest => do
    let first ← evaluate d config t
    return (name, first) :: (← evaluateNamed d config rest)

end

theorem evaluate_call_ok {d : Dialect} {config : Config} {head : String} {args : List Tree}
    {named : List (String × Tree)} {location : Option Location} {r : Rendered} :
    evaluate d config (.call head args named location) = .ok r ↔
      ∃ children attributes f, evaluateArgs d config args = .ok children ∧
        evaluateNamed d config named = .ok attributes ∧
        (d.rendererFor config head).run children attributes = .ok f ∧ r = .one f := by
  rw [evaluate, bind_eq_ok]
  constructor
  · rintro ⟨children, hchildren, h⟩
    obtain ⟨attributes, hattributes, h⟩ := bind_eq_ok.mp h
    obtain ⟨f, hf, rfl⟩ := map_eq_ok.mp h
    exact ⟨children, attributes, f, hchildren, hattributes, mapError_eq_ok.mp hf, rfl⟩
  · rintro ⟨children, attributes, f, hchildren, hattributes, hf, rfl⟩
    refine ⟨children, hchildren, bind_eq_ok.mpr ⟨attributes, hattributes, ?_⟩⟩
    exact map_eq_ok.mpr ⟨f, mapError_eq_ok.mpr hf, rfl⟩

theorem evaluateArgs_cons_ok {d : Dialect} {config : Config} {t : Tree} {rest : List Tree}
    {rs : List Rendered} :
    evaluateArgs d config (t :: rest) = .ok rs ↔
      ∃ r others, evaluate d config t = .ok r ∧ evaluateArgs d config rest = .ok others ∧
        rs = r :: others := by
  simp only [evaluateArgs, bind_eq_ok, pure_eq_ok, exists_and_left, @eq_comm _ rs]

theorem evaluateNamed_cons_ok {d : Dialect} {config : Config} {name : String} {t : Tree}
    {rest : List (String × Tree)} {rs : List (String × Rendered)} :
    evaluateNamed d config ((name, t) :: rest) = .ok rs ↔
      ∃ r others, evaluate d config t = .ok r ∧ evaluateNamed d config rest = .ok others ∧
        rs = (name, r) :: others := by
  simp only [evaluateNamed, bind_eq_ok, pure_eq_ok, exists_and_left, @eq_comm _ rs]

end Dialect

namespace Interpret

variable {d : Dialect} {config : Config}

theorem mapM_id_map_some {α : Type} (items : List α) : (items.map some).mapM id = some items := by
  induction items with
  | nil => rfl
  | cons a rest ih => simp [ih]

theorem mapM_named_some {α : Type} (items : List (String × α)) :
    ((items.map fun e => (e.1, some e.2)).mapM fun e => e.2.map fun value => (e.1, value)) =
      some items := by
  induction items with
  | nil => rfl
  | cons a rest ih => simp [ih]

/-- On arguments that all have a text, calling a renderer is running it. -/
theorem invoke_result (r : Renderer) (head : String) (location : Option Location)
    (children : List Rendered) (attributes : List (String × Rendered)) :
    (invoke (some r) head location (children.map some)
      (attributes.map fun e => (e.1, some e.2))).result =
        ((r.run children attributes).mapError (Failure.locate location)).map .one := by
  simp only [invoke, mapM_id_map_some, mapM_named_some]

theorem chooseRenderer_result (root : Tree) (head : String) :
    (chooseRenderer (some d) config (d.scopeFor root) head).result =
      .ok (some (d.rendererFor config head)) := by
  unfold chooseRenderer Dialect.rendererFor
  rw [Dialect.resolveCall_scopeFor]
  cases d.operators.find? head <;> simp [Run.result_bind, Except.bind]

theorem symbol_ok {root : Tree} {name : String} {location : Option Location} {v : Option Rendered}
    (h : (symbol (d.scopeFor root) name location).result = .ok v) :
    v = some (.one (d.symbolText name)) := by
  unfold symbol at h
  rw [Dialect.resolve_scopeFor] at h
  split at h
  · next f hf =>
    split at hf
    · obtain rfl : d.symbolText name = f := by simpa using hf
      simpa using h.symm
    · simp at hf
  · next b hb hf =>
    split at hf
    · obtain rfl : Binding.fragment (d.symbolText name) = b := by simpa using hf
      exact absurd rfl (hb _)
    · simp at hf
  · simp at h

mutual

/-- What a node of a tree comes to in the scope of the whole is its value. -/
theorem evaluate_of_node {root : Tree} {depth : Nat} {t : Tree} {v : Option Rendered}
    (h : (node (some d) config (d.scopeFor root) depth t).result = .ok v) :
    ∃ r, v = some r ∧ d.evaluate config t = .ok r := by
  cases t with
  | literal value location =>
    unfold node at h
    split at h
    · simp at h
    · obtain ⟨r, hr, hv⟩ := Run.bind_ok.mp h
      exact ⟨r, by simpa using hv.symm, by simpa [literal, Dialect.evaluate] using hr⟩
  | symbol name location =>
    unfold node at h
    split at h
    · simp at h
    · exact ⟨_, symbol_ok h, rfl⟩
  | call head args named location =>
    unfold node at h
    split at h
    · simp at h
    · obtain ⟨renderer, hrenderer, h⟩ := Run.bind_ok.mp h
      obtain ⟨children, hchildren, h⟩ := Run.bind_ok.mp h
      obtain ⟨attributes, hattributes, h⟩ := Run.bind_ok.mp h
      obtain ⟨r, hr, hv⟩ := Run.bind_ok.mp h
      obtain ⟨cs, rfl, hcs⟩ := evaluateArgs_of_positional hchildren
      obtain ⟨as, rfl, has⟩ := evaluateNamed_of_keyed hattributes
      rw [chooseRenderer_result] at hrenderer
      obtain rfl : some (d.rendererFor config head) = renderer := by simpa using hrenderer
      rw [invoke_result] at hr
      refine ⟨r, by simpa using hv.symm, ?_⟩
      simp only [Dialect.evaluate, hcs, has, bind, Except.bind]
      exact hr
  | bare location =>
    unfold node at h
    split at h <;> simp at h

theorem evaluateArgs_of_positional {root : Tree} {depth : Nat} {args : List Tree}
    {vs : List (Option Rendered)}
    (h : (positional (some d) config (d.scopeFor root) depth args).result = .ok vs) :
    ∃ rs, vs = rs.map some ∧ d.evaluateArgs config args = .ok rs := by
  cases args with
  | nil => exact ⟨[], by simpa [positional] using h.symm, rfl⟩
  | cons t rest =>
    unfold positional at h
    obtain ⟨v, hv, h⟩ := Run.bind_ok.mp h
    obtain ⟨others, hothers, h⟩ := Run.bind_ok.mp h
    obtain ⟨r, rfl, hr⟩ := evaluate_of_node hv
    obtain ⟨rs, rfl, hrs⟩ := evaluateArgs_of_positional hothers
    exact ⟨r :: rs, by simpa using h.symm,
      Dialect.evaluateArgs_cons_ok.mpr ⟨r, rs, hr, hrs, rfl⟩⟩

theorem evaluateNamed_of_keyed {root : Tree} {depth : Nat} {named : List (String × Tree)}
    {vs : List (String × Option Rendered)}
    (h : (keyed (some d) config (d.scopeFor root) depth named).result = .ok vs) :
    ∃ rs, vs = rs.map (fun e => (e.1, some e.2)) ∧ d.evaluateNamed config named = .ok rs := by
  cases named with
  | nil => exact ⟨[], by simpa [keyed] using h.symm, rfl⟩
  | cons e rest =>
    obtain ⟨name, t⟩ := e
    unfold keyed at h
    obtain ⟨v, hv, h⟩ := Run.bind_ok.mp h
    obtain ⟨others, hothers, h⟩ := Run.bind_ok.mp h
    obtain ⟨r, rfl, hr⟩ := evaluate_of_node hv
    obtain ⟨rs, rfl, hrs⟩ := evaluateNamed_of_keyed hothers
    exact ⟨(name, r) :: rs, by simpa using h.symm,
      Dialect.evaluateNamed_cons_ok.mpr ⟨r, rs, hr, hrs, rfl⟩⟩

end

/-- The text of a rendering is the text of the tree's value. -/
theorem evaluate_of_renderText {root : Tree} {text : String}
    (h : (renderText d config root).result = .ok text) :
    ∃ r, d.evaluate config root = .ok r ∧ text = r.asFragment.text := by
  obtain ⟨r, hrender, htext⟩ := Run.bind_ok.mp h
  obtain ⟨v, hnode, hv⟩ := Run.bind_ok.mp hrender
  obtain ⟨r', rfl, hr⟩ := evaluate_of_node hnode
  obtain rfl : r' = r := by simpa using hv
  exact ⟨r', hr, by simpa using htext.symm⟩

end Interpret

end ExprMarkup
