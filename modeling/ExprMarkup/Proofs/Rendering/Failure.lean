import ExprMarkup.Proofs.Rendering.Schedule

namespace ExprMarkup

/-- The errors with which a renderer turns down what it is given. -/
def Cause.isRejection : Cause → Bool
  | .malformed _ => false
  | .structural _ _ => true
  | .attribute _ _ => true
  | .scope _ => false
  | .general _ => false

/-- A symbol is missing from its scope, or is said to be. -/
def Failure.IsScopeGap (f : Failure) : Prop := ∃ why, f.cause? = some (.scope why)

theorem Failure.not_isScopeGap {f : Failure}
    (h : ∀ e, f = .error e → e.cause.isRejection = true) : ¬f.IsScopeGap := by
  rintro ⟨why, hwhy⟩
  cases f with
  | fault b => cases hwhy
  | error e =>
    have hcause : e.cause = .scope why := Option.some.inj hwhy
    have hrejection := h e rfl
    rw [hcause] at hrejection
    cases hrejection

theorem Failure.locate_of_isRejection {e : Error} (h : e.cause.isRejection = true)
    (location : Option Location) :
    (Failure.error e).locate location = .error ⟨e.cause, e.location.or location⟩ := by
  obtain ⟨cause, own⟩ := e
  have hplace : Error.locate ⟨cause, own⟩ location = ⟨cause, own.or location⟩ := by
    cases own <;> rfl
  match cause, h with
  | .structural _ _, _ => exact congrArg Failure.error hplace
  | .attribute _ _, _ => exact congrArg Failure.error hplace

/-- As a renderer raises an error: it turns something down, and leaves the location to the rendering. -/
def Error.IsRaised (e : Error) : Prop := e.location = none ∧ e.cause.isRejection = true

namespace Renderer

/-- Whatever errors the renderer raises are rejections. -/
def Rejects (r : Renderer) : Prop :=
  ∀ children attributes e, r.run children attributes = .error (.error e) → e.cause.isRejection = true

theorem isRaised_of_writeAll {attributes : List (String × Rendered)} {e : Error}
    (h : Attribute.writeAll attributes = .error e) : e.IsRaised := by
  induction attributes with
  | nil => cases h
  | cons first rest ih =>
    obtain ⟨name, value⟩ := first
    rcases bind_eq_error.mp h with hfirst | ⟨text, -, h⟩
    · unfold Attribute.write at hfirst
      split at hfirst <;> cases hfirst
      exact ⟨rfl, rfl⟩
    · rcases bind_eq_error.mp h with hrest | ⟨texts, -, h⟩
      · exact ih hrest
      · cases h

theorem isRaised_of_operands {name : String} {template : Template} {children : List Rendered}
    {e : Error} (h : operands name template children = .error e) : e.IsRaised := by
  have hsingles : ∀ position, singles name position children = .error e → e.IsRaised := by
    clear h
    intro position h
    induction children generalizing position with
    | nil => cases h
    | cons child rest ih =>
      unfold singles at h
      split at h
      · cases h
        exact ⟨rfl, rfl⟩
      · rcases bind_eq_error.mp h with hrest | ⟨fs, -, h⟩
        · exact ih _ hrest
        · cases h
  cases template with
  | slots pieces =>
    rcases bind_eq_error.mp h with hargs | ⟨args, -, h⟩
    · exact hsingles 1 hargs
    · split at h <;> cases h
      exact ⟨rfl, rfl⟩
  | variadic opening separator closing least =>
    simp only [operands] at h
    split at h <;> cases h
    exact ⟨rfl, rfl⟩

/-- The renderers of elements and of operators leave the locations of their errors open, and the fallback
of mathematics raises none at all. -/
theorem error_of_run {r : Renderer} {p : Error → Prop} (hraised : ∀ e : Error, e.IsRaised → p e)
    (hcustom : ∀ label own, r = .custom label own → ∀ children attributes e,
      own children attributes = .error e → p e)
    {children : List Rendered} {attributes : List (String × Rendered)} {e : Error}
    (h : r.run children attributes = .error (.error e)) : p e := by
  cases r with
  | container tag =>
    obtain ⟨e', h, heq⟩ := mapError_eq_error.mp h
    cases heq
    rcases bind_eq_error.mp h with hwritten | ⟨written, -, h⟩
    · exact hraised e (isRaised_of_writeAll hwritten)
    · cases h
  | leaf tag selfClosing =>
    obtain ⟨e', h, heq⟩ := mapError_eq_error.mp h
    cases heq
    cases children with
    | nil =>
      rcases bind_eq_error.mp h with hwritten | ⟨written, -, h⟩
      · exact hraised e (isRaised_of_writeAll hwritten)
      · cases h
    | cons child rest =>
      cases h
      exact hraised _ ⟨rfl, rfl⟩
  | operator name template =>
    cases attributes with
    | nil =>
      rcases bind_eq_error.mp h with hargs | ⟨args, -, h⟩
      · obtain ⟨e', hargs, heq⟩ := mapError_eq_error.mp hargs
        cases heq
        exact hraised e (isRaised_of_operands hargs)
      · rcases bind_eq_error.mp h with htext | ⟨text, -, h⟩
        · obtain ⟨b, -, heq⟩ := mapError_eq_error.mp htext
          cases heq
        · cases h
    | cons first rest =>
      cases h
      exact hraised _ ⟨rfl, rfl⟩
  | mathFallback head separator =>
    obtain ⟨b, -, heq⟩ := mapError_eq_error.mp h
    cases heq
  | custom label own =>
    obtain ⟨e', h, heq⟩ := mapError_eq_error.mp h
    cases heq
    exact hcustom label own rfl children attributes e h

theorem rejects {r : Renderer}
    (hcustom : ∀ label own, r = .custom label own → ∀ children attributes e,
      own children attributes = .error e → e.cause.isRejection = true) : r.Rejects := by
  intro children attributes e h
  exact error_of_run (fun e he => he.2) hcustom h

end Renderer

namespace Dialect

/-- What holds of the registered renderers and of the fallback holds of the renderer of any head. -/
theorem forall_rendererFor {d : Dialect} {config : Config} {p : Renderer → Prop}
    (hregistered : ∀ e ∈ d.operators.renderers.entries, p e.2)
    (hfallback : ∀ head, p (d.fallback head config)) (head : String) :
    p (d.rendererFor config head) := by
  unfold rendererFor
  cases hfound : d.operators.find? head with
  | none => exact hfallback head
  | some r =>
    obtain ⟨e, hfind, hr⟩ := Option.map_eq_some_iff.mp hfound
    rw [Option.getD_some, ← hr]
    exact hregistered e (List.mem_of_find?_eq_some hfind)

/-- A dialect in which one renderer denies everything, and its name is a symbol too. -/
def trial : Dialect where
  name := "trial"
  escaper := Text.escapeHtml
  operators := ⟨Table.ofList [("wrap", .container "w"),
    ("deny", .custom "deny" fun _ _ => .error ⟨.structural "deny" (.other "denied"), none⟩)]⟩
  symbols := knownSymbols [("deny", "&not;")]
  fallback head _ := .container head

theorem rejects_trial (config : Config) (head : String) : (trial.rendererFor config head).Rejects := by
  refine forall_rendererFor ?_ ?_ head
  · intro entry hentry
    have hmem := Table.mem_ofList hentry
    simp only [List.mem_cons, List.not_mem_nil, or_false] at hmem
    rcases hmem with rfl | rfl
    · refine Renderer.rejects ?_
      rintro label own ⟨⟩
    · refine Renderer.rejects ?_
      rintro label own ⟨⟩ children attributes e ⟨⟩
      rfl
  · intro head
    refine Renderer.rejects ?_
    rintro label own ⟨⟩

end Dialect

namespace Interpret

variable {d : Dialect} {config : Config}

/-- A rendering fails as the first step of its schedule does that fails. -/
theorem first_failing_of_rendering {root : Tree} {f : Failure}
    (h : (d.rendering config root).result = .error f) :
    ∃ done s rest before last, schedule 0 root = done ++ s :: rest ∧
      (d.rendering config root).events = before ++ last ∧
      Executes d config (d.scopeFor root) done before none ∧
      Performs d config (d.scopeFor root) s last (some f) := by
  cases rendering_follows d config root with
  | ok hsteps hresult hvalue =>
    rw [hresult] at h
    cases h
  | @error f' hsteps hresult =>
    rw [hresult] at h
    cases h
    exact hsteps.first_failing

/-- Of the failures of steps, only those of renderers can be about scopes. -/
theorem Performs.invoked_of_isScopeGap {scope : Scope} {s : Step} {events : List Event} {f : Failure}
    (h : Performs d config scope s events (some f)) (hgap : f.IsScopeGap) :
    ∃ depth t e own, s = .invoke depth t ∧ Invoked d config scope (depth, t) e (.error own) ∧
      own.IsScopeGap := by
  obtain ⟨why, hwhy⟩ := hgap
  cases h with
  | tooDeep => cases hwhy
  | unwritable => cases hwhy
  | @reject depth t e own hinvoked =>
    rw [Failure.cause?_locate] at hwhy
    exact ⟨depth, t, e, own, rfl, hinvoked, why, hwhy⟩
  | refuse => cases hwhy

/-- Whether a step does more than look at a node: it writes a literal or calls a renderer. -/
def Step.isWork : Step → Bool
  | .enter _ _ => false
  | .choose _ => false
  | .escape _ => true
  | .invoke _ _ => true
  | .refuse _ => false

/-- At nodes that are not too deep and of a known kind, only work fails. -/
theorem Performs.isWork_of_fits {root : Tree} {scope : Scope} {steps : List Step} {s : Step}
    {events : List Event} {f : Failure}
    (hknown : ∀ n ∈ root.preorder, ∀ location, n ≠ .bare location)
    (hsteps : ∀ s ∈ steps, s ∈ schedule 0 root)
    (hfits : ∀ e ∈ steps.filterMap Step.entered?, config.isExceededBy e.1 = false) (hs : s ∈ steps)
    (h : Performs d config scope s events (some f)) : s.isWork = true := by
  cases h with
  | tooDeep hdepth =>
    have hfit := hfits _ (List.mem_filterMap.mpr ⟨_, hs, rfl⟩)
    rw [hdepth] at hfit
    cases hfit
  | unwritable => rfl
  | reject => rfl
  | refuse => exact absurd rfl (hknown _ (bare_of_refuse (hsteps _ hs)) _)

/-- In the scope of its own tree a rendering finds every symbol, whatever else the name stands for: it
comes to its known text, or else to its escaped name. -/
theorem rendering_finds_symbols {root : Tree}
    (hrenderers : ∀ head children attributes f,
      (d.rendererFor config head).run children attributes = .error f → ¬f.IsScopeGap) :
    (∀ f, (d.rendering config root).result = .error f → ¬f.IsScopeGap) ∧
      ∀ name location, .symbol name location ∈ root.preorder →
        (d.scopeFor root).resolve name =
          some (.fragment ((d.symbols.find? name).getD ⟨d.escaper name⟩)) ∧
        ∀ depth, config.isExceededBy depth = false →
          node (some d) config (d.scopeFor root) depth (.symbol name location) =
            pure (some (.one ((d.symbols.find? name).getD ⟨d.escaper name⟩))) := by
  constructor
  · intro f hfailed hgap
    obtain ⟨done, s, rest, before, last, -, -, -, hlast⟩ := first_failing_of_rendering hfailed
    obtain ⟨depth, t, e, own, rfl, hinvoked, hown⟩ := hlast.invoked_of_isScopeGap hgap
    cases hinvoked with
    | call hdepth hchildren hattributes houtcome => exact hrenderers _ _ _ _ houtcome hown
  · intro name location hn
    have hcovers := d.covers_scopeFor hn
    refine ⟨hcovers.symbol name location (Tree.self_mem_preorder _), ?_⟩
    intro depth hdepth
    rw [node, if_neg (by simp [hdepth])]
    exact symbol_of_covers hcovers

/-- What the error of a rendering says, with its place. -/
def complaint (d : Dialect) (config : Config) (t : Tree) : Option String :=
  match (renderText d config t).result with
  | .error (.error e) => some e.text
  | _ => none

/-- One name as a head, as a symbol among the arguments and as a symbol among the attributes. -/
def denials : Tree :=
  .call "wrap" [.symbol "deny" none, .symbol "wrap" none]
    [("by_", .call "deny" [.symbol "<" none] [] none)] none

theorem rendering_finds_symbols_denials :
    (∀ head children attributes f,
      (Dialect.trial.rendererFor Config.default head).run children attributes = .error f →
        ¬f.IsScopeGap) ∧
      (Dialect.trial.rendering Config.default denials).result.toOption = none ∧
      (∀ f, (Dialect.trial.rendering Config.default denials).result = .error f → ¬f.IsScopeGap) ∧
      (Dialect.trial.scopeFor denials).resolve "deny" = some (.fragment ⟨"&not;"⟩) ∧
      (Dialect.trial.scopeFor denials).resolve "<" = some (.fragment ⟨"&lt;"⟩) := by
  have hrenderers : ∀ head children attributes f,
      (Dialect.trial.rendererFor Config.default head).run children attributes = .error f →
        ¬f.IsScopeGap := by
    intro head children attributes f h
    refine Failure.not_isScopeGap ?_
    rintro e rfl
    exact Dialect.rejects_trial Config.default head children attributes e h
  have hfails : (Dialect.trial.rendering Config.default denials).result.toOption = none := by
    decide +kernel
  obtain ⟨hgap, hsymbols⟩ := @rendering_finds_symbols _ _ denials hrenderers
  have hknown : Dialect.trial.symbols.find? "deny" = some ⟨"&not;"⟩ := by decide
  have hunknown : Dialect.trial.symbols.find? "<" = none := by decide
  have hdeny := (hsymbols "deny" none (by simp [denials, Tree.preorder, Tree.preorderArgs])).1
  have hless := (hsymbols "<" none
    (by simp [denials, Tree.preorder, Tree.preorderArgs, Tree.preorderNamed])).1
  have hescaped : Dialect.trial.escaper "<" = "&lt;" := by decide +kernel
  rw [hknown] at hdeny
  rw [hunknown, hescaped] at hless
  exact ⟨hrenderers, hfails, hgap, hdeny, hless⟩

end Interpret

end ExprMarkup
