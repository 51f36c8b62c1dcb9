import ExprMarkup.Proofs.Fragment
import ExprMarkup.Proofs.Rendering.Failure

namespace ExprMarkup

/-- Whether a renderer was called. -/
def Event.isInvoked : Event → Bool
  | .fallback _ => false
  | .invoked _ _ _ _ _ _ => true

def invocations (events : List Event) : List Event := events.filter Event.isInvoked

theorem invocations_append (a b : List Event) :
    invocations (a ++ b) = invocations a ++ invocations b :=
  List.filter_append a b

namespace Value

/-- A literal has a safe text unless it has too long a number. -/
theorem escape_literal_ok {escaper : Text.Escaper} {value : Literal}
    (h : ∀ n, .int n ∈ value.scalars → Decimal.withinLimit n = true) :
    ∃ r, value.toValue.escape escaper = .ok r := by
  have hvalue : value.toValue.Escapable := by
    cases value with
    | scalar s => exact .scalar fun n hn => h n (by simp [Literal.scalars, hn])
    | sequence items =>
      refine .sequence (.inl rfl) (List.forall_mem_map.mpr fun s hs => .scalar ?_)
      rintro n rfl
      exact h n hs
  obtain ⟨r, hr, -⟩ := hvalue.escape_ok
  exact ⟨r, hr⟩

end Value

namespace Interpret

variable {d : Dialect} {config : Config} {scope : Scope}

theorem filterMap_cons_eq {α β : Type} (f : α → Option β) (a : α) (rest : List α) :
    (a :: rest).filterMap f = (f a).toList ++ rest.filterMap f := by
  cases h : f a <;> simp [h]

/-- A step leaves one invocation if it calls a renderer, and none else. -/
theorem Performs.invocations {s : Step} {events : List Event} {failure : Option Failure}
    (h : Performs d config scope s events failure) :
    List.Forall₂ (fun c e => ∃ outcome, Invoked d config scope c e outcome ∧
        (failure = none → ∃ f, outcome = .ok f))
      s.invoked?.toList (ExprMarkup.invocations events) := by
  have hkept : ∀ {c e outcome}, Invoked d config scope c e outcome →
      ExprMarkup.invocations [e] = [e] := by
    intro c e outcome hinvoked
    cases hinvoked
    rfl
  cases h with
  | enter => exact .nil
  | tooDeep => exact .nil
  | registered => exact .nil
  | fallback => exact .nil
  | escape => exact .nil
  | unwritable => exact .nil
  | @invoke depth t e f hinvoked =>
    rw [hkept hinvoked]
    exact .cons ⟨_, hinvoked, fun _ => ⟨f, rfl⟩⟩ .nil
  | reject hinvoked =>
    rw [hkept hinvoked]
    exact .cons ⟨_, hinvoked, nofun⟩ .nil
  | refuse => exact .nil

/-- What steps without a failure leave of invocations: one for each call, in their order. -/
theorem Executes.invocations {steps : List Step} {events : List Event}
    (h : Executes d config scope steps events none) :
    List.Forall₂ (fun c e => ∃ f, Invoked d config scope c e (.ok f))
      (steps.filterMap Step.invoked?) (ExprMarkup.invocations events) := by
  induction steps generalizing events with
  | nil =>
    cases h
    exact .nil
  | cons s rest ih =>
    cases h with
    | next hs hrest =>
      rw [filterMap_cons_eq, invocations_append]
      refine List.rel_append (hs.invocations.imp ?_) (ih hrest)
      rintro c e ⟨outcome, hinvoked, hok⟩
      obtain ⟨f, rfl⟩ := hok rfl
      exact ⟨f, hinvoked⟩

/-- Within the depth limit and without other breakdowns, a failing step is that of a renderer. -/
theorem Performs.invoked_of_fits {root : Tree} {s : Step} {events : List Event} {f : Failure}
    (hknown : ∀ n ∈ root.preorder, ∀ location, n ≠ .bare location) (hfits : config.Fits 0 root)
    (hdigits : ∀ value location, .literal value location ∈ root.preorder →
      ∀ n, .int n ∈ value.scalars → Decimal.withinLimit n = true)
    (hs : s ∈ schedule 0 root) (h : Performs d config scope s events (some f)) :
    ∃ depth t e own, s = .invoke depth t ∧ events = [e] ∧
      Invoked d config scope (depth, t) e (.error own) ∧ f = own.locate t.location := by
  have hwork : s.isWork = true := by
    rw [Config.Fits, ← filterMap_entered_schedule] at hfits
    exact h.isWork_of_fits hknown (fun s hs => hs) hfits hs
  cases h with
  | tooDeep => cases hwork
  | unwritable hfault =>
    obtain ⟨location, hn⟩ := literal_of_escape hs
    obtain ⟨r, hr⟩ := Value.escape_literal_ok (hdigits _ location hn)
    rw [hfault] at hr
    cases hr
  | reject hinvoked => exact ⟨_, _, _, _, rfl, rfl, hinvoked, rfl⟩
  | refuse => cases hwork

/-- Renderers are called in post-order, each call once, up to the first renderer that fails. The error
that leaves the rendering is that renderer's, and its place is its own or else that of its call. -/
theorem rendering_invokes_postorder {root : Tree}
    (hknown : ∀ n ∈ root.preorder, ∀ location, n ≠ .bare location) (hfits : config.Fits 0 root)
    (hdigits : ∀ value location, .literal value location ∈ root.preorder →
      ∀ n, .int n ∈ value.scalars → Decimal.withinLimit n = true)
    (hrejects : ∀ head, (d.rendererFor config head).Rejects) :
    (root.postorder 0).Perm ((root.levels 0).filter fun e => e.2.callHead?.isSome) ∧
      ((∃ value, (d.rendering config root).result = .ok value ∧
        List.Forall₂ (fun c e => ∃ f, Invoked d config (d.scopeFor root) c e (.ok f))
          (root.postorder 0) (invocations (d.rendering config root).events)) ∨
      ∃ done depth c rest earlier last f,
        root.postorder 0 = done ++ (depth, c) :: rest ∧
        invocations (d.rendering config root).events = earlier ++ [last] ∧
        List.Forall₂ (fun c e => ∃ f, Invoked d config (d.scopeFor root) c e (.ok f)) done earlier ∧
        Invoked d config (d.scopeFor root) (depth, c) last (.error f) ∧
        (∀ e, f = .error e → (d.rendering config root).result =
          .error (.error ⟨e.cause, e.location.or c.location⟩)) ∧
        ∀ b, f = .fault b → (d.rendering config root).result = .error (.fault b)) := by
  refine ⟨Tree.postorder_perm 0 root, ?_⟩
  rw [← filterMap_invoked_schedule]
  cases hresult : (d.rendering config root).result with
  | ok value =>
    refine .inl ⟨value, rfl, ?_⟩
    cases rendering_follows d config root with
    | ok hsteps _ _ => exact hsteps.invocations
    | error _ hfailed =>
      rw [hfailed] at hresult
      cases hresult
  | error failure =>
    obtain ⟨done, s, rest, before, last, hschedule, hevents, hdone, hlast⟩ :=
      first_failing_of_rendering hresult
    have hs : s ∈ schedule 0 root := by simp [hschedule]
    obtain ⟨depth, c, e, f, rfl, rfl, hinvoked, rfl⟩ :=
      hlast.invoked_of_fits hknown hfits hdigits hs
    have he : invocations [e] = [e] := by
      cases hinvoked
      rfl
    refine .inr ⟨done.filterMap Step.invoked?, depth, c, rest.filterMap Step.invoked?,
      invocations before, e, f, ?_, ?_, hdone.invocations, hinvoked, ?_, ?_⟩
    · rw [hschedule, List.filterMap_append]
      rfl
    · rw [hevents, invocations_append, he]
    · rintro e rfl
      have hrejection : e.cause.isRejection = true := by
        cases hinvoked with
        | call hdepth hchildren hattributes houtcome => exact hrejects _ _ _ _ houtcome
      rw [Failure.locate_of_isRejection hrejection]
    · rintro b rfl
      rfl

/-- A call that is denied, without a place but inside calls with one, after one call and before two. -/
def denied : Tree :=
  .call "wrap" [.call "card" [.literal (.scalar (.int 7)) none] [] (some ⟨.int 1, .int 6, .absent,
      .absent, .absent⟩), .call "wrap" [.call "deny" [.symbol "x" none] [] none] []
      (some ⟨.int 1, .int 15, .absent, .absent, .absent⟩)]
    [("id", .call "wrap" [] [] none)] (some ⟨.int 1, .int 1, .absent, .absent, .absent⟩)

theorem rendering_invokes_postorder_denied :
    (∀ n ∈ denied.preorder, ∀ location, n ≠ .bare location) ∧
      Config.default.Fits 0 denied ∧
      (∀ value location, .literal value location ∈ denied.preorder →
        ∀ n, .int n ∈ value.scalars → Decimal.withinLimit n = true) ∧
      (∀ head, (Dialect.trial.rendererFor Config.default head).Rejects) ∧
      (invocations (Dialect.trial.rendering Config.default denied).events).length = 2 ∧
      ∃ done depth c rest earlier last f, denied.postorder 0 = done ++ (depth, c) :: rest ∧
        invocations (Dialect.trial.rendering Config.default denied).events = earlier ++ [last] ∧
        Invoked Dialect.trial Config.default (Dialect.trial.scopeFor denied) (depth, c) last
          (.error f) ∧
        ∀ e, f = .error e → (Dialect.trial.rendering Config.default denied).result =
          .error (.error ⟨e.cause, e.location.or c.location⟩) := by
  have hknown : ∀ n ∈ denied.preorder, ∀ location, n ≠ .bare location := by
    simp [denied, Tree.preorder, Tree.preorderArgs, Tree.preorderNamed]
  have hfits : Config.default.Fits 0 denied := by
    simp only [Config.Fits, denied, Tree.levels, Tree.levelsArgs, Tree.levelsNamed]
    decide
  have hseven : Decimal.withinLimit 7 = true := by decide +kernel
  have hdigits : ∀ value location, .literal value location ∈ denied.preorder →
      ∀ n, .int n ∈ value.scalars → Decimal.withinLimit n = true := by
    simp [denied, Tree.preorder, Tree.preorderArgs, Tree.preorderNamed, Literal.scalars, hseven]
  have hrejects := Dialect.rejects_trial Config.default
  have hlength : (invocations (Dialect.trial.rendering Config.default denied).events).length = 2 := by
    decide +kernel
  have hfails : (Dialect.trial.rendering Config.default denied).result.toOption = none := by
    decide +kernel
  refine ⟨hknown, hfits, hdigits, hrejects, hlength, ?_⟩
  obtain ⟨-, ⟨value, hresult, -⟩ | ⟨done, depth, c, rest, earlier, last, f, hcalls, hevents, -,
    hinvoked, herror, -⟩⟩ := rendering_invokes_postorder hknown hfits hdigits hrejects
  · rw [hresult] at hfails
    cases hfails
  · exact ⟨done, depth, c, rest, earlier, last, f, hcalls, hevents, hinvoked, herror⟩

end Interpret

end ExprMarkup
