import ExprMarkup.Proofs.Rendering.Order

namespace ExprMarkup

namespace Tree

/-- Of nodes with depths, all are within a limit, or the first that is not is just below it. -/
def Reaches (m : Nat) (nodes : List (Nat × Tree)) : Prop :=
  (∀ e ∈ nodes, e.1 ≤ m) ∨
    ∃ before n after, nodes = before ++ (m + 1, n) :: after ∧ ∀ e ∈ before, e.1 ≤ m

theorem Reaches.append {m : Nat} {nodes others : List (Nat × Tree)} (h : Reaches m nodes)
    (h' : Reaches m others) : Reaches m (nodes ++ others) := by
  rcases h with hall | ⟨before, n, after, rfl, hbefore⟩
  · rcases h' with hothers | ⟨before, n, after, rfl, hbefore⟩
    · exact .inl (List.forall_mem_append.mpr ⟨hall, hothers⟩)
    · exact .inr ⟨nodes ++ before, n, after, (List.append_assoc _ _ _).symm,
        List.forall_mem_append.mpr ⟨hall, hbefore⟩⟩
  · exact .inr ⟨before, n, after ++ others, List.append_assoc _ _ _, hbefore⟩

theorem Reaches.single {m depth : Nat} {t : Tree} (h : depth ≤ m) : Reaches m [(depth, t)] :=
  .inl (by simpa using h)

mutual

/-- Depths grow by one from a call to its arguments, so no node skips a depth. -/
theorem levels_reaches {m depth : Nat} (h : depth ≤ m + 1) (t : Tree) :
    Reaches m (t.levels depth) := by
  rcases Nat.lt_or_eq_of_le h with hlt | rfl
  · have hle : depth ≤ m := by omega
    cases t with
    | literal value location => exact .single hle
    | symbol name location => exact .single hle
    | call head args named location =>
      have hbelow := (levelsArgs_reaches (Nat.succ_le_succ hle) args).append
        (levelsNamed_reaches (Nat.succ_le_succ hle) named)
      exact (Reaches.single hle).append hbelow
    | bare location => exact .single hle
  · obtain ⟨below, hbelow⟩ := t.levels_eq_cons (m + 1)
    exact .inr ⟨[], t, below, hbelow, by simp⟩

theorem levelsArgs_reaches {m depth : Nat} (h : depth ≤ m + 1) (args : List Tree) :
    Reaches m (levelsArgs depth args) := by
  cases args with
  | nil => exact .inl (by simp [levelsArgs])
  | cons t rest => exact (levels_reaches h t).append (levelsArgs_reaches h rest)

theorem levelsNamed_reaches {m depth : Nat} (h : depth ≤ m + 1) (named : List (String × Tree)) :
    Reaches m (levelsNamed depth named) := by
  cases named with
  | nil => exact .inl (by simp [levelsNamed])
  | cons e rest =>
    obtain ⟨name, t⟩ := e
    exact (levels_reaches h t).append (levelsNamed_reaches h rest)

end

end Tree

namespace Config

variable {config : Config}

def atMost (m : Nat) (h : 0 < m) : Config where
  maxDepth := .int m
  isPositive := by
    show (!decide ((m : Int) < (1 : Nat))) = true
    rw [Bool.not_eq_true', decide_eq_false_iff_not]
    omega

theorem isExceededBy_iff {m : Nat} (hm : config.maxDepth.number? = some (.int m)) {depth : Nat} :
    config.isExceededBy depth = true ↔ m < depth := by
  simp [isExceededBy, hm, Number.below]

theorem not_isExceededBy_iff {m : Nat} (hm : config.maxDepth.number? = some (.int m)) {depth : Nat} :
    config.isExceededBy depth = false ↔ depth ≤ m := by
  rw [← Bool.not_eq_true, isExceededBy_iff hm, Nat.not_lt]

end Config

namespace Failure

/-- An error of another family than those of renderers is not given a place. -/
theorem eq_of_locate_eq_malformed {f : Failure} {location place : Option Location}
    {why : Malformation} (h : f.locate location = .malformed why place) : f = .malformed why place := by
  cases f with
  | fault b => exact h
  | error e =>
    obtain ⟨cause, own⟩ := e
    have hcause : cause = .malformed why := by
      have hkept := Failure.cause?_locate location (.error ⟨cause, own⟩)
      rw [h] at hkept
      exact (Option.some.inj hkept).symm
    subst hcause
    exact h

end Failure

namespace Run

variable {α β : Type}

/-- A run ends as another one does, unless that one ends with one of some failures. -/
def Extends (p : Failure → Prop) (r r' : Run α) : Prop :=
  r' = r ∨ ∃ f, r.result = .error f ∧ p f

theorem Extends.refl (p : Failure → Prop) (r : Run α) : r.Extends p r := .inl rfl

theorem Extends.bind {p : Failure → Prop} {r r' : Run α} {next next' : α → Run β}
    (h : r.Extends p r') (hnext : ∀ a, (next a).Extends p (next' a)) :
    (r >>= next).Extends p (r' >>= next') := by
  rcases h with rfl | ⟨f, hf, hp⟩
  · show Extends p (Run.bind r' next) (Run.bind r' next')
    unfold Run.bind
    cases r'.result with
    | error f => exact .refl p _
    | ok a =>
      rcases hnext a with heq | ⟨f, hf, hp⟩
      · dsimp only
        rw [heq]
        exact .refl p _
      · exact .inr ⟨f, hf, hp⟩
  · exact .inr ⟨f, (Run.bind_of_error hf).2, hp⟩

end Run

namespace Interpret

variable {d : Dialect} {config config' : Config} {scope : Scope}

theorem exists_of_forall₂ {α β : Type} {R : α → β → Prop} {as : List α} {bs : List β}
    (h : List.Forall₂ R as bs) : ∀ a ∈ as, ∃ b, R a b :=
  ((List.forall₂_and_left as bs).mp (h.imp fun _ b hb => ⟨⟨b, hb⟩, hb⟩)).1

/-- The invocations of steps are those of the first of their calls. -/
theorem Executes.invocations_prefix {steps : List Step} {events : List Event}
    {failure : Option Failure} (h : Executes d config scope steps events failure) :
    ∃ done, done <+: steps.filterMap Step.invoked? ∧
      List.Forall₂ (fun c e => ∃ outcome, Invoked d config scope c e outcome) done
        (ExprMarkup.invocations events) := by
  have hown : ∀ {s own failure}, Performs d config scope s own failure →
      List.Forall₂ (fun c e => ∃ outcome, Invoked d config scope c e outcome) s.invoked?.toList
        (ExprMarkup.invocations own) := by
    intro s own failure hs
    refine hs.invocations.imp ?_
    rintro c e ⟨outcome, hinvoked, -⟩
    exact ⟨outcome, hinvoked⟩
  induction h with
  | nil => exact ⟨[], List.nil_prefix, .nil⟩
  | @next s rest events later failure hs _ ih =>
    obtain ⟨done, hdone, hlater⟩ := ih
    refine ⟨s.invoked?.toList ++ done, ?_, ?_⟩
    · rw [filterMap_cons_eq]
      exact (List.prefix_append_right_inj _).mpr hdone
    · rw [invocations_append]
      exact List.rel_append (hown hs) hlater
  | @stop s rest events f hs =>
    refine ⟨s.invoked?.toList, ?_, hown hs⟩
    rw [filterMap_cons_eq]
    exact List.prefix_append _ _

/-- Work cannot end as a depth check does, unless a renderer raises such an error itself. -/
theorem Performs.raised_of_isWork {s : Step} {events : List Event} {f : Failure}
    {location : Option Location} (hwork : s.isWork = true)
    (h : Performs d config scope s events (some f)) (hf : f = Interpret.tooDeep config location) :
    ∃ head children attributes, (d.rendererFor config head).run children attributes =
      .error (Interpret.tooDeep config location) := by
  cases h with
  | tooDeep => cases hwork
  | unwritable => cases hf
  | reject hinvoked =>
    cases hinvoked with
    | call hdepth hchildren hattributes houtcome =>
      have hown := Failure.eq_of_locate_eq_malformed hf
      exact ⟨_, _, _, houtcome.trans (congrArg Except.error hown)⟩
  | refuse => cases hwork

/-- What comes to something has no node that is too deep. -/
theorem fits_of_comesTo {depth : Nat} {t : Tree} {r : Rendered} (hcovers : scope.Covers d t)
    (h : ComesTo d config scope depth t r) : config.Fits depth t := by
  intro e he
  rw [← filterMap_entered_schedule, List.mem_filterMap] at he
  obtain ⟨s, hs, hentered⟩ := he
  cases node_follows hcovers depth with
  | ok hsteps hresult hvalue =>
    obtain ⟨own, hperforms⟩ := hsteps.performs s hs
    cases hperforms with
    | enter hdepth =>
      obtain rfl : _ = e := Option.some.inj hentered
      exact hdepth
    | registered => cases hentered
    | fallback => cases hentered
    | escape => cases hentered
    | invoke => cases hentered
  | error hsteps hresult =>
    rw [ComesTo, hresult] at h
    cases h

/-- A renderer is called only for a call without a node that is too deep. -/
theorem fits_of_invoked {c : Nat × Tree} {e : Event} {outcome : Except Failure Fragment}
    (hcovers : scope.Covers d c.2) (h : Invoked d config scope c e outcome) :
    config.Fits c.1 c.2 := by
  cases h with
  | @call depth head args named location children attributes outcome hdepth hchildren hattributes _ =>
    have hargs := exists_of_forall₂ hchildren
    have hnamed := exists_of_forall₂ hattributes
    refine Config.fits_call_iff.mpr ⟨hdepth, ?_, ?_⟩
    · intro t ht
      obtain ⟨r, hr⟩ := hargs t ht
      exact fits_of_comesTo (hcovers.part (Tree.mem_preorder_arg ht)) hr
    · intro e he
      obtain ⟨r, -, hr⟩ := hnamed e he
      exact fits_of_comesTo (hcovers.part (Tree.mem_preorder_named he)) hr

/-- Each node is come to by a step, and those before it by earlier steps. -/
theorem exists_schedule_of_levels {root n : Tree} {depth : Nat} {before after : List (Nat × Tree)}
    (h : root.levels 0 = before ++ (depth, n) :: after) :
    ∃ earlier later, schedule 0 root = earlier ++ .enter depth n :: later ∧
      earlier.filterMap Step.entered? = before := by
  rw [← filterMap_entered_schedule] at h
  obtain ⟨first, second, hsplit, hfirst, hsecond⟩ := List.filterMap_eq_append_iff.mp h
  obtain ⟨skipped, s, later, hsteps, hskipped, hs, -⟩ := List.filterMap_eq_cons_iff.mp hsecond
  have henter : s = .enter depth n := by
    cases s <;> cases hs
    rfl
  refine ⟨first ++ skipped, later, ?_, ?_⟩
  · rw [hsplit, hsteps, henter, List.append_assoc]
  · rw [List.filterMap_append, hfirst, List.filterMap_eq_nil_iff.mpr hskipped, List.append_nil]

/-- Steps do not go on after a node that is too deep. -/
theorem Executes.stops_tooDeep {earlier later : List Step} {depth : Nat} {n : Tree}
    {events : List Event} {failure : Option Failure} (hdepth : config.isExceededBy depth = true)
    (h : Executes d config scope (earlier ++ .enter depth n :: later) events failure) :
    (∃ f, failure = some f ∧ Executes d config scope earlier events (some f)) ∨
      Executes d config scope earlier events none ∧
        failure = some (Interpret.tooDeep config n.location) := by
  rcases h.of_append with hfailed | ⟨before, last, rfl, hdone, hlast⟩
  · exact .inl hfailed
  · cases hlast with
    | next hs hrest =>
      cases hs with
      | enter hfit =>
        rw [hdepth] at hfit
        cases hfit
    | stop hs =>
      cases hs with
      | tooDeep =>
        rw [List.append_nil]
        exact .inr ⟨hdone, rfl⟩

/-- The failure of the depth check. -/
def TooDeep (config : Config) (f : Failure) : Prop :=
  ∃ location, f = .malformed (.depthExceeded (.scalar config.maxDepth)) location

theorem extends_check {α : Type} {r r' : Run α} {depth : Nat} {location : Option Location}
    (hlimit : config'.isExceededBy depth = true → config.isExceededBy depth = true)
    (h : r.Extends (TooDeep config) r') :
    (if config.isExceededBy depth then .fail (tooDeep config location) else r).Extends
      (TooDeep config)
      (if config'.isExceededBy depth then .fail (tooDeep config' location) else r') := by
  cases hdepth : config.isExceededBy depth with
  | true => exact .inr ⟨_, rfl, location, rfl⟩
  | false =>
    have hdepth' : config'.isExceededBy depth = false := by
      rw [← Bool.not_eq_true]
      intro hexceeded
      rw [hlimit hexceeded] at hdepth
      cases hdepth
    rw [hdepth', if_neg (by simp), if_neg (by simp)]
    exact h

mutual

/-- With a greater limit a tree comes to the same, unless it fails by the smaller one. -/
theorem node_extends
    (hlimit : ∀ depth, config'.isExceededBy depth = true → config.isExceededBy depth = true)
    (hfallback : ∀ head, d.fallback head config' = d.fallback head config) (depth : Nat) (t : Tree) :
    (node (some d) config scope depth t).Extends (TooDeep config)
      (node (some d) config' scope depth t) := by
  cases t with
  | literal value location => exact extends_check (hlimit depth) (.refl _ _)
  | symbol name location => exact extends_check (hlimit depth) (.refl _ _)
  | call head args named location =>
    have hchoose : chooseRenderer (some d) config' scope head =
        chooseRenderer (some d) config scope head := by
      simp only [chooseRenderer, hfallback]
    have hargs := positional_extends hlimit hfallback (depth + 1) args
    have hnamed := keyed_extends hlimit hfallback (depth + 1) named
    rw [node, node, hchoose]
    apply extends_check (hlimit depth)
    refine Run.Extends.bind (.refl _ _) fun renderer => ?_
    refine hargs.bind fun children => ?_
    exact hnamed.bind fun attributes => .refl _ _
  | bare location => exact extends_check (hlimit depth) (.refl _ _)

theorem positional_extends
    (hlimit : ∀ depth, config'.isExceededBy depth = true → config.isExceededBy depth = true)
    (hfallback : ∀ head, d.fallback head config' = d.fallback head config) (depth : Nat)
    (args : List Tree) :
    (positional (some d) config scope depth args).Extends (TooDeep config)
      (positional (some d) config' scope depth args) := by
  cases args with
  | nil => exact .refl _ _
  | cons t rest =>
    have hfirst := node_extends hlimit hfallback depth t
    have hrest := positional_extends hlimit hfallback depth rest
    rw [positional, positional]
    exact hfirst.bind fun first => hrest.bind fun others => .refl _ _

theorem keyed_extends
    (hlimit : ∀ depth, config'.isExceededBy depth = true → config.isExceededBy depth = true)
    (hfallback : ∀ head, d.fallback head config' = d.fallback head config) (depth : Nat)
    (named : List (String × Tree)) :
    (keyed (some d) config scope depth named).Extends (TooDeep config)
      (keyed (some d) config' scope depth named) := by
  cases named with
  | nil => exact .refl _ _
  | cons e rest =>
    obtain ⟨name, t⟩ := e
    have hfirst := node_extends hlimit hfallback depth t
    have hrest := keyed_extends hlimit hfallback depth rest
    rw [keyed, keyed]
    exact hfirst.bind fun first => hrest.bind fun others => .refl _ _

end

/-- A greater limit changes only renderings that fail by the smaller one. -/
theorem rendering_eq_of_limit {root : Tree}
    (hlimit : ∀ depth, config'.isExceededBy depth = true → config.isExceededBy depth = true)
    (hfallback : ∀ head, d.fallback head config' = d.fallback head config)
    (hother : ∀ f, (d.rendering config root).result = .error f → ¬TooDeep config f) :
    d.rendering config' root = d.rendering config root := by
  have hextends : (d.rendering config root).Extends (TooDeep config) (d.rendering config' root) :=
    (node_extends hlimit hfallback 0 root).bind fun value => .refl _ _
  rcases hextends with heq | ⟨f, hf, hdeep⟩
  · exact heq
  · exact absurd hdeep (hother f hf)

/-- What it means for the rendering of a tree that `m` is the greatest depth. -/
structure DepthLimit (d : Dialect) (config : Config) (root : Tree) (m : Nat) : Prop where
  /-- Within the limit only work fails, and with the error of the depth check only if a renderer
  raises it itself. -/
  within : (∀ e ∈ root.levels 0, e.1 ≤ m) → ∀ f, (d.rendering config root).result = .error f →
    (∃ s ∈ schedule 0 root, s.isWork = true ∧
      ∃ last, Performs d config (d.scopeFor root) s last (some f)) ∧
    ∀ location, f = .malformed (.depthExceeded (.scalar config.maxDepth)) location →
      ∃ head children attributes, (d.rendererFor config head).run children attributes =
        .error (.malformed (.depthExceeded (.scalar config.maxDepth)) location)
  /-- The first node beyond the limit ends the rendering, unless work before it fails. -/
  beyond : (∃ e ∈ root.levels 0, m < e.1) → ∃ before n after earlier later,
    root.levels 0 = before ++ (m + 1, n) :: after ∧ (∀ e ∈ before, e.1 ≤ m) ∧
    schedule 0 root = earlier ++ .enter (m + 1) n :: later ∧
    earlier.filterMap Step.entered? = before ∧
    (Executes d config (d.scopeFor root) earlier (d.rendering config root).events none ∧
        (d.rendering config root).result =
            .error (.malformed (.depthExceeded (.scalar config.maxDepth)) n.location) ∨
      ∃ done s rest own last f, earlier = done ++ s :: rest ∧ s.isWork = true ∧
        Executes d config (d.scopeFor root) done own none ∧
        Performs d config (d.scopeFor root) s last (some f) ∧
        (d.rendering config root).events = own ++ last ∧
        (d.rendering config root).result = .error f)
  /-- Renderers are called only for calls without a node beyond the limit. -/
  invoked : ∃ calls, calls <+: root.postorder 0 ∧
    List.Forall₂ (fun c e => ∃ outcome, Invoked d config (d.scopeFor root) c e outcome) calls
      (invocations (d.rendering config root).events) ∧
    ∀ c ∈ calls, ∀ e ∈ c.2.levels c.1, e.1 ≤ m
  /-- A greater limit changes nothing but the failure of the depth check. A fallback is made from the
  configuration, so it has to be the same for both. -/
  raised : ∀ (config' : Config) (m' : Nat), config'.maxDepth.number? = some (.int m') → m ≤ m' →
    (∀ head, d.fallback head config' = d.fallback head config) →
    (∀ f, (d.rendering config root).result = .error f → ¬TooDeep config f) →
    d.rendering config' root = d.rendering config root

/-- The limit of the configuration is exact. -/
theorem rendering_depthLimit {root : Tree} {m : Nat}
    (hm : config.maxDepth.number? = some (.int m))
    (hknown : ∀ n ∈ root.preorder, ∀ location, n ≠ .bare location) :
    DepthLimit d config root m where
  within := by
    intro hfits f hfailed
    obtain ⟨done, s, rest, before, last, hschedule, -, -, hlast⟩ := first_failing_of_rendering hfailed
    have hs : s ∈ schedule 0 root := by simp [hschedule]
    have hwork : s.isWork = true := by
      refine hlast.isWork_of_fits hknown (fun s hs => hs) ?_ hs
      intro e he
      rw [filterMap_entered_schedule] at he
      exact (Config.not_isExceededBy_iff hm).mpr (hfits e he)
    refine ⟨⟨s, hs, hwork, last, hlast⟩, ?_⟩
    intro location hf
    exact hlast.raised_of_isWork hwork hf
  beyond := by
    rintro ⟨e, he, hdeep⟩
    rcases Tree.levels_reaches (Nat.zero_le (m + 1)) root with
      hall | ⟨before, n, after, hlevels, hbefore⟩
    · exact absurd (hall e he) (Nat.not_le_of_lt hdeep)
    · obtain ⟨earlier, later, hschedule, hearlier⟩ := exists_schedule_of_levels hlevels
      refine ⟨before, n, after, earlier, later, hlevels, hbefore, hschedule, hearlier, ?_⟩
      have hdepth : config.isExceededBy (m + 1) = true :=
        (Config.isExceededBy_iff hm).mpr (Nat.lt_succ_self m)
      cases rendering_follows d config root with
      | ok hsteps hresult _ =>
        rw [hschedule] at hsteps
        rcases hsteps.stops_tooDeep hdepth with ⟨f, hf, -⟩ | ⟨-, hf⟩
        · cases hf
        · cases hf
      | @error f hsteps hresult =>
        rw [hschedule] at hsteps
        rcases hsteps.stops_tooDeep hdepth with ⟨f', hf, hfailed⟩ | ⟨hdone, hf⟩
        · cases hf
          obtain ⟨done, s, rest, own, last, hsplit, hevents, hdone, hlast⟩ := hfailed.first_failing
          refine .inr ⟨done, s, rest, own, last, f, hsplit, ?_, hdone, hlast, hevents, hresult⟩
          have hs : s ∈ earlier := by simp [hsplit]
          refine hlast.isWork_of_fits hknown (fun s hs => by simp [hschedule, hs]) ?_ hs
          intro e he
          rw [hearlier] at he
          exact (Config.not_isExceededBy_iff hm).mpr (hbefore e he)
        · cases hf
          exact .inl ⟨hdone, hresult⟩
  invoked := by
    have hsteps : ∃ failure, Executes d config (d.scopeFor root) (schedule 0 root)
        (d.rendering config root).events failure := by
      cases rendering_follows d config root with
      | ok hsteps _ _ => exact ⟨none, hsteps⟩
      | error hsteps _ => exact ⟨_, hsteps⟩
    obtain ⟨failure, hsteps⟩ := hsteps
    obtain ⟨calls, hcalls, hinvoked⟩ := hsteps.invocations_prefix
    rw [filterMap_invoked_schedule] at hcalls
    refine ⟨calls, hcalls, hinvoked, ?_⟩
    intro c hc e he
    obtain ⟨event, outcome, hcall⟩ := exists_of_forall₂ hinvoked c hc
    have hmem := (Tree.postorder_perm 0 root).mem_iff.mp (hcalls.subset hc)
    have hpart := Tree.mem_preorder_of_mem_levels (List.mem_filter.mp hmem).1
    have hfits := fits_of_invoked (d.covers_scopeFor hpart) hcall
    exact (Config.not_isExceededBy_iff hm).mp (hfits e he)
  raised := by
    intro config' m' hm' hle hfallback hother
    refine rendering_eq_of_limit ?_ hfallback hother
    intro depth hexceeded
    rw [Config.isExceededBy_iff hm'] at hexceeded
    rw [Config.isExceededBy_iff hm]
    omega

/-- A symbol of depth three, after a literal of depth one. -/
def nested : Tree :=
  .call "wrap" [.literal (.scalar (.text "&")) none,
      .call "wrap" [.call "wrap" [.symbol "x" (some ⟨.int 1, .int 12, .absent, .absent, .absent⟩)] []
        none] [] none]
    [("id", .literal (.scalar (.int 8)) none)] none

theorem rendering_depthLimit_nested :
    (Config.atMost 2 (by decide)).maxDepth.number? = some (.int (2 : Nat)) ∧
      (∀ n ∈ nested.preorder, ∀ location, n ≠ .bare location) ∧
      (∃ e ∈ nested.levels 0, 2 < e.1) ∧
      DepthLimit Dialect.trial (Config.atMost 2 (by decide)) nested 2 ∧
      (Dialect.trial.rendering (Config.atMost 2 (by decide)) nested).result =
        .error (.malformed (.depthExceeded (.int 2))
          (some ⟨.int 1, .int 12, .absent, .absent, .absent⟩)) ∧
      Dialect.trial.rendering Config.default nested =
        Dialect.trial.rendering (Config.atMost 3 (by decide)) nested := by
  have hknown : ∀ n ∈ nested.preorder, ∀ location, n ≠ .bare location := by
    simp [nested, Tree.preorder, Tree.preorderArgs, Tree.preorderNamed]
  have hdeep : ∃ e ∈ nested.levels 0, 2 < e.1 := by
    simp [nested, Tree.levels, Tree.levelsArgs, Tree.levelsNamed]
  have hthree : DepthLimit Dialect.trial (Config.atMost 3 (by decide)) nested 3 :=
    rendering_depthLimit rfl hknown
  have hsucceeds :
      (Dialect.trial.rendering (Config.atMost 3 (by decide)) nested).result.toOption.isSome = true := by
    decide +kernel
  refine ⟨rfl, hknown, hdeep, rendering_depthLimit rfl hknown, rfl, ?_⟩
  refine hthree.raised Config.default 200 rfl (by decide) (fun _ => rfl) ?_
  intro f hf
  rw [hf] at hsucceeds
  cases hsucceeds

end Interpret

end ExprMarkup
