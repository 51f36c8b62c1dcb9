import Mathlib.Data.List.Forall2
import ExprMarkup.Proofs.Rendering.Coverage

namespace ExprMarkup

namespace Tree

mutual

/-- The nodes in pre-order, each with its depth, where the root is at the given depth. -/
def levels (depth : Nat) : Tree → List (Nat × Tree)
  | .call head args named location =>
    (depth, .call head args named location) ::
      (levelsArgs (depth + 1) args ++ levelsNamed (depth + 1) named)
  | .literal value location => [(depth, .literal value location)]
  | .symbol name location => [(depth, .symbol name location)]
  | .bare location => [(depth, .bare location)]

def levelsArgs (depth : Nat) : List Tree → List (Nat × Tree)
  | [] => []
  | t :: rest => levels depth t ++ levelsArgs depth rest

def levelsNamed (depth : Nat) : List (String × Tree) → List (Nat × Tree)
  | [] => []
  | (_, t) :: rest => levels depth t ++ levelsNamed depth rest

end

mutual

/-- The calls in post-order, each with its depth: a call comes after all calls in its arguments. -/
def postorder (depth : Nat) : Tree → List (Nat × Tree)
  | .call head args named location =>
    postorderArgs (depth + 1) args ++ postorderNamed (depth + 1) named ++
      [(depth, .call head args named location)]
  | .literal _ _ => []
  | .symbol _ _ => []
  | .bare _ => []

def postorderArgs (depth : Nat) : List Tree → List (Nat × Tree)
  | [] => []
  | t :: rest => postorder depth t ++ postorderArgs depth rest

def postorderNamed (depth : Nat) : List (String × Tree) → List (Nat × Tree)
  | [] => []
  | (_, t) :: rest => postorder depth t ++ postorderNamed depth rest

end

/-- Without the depths, the levels are the nodes. -/
theorem map_snd_levels (t : Tree) (depth : Nat) : (t.levels depth).map Prod.snd = t.preorder := by
  have hargs : ∀ (args : List Tree) (depth : Nat),
      (∀ t ∈ args, ∀ depth, (t.levels depth).map Prod.snd = t.preorder) →
        (levelsArgs depth args).map Prod.snd = preorderArgs args := by
    intro args depth h
    induction args with
    | nil => rfl
    | cons t rest ih =>
      rw [List.forall_mem_cons] at h
      rw [levelsArgs, preorderArgs, List.map_append, h.1, ih h.2]
  have hnamed : ∀ (named : List (String × Tree)) (depth : Nat),
      (∀ e ∈ named, ∀ depth, (e.2.levels depth).map Prod.snd = e.2.preorder) →
        (levelsNamed depth named).map Prod.snd = preorderNamed named := by
    intro named depth h
    induction named with
    | nil => rfl
    | cons e rest ih =>
      rw [List.forall_mem_cons] at h
      rw [levelsNamed, preorderNamed, List.map_append, h.1, ih h.2]
  induction t generalizing depth with
  | literal value location => rfl
  | symbol name location => rfl
  | call head args named location ihargs ihnamed =>
    rw [levels, preorder, List.map_cons, List.map_append,
      hargs args (depth + 1) (fun t ht depth => ihargs t ht depth),
      hnamed named (depth + 1) (fun e he depth => ihnamed e he depth)]
  | bare location => rfl

theorem mem_preorder_of_mem_levels {t : Tree} {depth : Nat} {e : Nat × Tree}
    (he : e ∈ t.levels depth) : e.2 ∈ t.preorder := by
  rw [← map_snd_levels t depth]
  exact List.mem_map_of_mem he

theorem levels_eq_cons (t : Tree) (depth : Nat) :
    ∃ below, t.levels depth = (depth, t) :: below := by
  cases t <;> exact ⟨_, rfl⟩

theorem mem_levelsArgs {e : Nat × Tree} {depth : Nat} {args : List Tree} :
    e ∈ levelsArgs depth args ↔ ∃ t ∈ args, e ∈ t.levels depth := by
  induction args with
  | nil => simp [levelsArgs]
  | cons t rest ih => simp [levelsArgs, ih]

theorem mem_levelsNamed {e : Nat × Tree} {depth : Nat} {named : List (String × Tree)} :
    e ∈ levelsNamed depth named ↔ ∃ entry ∈ named, e ∈ entry.2.levels depth := by
  induction named with
  | nil => simp [levelsNamed]
  | cons entry rest ih => simp [levelsNamed, ih]

mutual

/-- Post-order has the calls of a tree, each as often as it occurs. -/
theorem postorder_perm (depth : Nat) (t : Tree) :
    (t.postorder depth).Perm ((t.levels depth).filter fun e => e.2.callHead?.isSome) := by
  cases t with
  | literal value location => exact .refl _
  | symbol name location => exact .refl _
  | call head args named location =>
    have hargs := postorderArgs_perm (depth + 1) args
    have hnamed := postorderNamed_perm (depth + 1) named
    rw [postorder, levels, List.filter_cons_of_pos rfl, List.filter_append]
    exact (List.perm_append_singleton _ _).trans ((hargs.append hnamed).cons _)
  | bare location => exact .refl _

theorem postorderArgs_perm (depth : Nat) (args : List Tree) :
    (postorderArgs depth args).Perm
      ((levelsArgs depth args).filter fun e => e.2.callHead?.isSome) := by
  cases args with
  | nil => exact .refl _
  | cons t rest =>
    rw [postorderArgs, levelsArgs, List.filter_append]
    exact (postorder_perm depth t).append (postorderArgs_perm depth rest)

theorem postorderNamed_perm (depth : Nat) (named : List (String × Tree)) :
    (postorderNamed depth named).Perm
      ((levelsNamed depth named).filter fun e => e.2.callHead?.isSome) := by
  cases named with
  | nil => exact .refl _
  | cons e rest =>
    obtain ⟨name, t⟩ := e
    rw [postorderNamed, levelsNamed, List.filter_append]
    exact (postorder_perm depth t).append (postorderNamed_perm depth rest)

end

end Tree

namespace Config

variable {config : Config}

/-- No node of the tree is too deep, where the tree itself is at some depth. -/
def Fits (config : Config) (depth : Nat) (t : Tree) : Prop :=
  ∀ e ∈ t.levels depth, config.isExceededBy e.1 = false

theorem Fits.self {depth : Nat} {t : Tree} (h : config.Fits depth t) :
    config.isExceededBy depth = false := by
  obtain ⟨below, hbelow⟩ := t.levels_eq_cons depth
  exact h (depth, t) (by simp [hbelow])

theorem fits_call_iff {depth : Nat} {head : String} {args : List Tree} {named : List (String × Tree)}
    {location : Option Location} :
    config.Fits depth (.call head args named location) ↔ config.isExceededBy depth = false ∧
      (∀ t ∈ args, config.Fits (depth + 1) t) ∧ ∀ e ∈ named, config.Fits (depth + 1) e.2 := by
  simp only [Fits, Tree.levels, List.forall_mem_cons, List.forall_mem_append, Tree.mem_levelsArgs,
    Tree.mem_levelsNamed]
  refine and_congr_right fun _ => and_congr ?_ ?_
  · exact ⟨fun h t ht e he => h e ⟨t, ht, he⟩, fun h e ⟨t, ht, he⟩ => h t ht e he⟩
  · exact ⟨fun h t ht e he => h e ⟨t, ht, he⟩, fun h e ⟨t, ht, he⟩ => h t ht e he⟩

end Config

namespace Run

variable {α β : Type}

theorem bind_of_ok {r : Run α} {next : α → Run β} {a : α} (h : r.result = .ok a) :
    (r >>= next).events = r.events ++ (next a).events ∧ (r >>= next).result = (next a).result := by
  change (Run.bind r next).events = _ ∧ (Run.bind r next).result = _
  rw [Run.bind, h]
  exact ⟨rfl, rfl⟩

theorem bind_of_error {r : Run α} {next : α → Run β} {f : Failure} (h : r.result = .error f) :
    (r >>= next).events = r.events ∧ (r >>= next).result = .error f := by
  change (Run.bind r next).events = _ ∧ (Run.bind r next).result = _
  rw [Run.bind, h]
  exact ⟨rfl, rfl⟩

end Run

/-- The cause of a failure, if it is an error. -/
def Failure.cause? : Failure → Option Cause
  | .error e => some e.cause
  | .fault _ => none

theorem Failure.cause?_locate (location : Option Location) (f : Failure) :
    (f.locate location).cause? = f.cause? := by
  cases f with
  | fault b => rfl
  | error e =>
    have hcause : (e.locate location).cause = e.cause := by
      unfold Error.locate
      cases e.location <;> rfl
    rw [Failure.locate]
    split <;> simp only [cause?, hcause]

namespace Interpret

/-- What a rendering does at a node. -/
inductive Step
  /-- Comes to a node, and checks how deep it is. -/
  | enter (depth : Nat) (t : Tree)
  /-- Looks for the renderer of a head. -/
  | choose (head : String)
  /-- Turns the value of a literal into safe text. -/
  | escape (value : Literal)
  /-- Calls the renderer of a call on what its arguments have come to. -/
  | invoke (depth : Nat) (t : Tree)
  /-- Refuses a node of no known kind. -/
  | refuse (location : Option Location)

namespace Step

/-- The node that a step comes to. -/
def entered? : Step → Option (Nat × Tree)
  | .enter depth t => some (depth, t)
  | .choose _ => none
  | .escape _ => none
  | .invoke _ _ => none
  | .refuse _ => none

/-- The call whose renderer a step calls. -/
def invoked? : Step → Option (Nat × Tree)
  | .enter _ _ => none
  | .choose _ => none
  | .escape _ => none
  | .invoke depth t => some (depth, t)
  | .refuse _ => none

end Step

mutual

/-- The steps of a tree in the order of rendering. -/
def schedule (depth : Nat) : Tree → List Step
  | .literal value location => [.enter depth (.literal value location), .escape value]
  | .symbol name location => [.enter depth (.symbol name location)]
  | .call head args named location =>
    .enter depth (.call head args named location) :: .choose head ::
      (scheduleArgs (depth + 1) args ++ scheduleNamed (depth + 1) named ++
        [.invoke depth (.call head args named location)])
  | .bare location => [.enter depth (.bare location), .refuse location]

def scheduleArgs (depth : Nat) : List Tree → List Step
  | [] => []
  | t :: rest => schedule depth t ++ scheduleArgs depth rest

def scheduleNamed (depth : Nat) : List (String × Tree) → List Step
  | [] => []
  | (_, t) :: rest => schedule depth t ++ scheduleNamed depth rest

end

/-- The steps for a node itself, without those for its arguments. -/
def ownSteps (depth : Nat) : Tree → List Step
  | .literal value location => [.enter depth (.literal value location), .escape value]
  | .symbol name location => [.enter depth (.symbol name location)]
  | .call head args named location =>
    [.enter depth (.call head args named location), .choose head,
      .invoke depth (.call head args named location)]
  | .bare location => [.enter depth (.bare location), .refuse location]

mutual

/-- Each step is done for some node. -/
theorem mem_schedule {s : Step} {depth : Nat} {t : Tree} (hs : s ∈ schedule depth t) :
    ∃ e ∈ t.levels depth, s ∈ ownSteps e.1 e.2 := by
  cases t with
  | literal value location => exact ⟨_, List.mem_singleton_self _, hs⟩
  | symbol name location => exact ⟨_, List.mem_singleton_self _, hs⟩
  | call head args named location =>
    simp only [schedule, List.mem_cons, List.mem_append, List.not_mem_nil, or_false] at hs
    rw [Tree.levels]
    have hself : ∀ s ∈ ownSteps depth (.call head args named location),
        ∃ e ∈ (depth, Tree.call head args named location) ::
          (Tree.levelsArgs (depth + 1) args ++ Tree.levelsNamed (depth + 1) named),
            s ∈ ownSteps e.1 e.2 :=
      fun s hs => ⟨_, List.mem_cons_self, hs⟩
    rcases hs with rfl | rfl | (hs | hs) | rfl
    · exact hself _ (by simp [ownSteps])
    · exact hself _ (by simp [ownSteps])
    · obtain ⟨e, he, hown⟩ := mem_scheduleArgs hs
      exact ⟨e, List.mem_cons_of_mem _ (List.mem_append_left _ he), hown⟩
    · obtain ⟨e, he, hown⟩ := mem_scheduleNamed hs
      exact ⟨e, List.mem_cons_of_mem _ (List.mem_append_right _ he), hown⟩
    · exact hself _ (by simp [ownSteps])
  | bare location => exact ⟨_, List.mem_singleton_self _, hs⟩

theorem mem_scheduleArgs {s : Step} {depth : Nat} {args : List Tree}
    (hs : s ∈ scheduleArgs depth args) :
    ∃ e ∈ Tree.levelsArgs depth args, s ∈ ownSteps e.1 e.2 := by
  cases args with
  | nil => simp [scheduleArgs] at hs
  | cons t rest =>
    rw [scheduleArgs, List.mem_append] at hs
    rw [Tree.levelsArgs]
    rcases hs with hs | hs
    · obtain ⟨e, he, hown⟩ := mem_schedule hs
      exact ⟨e, List.mem_append_left _ he, hown⟩
    · obtain ⟨e, he, hown⟩ := mem_scheduleArgs hs
      exact ⟨e, List.mem_append_right _ he, hown⟩

theorem mem_scheduleNamed {s : Step} {depth : Nat} {named : List (String × Tree)}
    (hs : s ∈ scheduleNamed depth named) :
    ∃ e ∈ Tree.levelsNamed depth named, s ∈ ownSteps e.1 e.2 := by
  cases named with
  | nil => simp [scheduleNamed] at hs
  | cons e rest =>
    obtain ⟨name, t⟩ := e
    rw [scheduleNamed, List.mem_append] at hs
    rw [Tree.levelsNamed]
    rcases hs with hs | hs
    · obtain ⟨e, he, hown⟩ := mem_schedule hs
      exact ⟨e, List.mem_append_left _ he, hown⟩
    · obtain ⟨e, he, hown⟩ := mem_scheduleNamed hs
      exact ⟨e, List.mem_append_right _ he, hown⟩

end

theorem literal_of_escape {value : Literal} {depth : Nat} {t : Tree}
    (h : .escape value ∈ schedule depth t) : ∃ location, .literal value location ∈ t.preorder := by
  obtain ⟨⟨j, m⟩, he, hown⟩ := mem_schedule h
  have hm := Tree.mem_preorder_of_mem_levels he
  cases m with
  | literal other location =>
    obtain rfl : value = other := by simpa [ownSteps] using hown
    exact ⟨location, hm⟩
  | symbol name location => simp [ownSteps] at hown
  | call head args named location => simp [ownSteps] at hown
  | bare location => simp [ownSteps] at hown

theorem bare_of_refuse {location : Option Location} {depth : Nat} {t : Tree}
    (h : .refuse location ∈ schedule depth t) : .bare location ∈ t.preorder := by
  obtain ⟨⟨j, m⟩, he, hown⟩ := mem_schedule h
  have hm := Tree.mem_preorder_of_mem_levels he
  cases m with
  | bare other =>
    obtain rfl : location = other := by simpa [ownSteps] using hown
    exact hm
  | literal value location => simp [ownSteps] at hown
  | symbol name location => simp [ownSteps] at hown
  | call head args named location => simp [ownSteps] at hown

mutual

/-- Nodes are come to in pre-order. -/
theorem filterMap_entered_schedule (depth : Nat) (t : Tree) :
    (schedule depth t).filterMap Step.entered? = t.levels depth := by
  cases t with
  | literal value location => rfl
  | symbol name location => rfl
  | call head args named location =>
    have hargs := filterMap_entered_scheduleArgs (depth + 1) args
    have hnamed := filterMap_entered_scheduleNamed (depth + 1) named
    simp [schedule, Tree.levels, List.filterMap_cons, Step.entered?, hargs, hnamed]
  | bare location => rfl

theorem filterMap_entered_scheduleArgs (depth : Nat) (args : List Tree) :
    (scheduleArgs depth args).filterMap Step.entered? = Tree.levelsArgs depth args := by
  cases args with
  | nil => rfl
  | cons t rest =>
    rw [scheduleArgs, List.filterMap_append, filterMap_entered_schedule,
      filterMap_entered_scheduleArgs, Tree.levelsArgs]

theorem filterMap_entered_scheduleNamed (depth : Nat) (named : List (String × Tree)) :
    (scheduleNamed depth named).filterMap Step.entered? = Tree.levelsNamed depth named := by
  cases named with
  | nil => rfl
  | cons e rest =>
    obtain ⟨name, t⟩ := e
    rw [scheduleNamed, List.filterMap_append, filterMap_entered_schedule,
      filterMap_entered_scheduleNamed, Tree.levelsNamed]

end

mutual

/-- Renderers are called in post-order. -/
theorem filterMap_invoked_schedule (depth : Nat) (t : Tree) :
    (schedule depth t).filterMap Step.invoked? = t.postorder depth := by
  cases t with
  | literal value location => rfl
  | symbol name location => rfl
  | call head args named location =>
    have hargs := filterMap_invoked_scheduleArgs (depth + 1) args
    have hnamed := filterMap_invoked_scheduleNamed (depth + 1) named
    simp [schedule, Tree.postorder, List.filterMap_cons, Step.invoked?, hargs, hnamed]
  | bare location => rfl

theorem filterMap_invoked_scheduleArgs (depth : Nat) (args : List Tree) :
    (scheduleArgs depth args).filterMap Step.invoked? = Tree.postorderArgs depth args := by
  cases args with
  | nil => rfl
  | cons t rest =>
    rw [scheduleArgs, List.filterMap_append, filterMap_invoked_schedule,
      filterMap_invoked_scheduleArgs, Tree.postorderArgs]

theorem filterMap_invoked_scheduleNamed (depth : Nat) (named : List (String × Tree)) :
    (scheduleNamed depth named).filterMap Step.invoked? = Tree.postorderNamed depth named := by
  cases named with
  | nil => rfl
  | cons e rest =>
    obtain ⟨name, t⟩ := e
    rw [scheduleNamed, List.filterMap_append, filterMap_invoked_schedule,
      filterMap_invoked_scheduleNamed, Tree.postorderNamed]

end

section

variable (d : Dialect) (config : Config) (scope : Scope)

/-- At some depth a tree is rendered to some value. -/
def ComesTo (depth : Nat) (t : Tree) (r : Rendered) : Prop :=
  (node (some d) config scope depth t).result = .ok (some r)

/-- A renderer is called for a call at a depth within the limit, leaving an event. It is given what the
arguments of the call come to, one level deeper, and ends with some outcome. -/
inductive Invoked : Nat × Tree → Event → Except Failure Fragment → Prop
  | call {depth : Nat} {head : String} {args : List Tree} {named : List (String × Tree)}
      {location : Option Location} {children : List Rendered} {attributes : List (String × Rendered)}
      {outcome : Except Failure Fragment} (hdepth : config.isExceededBy depth = false)
      (hchildren : List.Forall₂ (ComesTo d config scope (depth + 1)) args children)
      (hattributes : List.Forall₂ (fun e r => e.1 = r.1 ∧ ComesTo d config scope (depth + 1) e.2 r.2)
        named attributes)
      (houtcome : (d.rendererFor config head).run children attributes = outcome) :
      Invoked (depth, .call head args named location)
        (.invoked head location (d.rendererFor config head).label children attributes outcome) outcome

/-- A step leaves events, and may fail. -/
inductive Performs : Step → List Event → Option Failure → Prop
  | enter {depth : Nat} {t : Tree} (h : config.isExceededBy depth = false) :
      Performs (.enter depth t) [] none
  | tooDeep {depth : Nat} {t : Tree} (h : config.isExceededBy depth = true) :
      Performs (.enter depth t) [] (some (tooDeep config t.location))
  | registered {head : String} (h : (d.operators.find? head).isSome = true) :
      Performs (.choose head) [] none
  | fallback {head : String} (h : (d.operators.find? head).isSome = false) :
      Performs (.choose head) [.fallback head] none
  | escape {value : Literal} {r : Rendered} (h : value.toValue.escape d.escaper = .ok r) :
      Performs (.escape value) [] none
  | unwritable {value : Literal} {b : Fault} (h : value.toValue.escape d.escaper = .error b) :
      Performs (.escape value) [] (some (.fault b))
  | invoke {depth : Nat} {t : Tree} {e : Event} {f : Fragment}
      (h : Invoked d config scope (depth, t) e (.ok f)) : Performs (.invoke depth t) [e] none
  | reject {depth : Nat} {t : Tree} {e : Event} {f : Failure}
      (h : Invoked d config scope (depth, t) e (.error f)) :
      Performs (.invoke depth t) [e] (some (f.locate t.location))
  | refuse {location : Option Location} :
      Performs (.refuse location) [] (some (.malformed .unknownNode location))

/-- Steps are done in order, up to the first that fails. -/
inductive Executes : List Step → List Event → Option Failure → Prop
  | nil : Executes [] [] none
  | next {s : Step} {rest : List Step} {events later : List Event} {failure : Option Failure}
      (hs : Performs d config scope s events none) (hrest : Executes rest later failure) :
      Executes (s :: rest) (events ++ later) failure
  | stop {s : Step} {rest : List Step} {events : List Event} {f : Failure}
      (hs : Performs d config scope s events (some f)) : Executes (s :: rest) events (some f)

/-- A run does some steps. If none of them fails it has a value with some property, and else it fails
as the first failing step does. -/
inductive Follows {α : Type} (r : Run α) (steps : List Step) (p : α → Prop) : Prop
  | ok {a : α} (hsteps : Executes d config scope steps r.events none) (hresult : r.result = .ok a)
      (ha : p a)
  | error {f : Failure} (hsteps : Executes d config scope steps r.events (some f))
      (hresult : r.result = .error f)

end

section

variable {d : Dialect} {config : Config} {scope : Scope}

namespace Executes

theorem single {s : Step} {events : List Event} {failure : Option Failure}
    (h : Performs d config scope s events failure) : Executes d config scope [s] events failure := by
  cases failure with
  | none =>
    have hnext := Executes.next h Executes.nil
    rwa [List.append_nil] at hnext
  | some f => exact .stop h

theorem append {steps rest : List Step} {events later : List Event} {failure : Option Failure}
    (h : Executes d config scope steps events none) (hrest : Executes d config scope rest later failure) :
    Executes d config scope (steps ++ rest) (events ++ later) failure := by
  generalize hnone : (none : Option Failure) = done at h
  induction h with
  | nil => exact hrest
  | next hs _ ih =>
    rw [List.cons_append, List.append_assoc]
    exact .next hs (ih hnone)
  | stop hs => cases hnone

theorem append_of_failed {steps rest : List Step} {events : List Event} {f : Failure}
    (h : Executes d config scope steps events (some f)) :
    Executes d config scope (steps ++ rest) events (some f) := by
  generalize hsome : some f = failed at h
  induction h with
  | nil => cases hsome
  | next hs _ ih => exact .next hs (ih hsome)
  | stop hs => exact .stop hs

/-- A list of steps fails in its first part, or else goes on to its second. -/
theorem of_append {steps rest : List Step} {events : List Event} {failure : Option Failure}
    (h : Executes d config scope (steps ++ rest) events failure) :
    (∃ f, failure = some f ∧ Executes d config scope steps events (some f)) ∨
      ∃ before later, events = before ++ later ∧ Executes d config scope steps before none ∧
        Executes d config scope rest later failure := by
  induction steps generalizing events with
  | nil => exact .inr ⟨[], events, rfl, .nil, h⟩
  | cons s more ih =>
    cases h with
    | stop hs => exact .inl ⟨_, rfl, .stop hs⟩
    | next hs hrest =>
      rcases ih hrest with ⟨f, rfl, hfailed⟩ | ⟨before, later, rfl, hdone, hlater⟩
      · exact .inl ⟨f, rfl, .next hs hfailed⟩
      · exact .inr ⟨_, later, (List.append_assoc _ _ _).symm, .next hs hdone, hlater⟩

/-- If steps fail, one of them does and all before it are done. -/
theorem first_failing {steps : List Step} {events : List Event} {f : Failure}
    (h : Executes d config scope steps events (some f)) :
    ∃ done s rest before last, steps = done ++ s :: rest ∧ events = before ++ last ∧
      Executes d config scope done before none ∧ Performs d config scope s last (some f) := by
  generalize hsome : some f = failed at h
  induction h with
  | nil => cases hsome
  | @next s rest events later failure hs _ ih =>
    obtain ⟨done, s', rest', before, last, rfl, rfl, hdone, hlast⟩ := ih hsome
    exact ⟨s :: done, s', rest', events ++ before, last, rfl, (List.append_assoc _ _ _).symm,
      .next hs hdone, hlast⟩
  | @stop s rest events f' hs =>
    cases hsome
    exact ⟨[], s, rest, [], events, rfl, rfl, .nil, hs⟩

/-- If steps do not fail, none of them does. -/
theorem performs {steps : List Step} {events : List Event}
    (h : Executes d config scope steps events none) :
    ∀ s ∈ steps, ∃ own, Performs d config scope s own none := by
  induction steps generalizing events with
  | nil => simp
  | cons s rest ih =>
    cases h with
    | next hs hrest =>
      rw [List.forall_mem_cons]
      exact ⟨⟨_, hs⟩, ih hrest⟩

end Executes

namespace Follows

variable {α β : Type}

theorem pure {p : α → Prop} {a : α} (ha : p a) :
    Follows d config scope (Pure.pure a : Run α) [] p :=
  .ok .nil rfl ha

theorem bind {r : Run α} {next : α → Run β} {steps later : List Step} {p : α → Prop} {q : β → Prop}
    (h : Follows d config scope r steps p)
    (hnext : ∀ a, r.result = .ok a → p a → Follows d config scope (next a) later q) :
    Follows d config scope (r >>= next) (steps ++ later) q := by
  cases h with
  | @error f hsteps hresult =>
    obtain ⟨hevents, hbind⟩ : (r >>= next).events = r.events ∧ (r >>= next).result = .error f :=
      Run.bind_of_error hresult
    rw [← hevents] at hsteps
    exact .error hsteps.append_of_failed hbind
  | @ok a hsteps hresult ha =>
    obtain ⟨hevents, hbind⟩ : (r >>= next).events = r.events ++ (next a).events ∧
        (r >>= next).result = (next a).result := Run.bind_of_ok hresult
    cases hnext a hresult ha with
    | ok hlater hvalue hb =>
      refine .ok ?_ (hbind.trans hvalue) hb
      rw [hevents]
      exact hsteps.append hlater
    | error hlater hfailed =>
      refine .error ?_ (hbind.trans hfailed)
      rw [hevents]
      exact hsteps.append hlater

/-- Changes the value of a run without a step. -/
theorem map {r : Run α} {f : α → β} {steps : List Step} {p : α → Prop} {q : β → Prop}
    (h : Follows d config scope r steps p) (hq : ∀ a, r.result = .ok a → p a → q (f a)) :
    Follows d config scope (r >>= fun a => Pure.pure (f a)) steps q := by
  have hbind : Follows d config scope (r >>= fun a => Pure.pure (f a)) (steps ++ []) q :=
    h.bind fun a hresult ha => .pure (hq a hresult ha)
  rwa [List.append_nil] at hbind

/-- At each node its depth is checked first. -/
theorem enter {r : Run α} {depth : Nat} {t : Tree} {location : Option Location} {steps : List Step}
    {p : α → Prop} (hlocation : t.location = location)
    (h : config.isExceededBy depth = false → Follows d config scope r steps p) :
    Follows d config scope (if config.isExceededBy depth then .fail (tooDeep config location) else r)
      (.enter depth t :: steps) p := by
  subst hlocation
  cases hdepth : config.isExceededBy depth with
  | true => exact .error (.stop (.tooDeep hdepth)) rfl
  | false =>
    rw [if_neg (by simp)]
    cases h hdepth with
    | ok hsteps hresult ha => exact .ok (.next (.enter hdepth) hsteps) hresult ha
    | error hsteps hresult => exact .error (.next (.enter hdepth) hsteps) hresult

end Follows

theorem literal_follows (value : Literal) :
    Follows d config scope (literal (some d) value) [.escape value] (fun _ => True) := by
  cases h : value.toValue.escape d.escaper with
  | ok r => exact .ok (.single (.escape h)) (by rw [literal, h]; rfl) trivial
  | error b => exact .error (.single (.unwritable h)) (by rw [literal, h]; rfl)

theorem chooseRenderer_follows {t : Tree} (h : scope.Covers d t) (head : String) :
    Follows d config scope (chooseRenderer (some d) config scope head) [.choose head]
      (fun renderer => renderer = some (d.rendererFor config head)) := by
  rw [chooseRenderer_of_covers h head]
  refine .ok (.single ?_) rfl rfl
  cases hfound : (d.operators.find? head).isSome with
  | true => exact .registered hfound
  | false => exact .fallback hfound

theorem invoke_follows {depth : Nat} {head : String} {args : List Tree}
    {named : List (String × Tree)} {location : Option Location} {children : List Rendered}
    {attributes : List (String × Rendered)} (hdepth : config.isExceededBy depth = false)
    (hchildren : List.Forall₂ (ComesTo d config scope (depth + 1)) args children)
    (hattributes : List.Forall₂ (fun e r => e.1 = r.1 ∧ ComesTo d config scope (depth + 1) e.2 r.2)
      named attributes) :
    Follows d config scope
      (invoke (some (d.rendererFor config head)) head location (children.map some)
        (attributes.map fun e => (e.1, some e.2)))
      [.invoke depth (.call head args named location)] (fun _ => True) := by
  have hrun : ∀ outcome, (d.rendererFor config head).run children attributes = outcome →
      invoke (some (d.rendererFor config head)) head location (children.map some)
        (attributes.map fun e => (e.1, some e.2)) =
          ⟨[.invoked head location (d.rendererFor config head).label children attributes outcome],
            (outcome.mapError (Failure.locate location)).map .one⟩ := by
    intro outcome houtcome
    simp only [invoke, mapM_id_map_some, mapM_named_some, houtcome]
  cases houtcome : (d.rendererFor config head).run children attributes with
  | ok f =>
    rw [hrun _ houtcome]
    exact .ok (.single (.invoke (.call hdepth hchildren hattributes houtcome))) rfl trivial
  | error f =>
    rw [hrun _ houtcome]
    exact .error (.single (.reject (.call hdepth hchildren hattributes houtcome))) rfl

mutual

/-- The rendering of a tree does the steps of its schedule, and comes to something with a text. -/
theorem node_follows {t : Tree} (h : scope.Covers d t) (depth : Nat) :
    Follows d config scope (node (some d) config scope depth t) (schedule depth t)
      (fun v => ∃ r, v = some r) := by
  cases t with
  | literal value location =>
    rw [node, schedule]
    exact .enter rfl fun _ => (literal_follows value).map fun r _ _ => ⟨r, rfl⟩
  | symbol name location =>
    rw [node, schedule, symbol_of_covers h]
    exact .enter rfl fun _ => .pure ⟨_, rfl⟩
  | call head args named location =>
    have hargs := positional_follows (fun t ht => h.part (Tree.mem_preorder_arg ht)) (depth + 1)
    have hnamed := keyed_follows (fun e he => h.part (Tree.mem_preorder_named he)) (depth + 1)
    rw [node, schedule, List.append_assoc]
    refine .enter rfl fun hdepth => (chooseRenderer_follows h head).bind ?_
    rintro renderer - rfl
    refine hargs.bind ?_
    rintro vs - ⟨children, rfl, hchildren⟩
    refine hnamed.bind ?_
    rintro ws - ⟨attributes, rfl, hattributes⟩
    exact (invoke_follows hdepth hchildren hattributes).map fun r _ _ => ⟨r, rfl⟩
  | bare location =>
    rw [node, schedule]
    exact .enter rfl fun _ => .error (.single .refuse) rfl

theorem positional_follows {args : List Tree} (h : ∀ t ∈ args, scope.Covers d t) (depth : Nat) :
    Follows d config scope (positional (some d) config scope depth args) (scheduleArgs depth args)
      (fun vs => ∃ rs, vs = rs.map some ∧ List.Forall₂ (ComesTo d config scope depth) args rs) := by
  cases args with
  | nil =>
    rw [positional, scheduleArgs]
    exact .pure ⟨[], rfl, .nil⟩
  | cons t rest =>
    rw [List.forall_mem_cons] at h
    have hfirst := node_follows h.1 depth
    have hrest := positional_follows h.2 depth
    rw [positional, scheduleArgs]
    refine hfirst.bind ?_
    rintro v hv ⟨r, rfl⟩
    refine hrest.map ?_
    rintro vs - ⟨rs, rfl, hrs⟩
    exact ⟨r :: rs, rfl, .cons hv hrs⟩

theorem keyed_follows {named : List (String × Tree)} (h : ∀ e ∈ named, scope.Covers d e.2)
    (depth : Nat) :
    Follows d config scope (keyed (some d) config scope depth named) (scheduleNamed depth named)
      (fun vs => ∃ rs : List (String × Rendered), vs = rs.map (fun e => (e.1, some e.2)) ∧
        List.Forall₂ (fun e r => e.1 = r.1 ∧ ComesTo d config scope depth e.2 r.2) named rs) := by
  cases named with
  | nil =>
    rw [keyed, scheduleNamed]
    exact .pure ⟨[], rfl, .nil⟩
  | cons e rest =>
    obtain ⟨name, t⟩ := e
    rw [List.forall_mem_cons] at h
    have hfirst := node_follows h.1 depth
    have hrest := keyed_follows h.2 depth
    rw [keyed, scheduleNamed]
    refine hfirst.bind ?_
    rintro v hv ⟨r, rfl⟩
    refine hrest.map ?_
    rintro vs - ⟨rs, rfl, hrs⟩
    exact ⟨(name, r) :: rs, rfl, .cons ⟨rfl, hv⟩ hrs⟩

end

theorem render_follows {t : Tree} (h : scope.Covers d t) :
    Follows d config scope (render (some d) config scope t) (schedule 0 t)
      (ComesTo d config scope 0 t) := by
  have hbind : Follows d config scope (render (some d) config scope t) (schedule 0 t ++ [])
      (ComesTo d config scope 0 t) := by
    refine (node_follows h 0).bind ?_
    rintro v hv ⟨r, rfl⟩
    exact .pure hv
  rwa [List.append_nil] at hbind

theorem rendering_follows (d : Dialect) (config : Config) (root : Tree) :
    Follows d config (d.scopeFor root) (d.rendering config root) (schedule 0 root)
      (ComesTo d config (d.scopeFor root) 0 root) :=
  render_follows (d.covers_scopeFor_self root)

end

end Interpret

end ExprMarkup
