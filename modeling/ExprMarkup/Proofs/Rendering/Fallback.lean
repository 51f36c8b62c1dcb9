import ExprMarkup.Log
import ExprMarkup.Proofs.Rendering.Depth

namespace ExprMarkup

/-- The head that a fallback was chosen for. -/
def Event.fallback? : Event → Option String
  | .fallback head => some head
  | .invoked _ _ _ _ _ _ => none

/-- The heads that a fallback was chosen for, in order. -/
def fallbacks (events : List Event) : List String := events.filterMap Event.fallback?

theorem fallbacks_append (a b : List Event) : fallbacks (a ++ b) = fallbacks a ++ fallbacks b :=
  List.filterMap_append

/-- The record that a head has no renderer. -/
def Log.fallbackChosen (head : String) : Record :=
  ⟨loggerName "interpreter", "No renderer for " ++ Text.quoted head ++ ", using fallback"⟩

theorem Log.ofEvents_eq_map (events : List Event) :
    ofEvents events = (fallbacks events).map fallbackChosen := by
  have hevent : ∀ e : Event, ofEvent e = e.fallback?.map fallbackChosen := by
    intro e
    cases e <;> rfl
  rw [ofEvents, fallbacks, List.map_filterMap]
  exact congrArg (fun f => events.filterMap f) (funext hevent)

namespace Dialect

/-- The registry has no renderer for the head. -/
def lacks (d : Dialect) (head : String) : Bool := (d.operators.find? head).isNone

/-- The heads of the calls among some nodes that the registry does not have, one for each call. -/
def unregistered (d : Dialect) (nodes : List Tree) : List String :=
  (nodes.filterMap Tree.callHead?).filter d.lacks

theorem unregistered_prefix (d : Dialect) {nodes others : List Tree} (h : nodes <+: others) :
    d.unregistered nodes <+: d.unregistered others :=
  (h.filterMap _).filter _

end Dialect

/-- The renderer is one of the library's own, not any function. -/
def Renderer.isBuiltIn : Renderer → Bool
  | .container _ => true
  | .leaf _ _ => true
  | .operator _ _ => true
  | .mathFallback _ _ => true
  | .custom _ _ => false

theorem Renderer.rejects_of_isBuiltIn {r : Renderer} (h : r.isBuiltIn = true) : r.Rejects := by
  refine rejects ?_
  rintro label own rfl
  cases h

namespace Interpret

variable {d : Dialect} {config : Config} {scope : Scope} {root : Tree}

/-- The head for which a step looks for a renderer. -/
def Step.chosen? : Step → Option String
  | .enter _ _ => none
  | .choose head => some head
  | .escape _ => none
  | .invoke _ _ => none
  | .refuse _ => none

/-- What a step records: the head that it looks for, if the registry lacks it. -/
theorem Performs.fallbacks_eq {s : Step} {events : List Event} {failure : Option Failure}
    (h : Performs d config scope s events failure) :
    fallbacks events = s.chosen?.toList.filter d.lacks := by
  have hinvoked : ∀ {c e outcome}, Invoked d config scope c e outcome → fallbacks [e] = [] := by
    intro c e outcome hinvoked
    cases hinvoked
    rfl
  cases h with
  | enter => rfl
  | tooDeep => rfl
  | @registered head hfound =>
    have hlacks : d.lacks head = false := by
      rw [Dialect.lacks, ← Option.not_isSome, hfound, Bool.not_true]
    simp [fallbacks, Step.chosen?, hlacks]
  | @fallback head hmissing =>
    have hlacks : d.lacks head = true := by
      rw [Dialect.lacks, ← Option.not_isSome, hmissing, Bool.not_false]
    simp [fallbacks, Event.fallback?, Step.chosen?, hlacks]
  | escape => rfl
  | unwritable => rfl
  | invoke h => exact hinvoked h
  | reject h => exact hinvoked h
  | refuse => rfl

theorem Performs.chosen_of_fails {s : Step} {events : List Event} {f : Failure}
    (h : Performs d config scope s events (some f)) : s.chosen? = none := by
  cases h <;> rfl

/-- What steps without a failure record. -/
theorem Executes.fallbacks_eq {steps : List Step} {events : List Event}
    (h : Executes d config scope steps events none) :
    fallbacks events = (steps.filterMap Step.chosen?).filter d.lacks := by
  induction steps generalizing events with
  | nil =>
    cases h
    rfl
  | cons s rest ih =>
    cases h with
    | next hs hrest =>
      rw [fallbacks_append, hs.fallbacks_eq, ih hrest, filterMap_cons_eq, List.filter_append]

/-- Where a call is come to, its renderer is looked for next, and nowhere else. -/
inductive Announced : List Step → Prop
  | nil : Announced []
  | call {depth : Nat} {head : String} {args : List Tree} {named : List (String × Tree)}
      {location : Option Location} {rest : List Step} (h : Announced rest) :
      Announced (.enter depth (.call head args named location) :: .choose head :: rest)
  | other {s : Step} {rest : List Step} (hentered : s.entered?.bind (fun e => e.2.callHead?) = none)
      (hchosen : s.chosen? = none) (h : Announced rest) : Announced (s :: rest)

namespace Announced

theorem append {steps later : List Step} (h : Announced steps) (hlater : Announced later) :
    Announced (steps ++ later) := by
  induction h with
  | nil => exact hlater
  | call _ ih => exact .call ih
  | other hentered hchosen _ ih => exact .other hentered hchosen ih

/-- So what is looked for are the heads of the calls that have been come to. -/
theorem filterMap_chosen {steps : List Step} (h : Announced steps) :
    steps.filterMap Step.chosen? =
      ((steps.filterMap Step.entered?).map Prod.snd).filterMap Tree.callHead? := by
  induction h with
  | nil => rfl
  | @call depth head args named location rest _ ih => exact congrArg (head :: ·) ih
  | @other s rest hentered hchosen _ ih =>
    have hhead : (s.entered?.toList.map Prod.snd).filterMap Tree.callHead? = [] := by
      cases hs : s.entered? with
      | none => rfl
      | some e =>
        rw [hs, Option.bind_some] at hentered
        exact List.filterMap_cons_none hentered
    rw [List.filterMap_cons_none hchosen, filterMap_cons_eq, List.map_append, List.filterMap_append,
      hhead, ih, List.nil_append]

/-- Steps can be cut off before any but a look for a renderer. -/
theorem of_append {done rest : List Step} {s : Step} (h : Announced (done ++ s :: rest))
    (hs : s.chosen? = none) : Announced done := by
  generalize hsteps : done ++ s :: rest = steps at h
  induction h generalizing done with
  | nil => simp at hsteps
  | @call depth head args named location more _ ih =>
    match done with
    | [] => exact .nil
    | [first] =>
      obtain ⟨-, rfl, -⟩ : first = _ ∧ s = .choose head ∧ rest = more := by simpa using hsteps
      cases hs
    | first :: second :: done =>
      obtain ⟨rfl, rfl, hmore⟩ :
          first = .enter depth (.call head args named location) ∧ second = .choose head ∧
            done ++ s :: rest = more := by simpa using hsteps
      exact .call (ih hmore)
  | @other first more hentered hchosen _ ih =>
    cases done with
    | nil => exact .nil
    | cons step done =>
      obtain ⟨rfl, hmore⟩ : step = first ∧ done ++ s :: rest = more := by simpa using hsteps
      exact .other hentered hchosen (ih hmore)

end Announced

mutual

theorem announced_schedule (depth : Nat) (t : Tree) : Announced (schedule depth t) := by
  cases t with
  | literal value location => exact .other rfl rfl (.other rfl rfl .nil)
  | symbol name location => exact .other rfl rfl .nil
  | call head args named location =>
    have hargs := announced_scheduleArgs (depth + 1) args
    have hnamed := announced_scheduleNamed (depth + 1) named
    exact .call ((hargs.append hnamed).append (.other rfl rfl .nil))
  | bare location => exact .other rfl rfl (.other rfl rfl .nil)

theorem announced_scheduleArgs (depth : Nat) (args : List Tree) :
    Announced (scheduleArgs depth args) := by
  cases args with
  | nil => exact .nil
  | cons t rest => exact (announced_schedule depth t).append (announced_scheduleArgs depth rest)

theorem announced_scheduleNamed (depth : Nat) (named : List (String × Tree)) :
    Announced (scheduleNamed depth named) := by
  cases named with
  | nil => exact .nil
  | cons e rest =>
    obtain ⟨name, t⟩ := e
    exact (announced_schedule depth t).append (announced_scheduleNamed depth rest)

end

/-- The step that calls a renderer is the last of all steps for its call, wherever it stands. -/
def Closing (steps : List Step) : Prop :=
  ∀ done depth c rest, steps = done ++ .invoke depth c :: rest →
    ∃ first, done ++ [.invoke depth c] = first ++ schedule depth c

namespace Closing

theorem nil : Closing [] := by
  intro done depth c rest h
  simp at h

theorem cons {s : Step} {steps : List Step} (hs : s.invoked? = none) (h : Closing steps) :
    Closing (s :: steps) := by
  intro done depth c rest hsteps
  cases done with
  | nil =>
    obtain ⟨rfl, -⟩ := List.cons.inj hsteps
    cases hs
  | cons first done =>
    obtain ⟨rfl, hrest⟩ := List.cons.inj hsteps
    obtain ⟨before, hbefore⟩ := h done depth c rest hrest
    exact ⟨s :: before, congrArg (s :: ·) hbefore⟩

theorem append {steps later : List Step} (h : Closing steps) (hlater : Closing later) :
    Closing (steps ++ later) := by
  intro done depth c rest hsteps
  rcases List.append_eq_append_iff.mp hsteps with ⟨more, rfl, hmore⟩ | ⟨more, hmore, hrest⟩
  · obtain ⟨before, hbefore⟩ := hlater more depth c rest hmore
    exact ⟨steps ++ before, by rw [List.append_assoc, hbefore, List.append_assoc]⟩
  · cases more with
    | nil =>
      obtain ⟨before, hbefore⟩ := hlater [] depth c rest hrest.symm
      exact ⟨done ++ before, by rw [List.append_assoc, ← hbefore, List.nil_append]⟩
    | cons step more =>
      obtain ⟨rfl, -⟩ := List.cons.inj hrest
      exact h done depth c more hmore

/-- A renderer is called after the steps of all arguments. -/
theorem call {depth : Nat} {c : Tree} {steps : List Step} (h : Closing steps)
    (hc : schedule depth c = steps ++ [.invoke depth c]) : Closing (schedule depth c) := by
  intro done depth' c' rest hsteps
  rw [hc] at hsteps
  rcases List.append_eq_append_iff.mp hsteps with ⟨more, rfl, hlast⟩ | ⟨more, hmore, hlast⟩
  · cases more with
    | nil =>
      obtain ⟨⟨rfl, rfl⟩, -⟩ : (depth = depth' ∧ c = c') ∧ rest = [] := by simpa using hlast
      exact ⟨[], by rw [hc, List.append_nil, List.nil_append]⟩
    | cons step more => simp at hlast
  · cases more with
    | nil =>
      obtain ⟨⟨rfl, rfl⟩, -⟩ : (depth' = depth ∧ c' = c) ∧ rest = [] := by simpa using hlast
      exact ⟨[], by rw [hc, hmore, List.append_nil, List.nil_append]⟩
    | cons step more =>
      obtain ⟨rfl, -⟩ := List.cons.inj hlast
      exact h done depth' c' more hmore

end Closing

mutual

theorem closing_schedule (depth : Nat) (t : Tree) : Closing (schedule depth t) := by
  cases t with
  | literal value location => exact .cons rfl (.cons rfl .nil)
  | symbol name location => exact .cons rfl .nil
  | call head args named location =>
    have hargs := closing_scheduleArgs (depth + 1) args
    have hnamed := closing_scheduleNamed (depth + 1) named
    exact .call (.cons rfl (.cons rfl (hargs.append hnamed))) rfl
  | bare location => exact .cons rfl (.cons rfl .nil)

theorem closing_scheduleArgs (depth : Nat) (args : List Tree) : Closing (scheduleArgs depth args) := by
  cases args with
  | nil => exact .nil
  | cons t rest => exact (closing_schedule depth t).append (closing_scheduleArgs depth rest)

theorem closing_scheduleNamed (depth : Nat) (named : List (String × Tree)) :
    Closing (scheduleNamed depth named) := by
  cases named with
  | nil => exact .nil
  | cons e rest =>
    obtain ⟨name, t⟩ := e
    exact (closing_schedule depth t).append (closing_scheduleNamed depth rest)

end

/-- A rendering does some steps of its schedule and fails at the next one. -/
structure FailsAt (d : Dialect) (config : Config) (root : Tree) (done : List Step) (s : Step)
    (f : Failure) : Prop where
  scheduled : ∃ rest, schedule 0 root = done ++ s :: rest
  performed : ∃ own last, (d.rendering config root).events = own ++ last ∧
    Executes d config (d.scopeFor root) done own none ∧
    Performs d config (d.scopeFor root) s last (some f)
  failed : (d.rendering config root).result = .error f

namespace FailsAt

variable {done : List Step} {s : Step} {f : Failure}

theorem of_failed (h : (d.rendering config root).result = .error f) :
    ∃ done s, FailsAt d config root done s f := by
  obtain ⟨done, s, rest, own, last, hschedule, hevents, hdone, hlast⟩ := first_failing_of_rendering h
  exact ⟨done, s, ⟨rest, hschedule⟩, ⟨own, last, hevents, hdone, hlast⟩, h⟩

/-- What is recorded are the unregistered heads of the nodes that have been come to. -/
theorem fallbacks_eq (h : FailsAt d config root done s f) :
    fallbacks (d.rendering config root).events =
      d.unregistered ((done.filterMap Step.entered?).map Prod.snd) := by
  obtain ⟨rest, hschedule⟩ := h.scheduled
  obtain ⟨own, last, hevents, hdone, hlast⟩ := h.performed
  have hannounced : Announced done := by
    have hwhole := announced_schedule 0 root
    rw [hschedule] at hwhole
    exact hwhole.of_append hlast.chosen_of_fails
  rw [hevents, fallbacks_append, hdone.fallbacks_eq, hlast.fallbacks_eq, hlast.chosen_of_fails,
    hannounced.filterMap_chosen, Option.toList_none, List.filter_nil, List.append_nil,
    Dialect.unregistered]

/-- The nodes that have been come to are the first ones in pre-order, before that of the failing step. -/
theorem levels_eq (h : FailsAt d config root done s f) :
    ∃ after, root.levels 0 = done.filterMap Step.entered? ++ (s.entered?.toList ++ after) := by
  obtain ⟨rest, hschedule⟩ := h.scheduled
  refine ⟨rest.filterMap Step.entered?, ?_⟩
  rw [← filterMap_entered_schedule, hschedule, List.filterMap_append, filterMap_cons_eq]

theorem entered_prefix (h : FailsAt d config root done s f) :
    (done.filterMap Step.entered?).map Prod.snd <+: root.preorder := by
  obtain ⟨after, hlevels⟩ := h.levels_eq
  rw [← Tree.map_snd_levels root 0, hlevels]
  exact (List.prefix_append _ _).map _

/-- A renderer that fails is the end of the steps for its call, where all nodes of the call have been
come to. -/
theorem entered_invoke {depth : Nat} {c : Tree} (h : FailsAt d config root done (.invoke depth c) f) :
    ∃ first, done ++ [.invoke depth c] = first ++ schedule depth c ∧
      done.filterMap Step.entered? = first.filterMap Step.entered? ++ c.levels depth := by
  obtain ⟨rest, hschedule⟩ := h.scheduled
  obtain ⟨first, hfirst⟩ := closing_schedule 0 root done depth c rest hschedule
  refine ⟨first, hfirst, ?_⟩
  rw [← filterMap_entered_schedule, ← List.filterMap_append, ← hfirst, List.filterMap_append]
  exact (List.append_nil _).symm

end FailsAt

/-- What the records of a rendering say of its tree. -/
structure RecordsFallbacks (d : Dialect) (config : Config) (root : Tree) : Prop where
  /-- Each choice of a fallback makes one record, and rendering to text makes no others. -/
  recorded : Log.ofEvents (renderText d config root).events =
    (fallbacks (d.rendering config root).events).map Log.fallbackChosen
  beginning : fallbacks (d.rendering config root).events <+: d.unregistered root.preorder
  whole : ∀ value, (d.rendering config root).result = .ok value →
    fallbacks (d.rendering config root).events = d.unregistered root.preorder
  /-- A failure is that of a node too deep, of a renderer, or of a literal without a text. -/
  stopped : ∀ f, (d.rendering config root).result = .error f →
    (∃ done depth n, FailsAt d config root done (.enter depth n) f) ∨
      (∃ done depth c, FailsAt d config root done (.invoke depth c) f) ∨
      ∃ done value, FailsAt d config root done (.escape value) f
  /-- At a node that is too deep, the nodes before it have been recorded. -/
  tooDeep : ∀ done depth n f, FailsAt d config root done (.enter depth n) f →
    f = .malformed (.depthExceeded (.scalar config.maxDepth)) n.location ∧ config.isExceededBy depth = true ∧
    ∃ before after, root.levels 0 = before ++ (depth, n) :: after ∧
      done.filterMap Step.entered? = before ∧
      fallbacks (d.rendering config root).events = d.unregistered (before.map Prod.snd)
  /-- When the renderer of a call fails, the call and all that is below it have been recorded, after all
  that comes before the call. -/
  raised : ∀ done depth c f, FailsAt d config root done (.invoke depth c) f →
    ¬TooDeep config f ∧ c.callHead?.isSome = true ∧
    ∃ first before after, done ++ [.invoke depth c] = first ++ schedule depth c ∧
      first.filterMap Step.entered? = before ∧ root.levels 0 = before ++ c.levels depth ++ after ∧
      fallbacks (d.rendering config root).events = d.unregistered (before.map Prod.snd ++ c.preorder)
  unwritable : ∀ done value f, FailsAt d config root done (.escape value) f →
    (∃ b, f = .fault b) ∧ fallbacks (d.rendering config root).events =
      d.unregistered ((done.filterMap Step.entered?).map Prod.snd)

namespace RecordsFallbacks

variable {f : Failure}

/-- It is at a node that a rendering fails with the error of the depth check. -/
theorem failsAt_enter (h : RecordsFallbacks d config root) (hf : (d.rendering config root).result = .error f)
    (hdeep : TooDeep config f) : ∃ done depth n, FailsAt d config root done (.enter depth n) f := by
  rcases h.stopped f hf with hnode | ⟨done, depth, c, hcall⟩ | ⟨done, value, hliteral⟩
  · exact hnode
  · exact absurd hdeep (h.raised _ _ _ _ hcall).1
  · obtain ⟨⟨b, rfl⟩, -⟩ := h.unwritable _ _ _ hliteral
    obtain ⟨location, hb⟩ := hdeep
    cases hb

/-- Another error is that of a renderer. -/
theorem failsAt_invoke (h : RecordsFallbacks d config root) (hf : (d.rendering config root).result = .error f)
    (hdeep : ¬TooDeep config f) (hfault : ∀ b, f ≠ .fault b) :
    ∃ done depth c, FailsAt d config root done (.invoke depth c) f := by
  rcases h.stopped f hf with ⟨done, depth, n, hnode⟩ | hcall | ⟨done, value, hliteral⟩
  · exact absurd ⟨_, (h.tooDeep _ _ _ _ hnode).1⟩ hdeep
  · exact hcall
  · obtain ⟨⟨b, hb⟩, -⟩ := h.unwritable _ _ _ hliteral
    exact absurd hb (hfault b)

end RecordsFallbacks

/-- A rendering that succeeds has come to all nodes. -/
theorem fallbacks_of_ok {value : Rendered} (h : (d.rendering config root).result = .ok value) :
    fallbacks (d.rendering config root).events = d.unregistered root.preorder := by
  cases rendering_follows d config root with
  | ok hsteps _ _ =>
    rw [hsteps.fallbacks_eq, (announced_schedule 0 root).filterMap_chosen, filterMap_entered_schedule,
      Tree.map_snd_levels, Dialect.unregistered]
  | error _ hfailed =>
    rw [hfailed] at h
    cases h

theorem renderText_events (d : Dialect) (config : Config) (root : Tree) :
    (renderText d config root).events = (d.rendering config root).events := by
  cases hresult : (d.rendering config root).result with
  | ok value => exact (Run.bind_of_ok hresult).1.trans (List.append_nil _)
  | error f => exact (Run.bind_of_error hresult).1

/-- A renderer that raises nothing but its own errors does not raise that of the depth check. -/
theorem Invoked.not_tooDeep {c : Nat × Tree} {e : Event} {f : Failure} {location : Option Location}
    (hrejects : ∀ head, (d.rendererFor config head).Rejects)
    (h : Invoked d config scope c e (.error f)) : ¬TooDeep config (f.locate location) := by
  rintro ⟨place, hdeep⟩
  cases h with
  | call hdepth hchildren hattributes houtcome =>
    rw [Failure.eq_of_locate_eq_malformed hdeep] at houtcome
    have hrejection := hrejects _ _ _ _ houtcome
    cases hrejection

/-- The records of a rendering follow its tree in pre-order, up to where the rendering fails. -/
theorem rendering_fallbacks
    (hregistered : ∀ e ∈ d.operators.renderers.entries, e.2.isBuiltIn = true)
    (hfallback : ∀ head, (d.fallback head config).isBuiltIn = true)
    (hknown : ∀ n ∈ root.preorder, ∀ location, n ≠ .bare location) :
    RecordsFallbacks d config root where
  recorded := by rw [renderText_events, Log.ofEvents_eq_map]
  beginning := by
    cases hresult : (d.rendering config root).result with
    | ok value => exact fallbacks_of_ok hresult ▸ List.prefix_rfl
    | error f =>
      obtain ⟨done, s, h⟩ := FailsAt.of_failed hresult
      rw [h.fallbacks_eq]
      exact d.unregistered_prefix h.entered_prefix
  whole _ hresult := fallbacks_of_ok hresult
  stopped := by
    intro f hf
    obtain ⟨done, s, h⟩ := FailsAt.of_failed hf
    obtain ⟨rest, hschedule⟩ := h.scheduled
    obtain ⟨own, last, -, -, hlast⟩ := h.performed
    cases hlast with
    | tooDeep => exact .inl ⟨_, _, _, h⟩
    | unwritable => exact .inr (.inr ⟨_, _, h⟩)
    | reject => exact .inr (.inl ⟨_, _, _, h⟩)
    | @refuse location =>
      have hs : .refuse location ∈ schedule 0 root := by simp [hschedule]
      exact absurd rfl (hknown _ (bare_of_refuse hs) _)
  tooDeep := by
    intro done depth n f h
    obtain ⟨after, hlevels⟩ := h.levels_eq
    obtain ⟨own, last, -, -, hlast⟩ := h.performed
    cases hlast with
    | tooDeep hdepth => exact ⟨rfl, hdepth, _, after, hlevels, rfl, h.fallbacks_eq⟩
  raised := by
    intro done depth c f h
    obtain ⟨after, hlevels⟩ := h.levels_eq
    obtain ⟨first, hfirst, hentered⟩ := h.entered_invoke
    obtain ⟨own, last, -, -, hlast⟩ := h.performed
    cases hlast with
    | reject hinvoked =>
      refine ⟨hinvoked.not_tooDeep ?_, ?_, first, _, after, hfirst, rfl, ?_, ?_⟩
      · exact Dialect.forall_rendererFor
          (fun e he => Renderer.rejects_of_isBuiltIn (hregistered e he))
          (fun head => Renderer.rejects_of_isBuiltIn (hfallback head))
      · cases hinvoked
        rfl
      · rw [← hentered]
        exact hlevels
      · rw [h.fallbacks_eq, hentered, List.map_append, Tree.map_snd_levels]
  unwritable := by
    intro done value f h
    obtain ⟨own, last, -, -, hlast⟩ := h.performed
    cases hlast with
    | unwritable => exact ⟨⟨_, rfl⟩, h.fallbacks_eq⟩

/-- A dialect that knows a void element only. -/
def breaks : Dialect := { Dialect.trial with operators := ⟨Table.ofList [("br", .leaf "br" true)]⟩ }

/-- The void element with content, between calls of unknown heads. -/
def filledBreak : Tree :=
  .call "card" [.call "badge" [.call "note" [] [] none] [] none, .call "br" [.call "tag" [] [] none] [] none]
    [("id", .call "tail" [] [] none)] none

theorem rendering_fallbacks_filledBreak :
    (∀ e ∈ breaks.operators.renderers.entries, e.2.isBuiltIn = true) ∧
      (∀ config head, (breaks.fallback head config).isBuiltIn = true) ∧
      (∀ n ∈ filledBreak.preorder, ∀ location, n ≠ .bare location) ∧
      breaks.unregistered filledBreak.preorder = ["card", "badge", "note", "tag", "tail"] ∧
      (∃ done depth c f, FailsAt breaks Config.default filledBreak done (.invoke depth c) f) ∧
      fallbacks (breaks.rendering Config.default filledBreak).events =
        ["card", "badge", "note", "tag"] ∧
      (∃ done depth n f,
        FailsAt breaks (Config.atMost 1 (by decide)) filledBreak done (.enter depth n) f) ∧
      fallbacks (breaks.rendering (Config.atMost 1 (by decide)) filledBreak).events =
        ["card", "badge"] := by
  have hregistered : ∀ e ∈ breaks.operators.renderers.entries, e.2.isBuiltIn = true := by
    intro e he
    obtain rfl : e = ("br", .leaf "br" true) := by simpa using Table.mem_ofList he
    rfl
  have hknown : ∀ n ∈ filledBreak.preorder, ∀ location, n ≠ .bare location := by
    simp [filledBreak, Tree.preorder, Tree.preorderArgs, Tree.preorderNamed]
  have hrecords : ∀ config, RecordsFallbacks breaks config filledBreak :=
    fun config => rendering_fallbacks hregistered (fun _ => rfl) hknown
  have hrejected : (breaks.rendering Config.default filledBreak).result =
      .error (.error ⟨.structural "br" .voidElement, none⟩) := rfl
  have hdeep : (breaks.rendering (Config.atMost 1 (by decide)) filledBreak).result =
      .error (.malformed (.depthExceeded (.int 1)) none) := rfl
  have hstructural : ¬TooDeep Config.default (.error ⟨.structural "br" .voidElement, none⟩) := by
    rintro ⟨location, hdepth⟩
    cases hdepth
  have hfault : ∀ b, Failure.error ⟨.structural "br" .voidElement, none⟩ ≠ .fault b := by
    intro b hb
    cases hb
  obtain ⟨done, depth, c, hcall⟩ := (hrecords _).failsAt_invoke hrejected hstructural hfault
  obtain ⟨done', depth', n, hnode⟩ := (hrecords _).failsAt_enter hdeep ⟨none, rfl⟩
  exact ⟨hregistered, fun _ _ => rfl, hknown, by decide +kernel, ⟨done, depth, c, _, hcall⟩,
    by decide +kernel, ⟨done', depth', n, _, hnode⟩, by decide +kernel⟩

end Interpret

end ExprMarkup
