import Mathlib.Data.List.Forall2
import Mathlib.Data.Nat.Find
import Mathlib.Logic.ExistsUnique
import ExprMarkup.Config.Session
import ExprMarkup.Typesetter

namespace ExprMarkup.Config

/-- What can happen in a program. -/
inductive Mark (α : Type)
  /-- The configuration in force is used. -/
  | used (action : Option Config → α)
  /-- A configuration is put in force. -/
  | put (config : Option Config)
  /-- A block with a configuration of its own begins. -/
  | entered (config : Option Config)
  /-- The block that began last ends. -/
  | left

/-- What has happened in order, and whether an exception is under way. -/
structure History (α : Type) where
  marks : List (Mark α)
  raised : Bool

mutual

/-- What happens when a step is done. A thread is a block of its own, with the default. -/
def Step.history {α : Type} : Step α → History α
  | .use action => ⟨[.used action], false⟩
  | .set config => ⟨[.put config], false⟩
  | .reset => ⟨[.put (some default)], false⟩
  | .raise => ⟨[], true⟩
  | .block config body => ⟨.entered config :: (historyOf body).marks ++ [.left], (historyOf body).raised⟩
  | .attempt body => ⟨(historyOf body).marks, false⟩
  | .thread body => ⟨.entered (some default) :: (historyOf body).marks ++ [.left], false⟩

def historyOf {α : Type} : List (Step α) → History α
  | [] => ⟨[], false⟩
  | step :: rest =>
    if step.history.raised then step.history
    else ⟨step.history.marks ++ (historyOf rest).marks, (historyOf rest).raised⟩

end

/-- The configuration that a mark gives. -/
def Mark.config? {α : Type} : Mark α → Option (Option Config)
  | .used _ => none
  | .put config => some config
  | .entered config => some config
  | .left => none

variable {α : Type}

/-- The configuration that is given at a place, if there is one. -/
def given (marks : List (Mark α)) (place : Nat) : Option (Option Config) :=
  marks[place]?.bind Mark.config?

/-- Each block that begins ends, and no other ends. -/
inductive Whole : List (Mark α) → Prop
  | nil : Whole []
  | used {action : Option Config → α} {rest : List (Mark α)} (h : Whole rest) : Whole (.used action :: rest)
  | put {config : Option Config} {rest : List (Mark α)} (h : Whole rest) : Whole (.put config :: rest)
  | block {config : Option Config} {inner rest : List (Mark α)} (hinner : Whole inner) (h : Whole rest) :
      Whole (.entered config :: inner ++ .left :: rest)

/-- What happened at a place belongs to a block that has ended. A block begins with its own mark. -/
def InEnded (marks : List (Mark α)) (place : Nat) : Prop :=
  ∃ before config inner after, marks = before ++ .entered config :: inner ++ .left :: after ∧
    Whole inner ∧ before.length ≤ place ∧ place ≤ before.length + inner.length

/-- Of the configurations given outside of ended blocks, this one was given last. -/
structure Latest (marks : List (Mark α)) (place : Nat) (config : Option Config) : Prop where
  given_eq : given marks place = some config
  standing : ¬InEnded marks place
  last : ∀ later c, place < later → given marks later = some c → InEnded marks later

/-- The configuration in force after what has happened: the latest that stands, or else that at the
start. -/
def InForce (start : Option Config) (marks : List (Mark α)) (config : Option Config) : Prop :=
  (∃ place, Latest marks place config) ∨
    config = start ∧ ∀ place c, given marks place = some c → InEnded marks place

theorem given_append_left {marks later : List (Mark α)} {place : Nat} (h : place < marks.length) :
    given (marks ++ later) place = given marks place := by
  rw [given, given, List.getElem?_append_left h]

theorem lt_of_given {marks : List (Mark α)} {place : Nat} {c : Option Config}
    (h : given marks place = some c) : place < marks.length := by
  obtain ⟨m, hm, -⟩ := Option.bind_eq_some_iff.mp h
  exact (List.getElem?_eq_some_iff.mp hm).1

namespace Whole

theorem append {marks later : List (Mark α)} (h : Whole marks) (hlater : Whole later) :
    Whole (marks ++ later) := by
  induction h with
  | nil => exact hlater
  | used _ ih => exact .used ih
  | put _ ih => exact .put ih
  | @block config inner rest hinner _ _ ih =>
    rw [List.append_assoc]
    exact .block hinner ih

theorem single_block {inner : List (Mark α)} (config : Option Config) (h : Whole inner) :
    Whole (.entered config :: inner ++ [.left]) := .block h .nil

end Whole

mutual

theorem Step.whole_history (step : Step α) : Whole step.history.marks := by
  cases step with
  | use action => exact .used .nil
  | set config => exact .put .nil
  | reset => exact .put .nil
  | raise => exact .nil
  | block config body => exact .single_block config (whole_historyOf body)
  | attempt body => exact whole_historyOf body
  | thread body => exact .single_block _ (whole_historyOf body)

theorem whole_historyOf (steps : List (Step α)) : Whole (historyOf steps).marks := by
  cases steps with
  | nil => exact .nil
  | cons step rest =>
    rw [historyOf]
    split
    · exact step.whole_history
    · exact step.whole_history.append (whole_historyOf rest)

end

/-- How many more blocks begin than end. -/
def height : List (Mark α) → Int
  | [] => 0
  | .used _ :: rest => height rest
  | .put _ :: rest => height rest
  | .entered _ :: rest => height rest + 1
  | .left :: rest => height rest - 1

theorem height_append (marks later : List (Mark α)) :
    height (marks ++ later) = height marks + height later := by
  induction marks with
  | nil => simp [height]
  | cons m rest ih => cases m <;> simp only [List.cons_append, height, ih] <;> omega

namespace Whole

theorem height_eq_zero {marks : List (Mark α)} (h : Whole marks) : height marks = 0 := by
  induction h with
  | nil => rfl
  | used _ ih => exact ih
  | put _ ih => exact ih
  | block _ _ ihinner ih => simp only [List.cons_append, height, height_append, ihinner, ih]; omega

/-- On the way no block ends that has not begun. -/
theorem height_nonneg {marks first second : List (Mark α)} (h : Whole marks)
    (hsplit : marks = first ++ second) : 0 ≤ height first := by
  induction h generalizing first second with
  | nil =>
    obtain ⟨rfl, -⟩ := List.append_eq_nil_iff.mp hsplit.symm
    exact Int.le_refl 0
  | used _ ih =>
    cases first with
    | nil => exact Int.le_refl 0
    | cons m first =>
      obtain ⟨rfl, hrest⟩ := List.cons.inj hsplit
      exact (ih hrest : 0 ≤ height first)
  | put _ ih =>
    cases first with
    | nil => exact Int.le_refl 0
    | cons m first =>
      obtain ⟨rfl, hrest⟩ := List.cons.inj hsplit
      exact (ih hrest : 0 ≤ height first)
  | @block config inner rest hinner _ ihinner ih =>
    cases first with
    | nil => exact Int.le_refl 0
    | cons m first =>
      obtain ⟨rfl, hrest⟩ := List.cons.inj hsplit
      rcases List.append_eq_append_iff.mp hrest with ⟨more, rfl, hmore⟩ | ⟨more, hmore, -⟩
      · cases more with
        | nil =>
          rw [List.append_nil, height, hinner.height_eq_zero]
          omega
        | cons m more =>
          obtain ⟨rfl, hlater⟩ := List.cons.inj hmore
          have hnonneg := ih hlater
          rw [height, height_append, height, hinner.height_eq_zero]
          omega
      · have hnonneg := ihinner hmore
        rw [height]
        omega

/-- A whole block that begins in the first part does not end among whole blocks in the second. -/
theorem not_split {before inner marks more after : List (Mark α)} {config : Option Config}
    (hinner : Whole inner) (hlater : Whole (more ++ .left :: after))
    (hsplit : before ++ .entered config :: inner = marks ++ more) : marks.length ≤ before.length := by
  rcases List.append_eq_append_iff.mp hsplit with ⟨start, rfl, hstart⟩ | ⟨rest, rfl, -⟩
  · cases start with
    | nil => exact Nat.le_of_eq (by rw [List.append_nil])
    | cons m start =>
      exfalso
      rw [List.cons_append] at hstart
      obtain ⟨-, rfl⟩ := List.cons.inj hstart
      have hfirst : 0 ≤ height start := hinner.height_nonneg rfl
      have hzero := hinner.height_eq_zero
      have hmore : 0 ≤ height (more ++ [.left]) := hlater.height_nonneg (List.append_cons _ _ _)
      simp only [height_append, height] at hzero hmore
      omega
  · rw [List.length_append]
    omega

end Whole

namespace InEnded

variable {marks later : List (Mark α)} {place : Nat}

theorem append (h : InEnded marks place) (later : List (Mark α)) : InEnded (marks ++ later) place := by
  obtain ⟨before, config, inner, after, rfl, hinner, hplace⟩ := h
  exact ⟨before, config, inner, after ++ later, by simp, hinner, hplace⟩

/-- Whole blocks that come later end no block that has begun before. -/
theorem of_append (h : InEnded (marks ++ later) place) (hlater : Whole later)
    (hplace : place < marks.length) : InEnded marks place := by
  obtain ⟨before, config, inner, after, hmarks, hinner, hle, hge⟩ := h
  rcases List.append_eq_append_iff.mp hmarks with ⟨more, hfirst, rfl⟩ | ⟨more, hfirst, hsecond⟩
  · have hlong := hinner.not_split hlater hfirst
    omega
  · cases more with
    | nil =>
      rw [List.append_nil] at hfirst
      have hsplit : before ++ .entered config :: inner = marks ++ [] := by rw [hfirst, List.append_nil]
      rw [← List.nil_append later, ← hsecond] at hlater
      have hlong := hinner.not_split hlater hsplit
      omega
    | cons m more =>
      obtain ⟨rfl, -⟩ := List.cons.inj hsecond
      exact ⟨before, config, inner, more, hfirst, hinner, hle, hge⟩

/-- What happens inside a block belongs to it, from its beginning on. -/
theorem of_block {before inner : List (Mark α)} {config : Option Config} {after : List (Mark α)}
    (hinner : Whole inner) (hle : before.length ≤ place) (hge : place ≤ before.length + inner.length) :
    InEnded (before ++ (.entered config :: inner ++ .left :: after)) place :=
  ⟨before, config, inner, after, by simp, hinner, hle, hge⟩

theorem lt_length (h : InEnded marks place) : place + 1 < marks.length := by
  obtain ⟨before, config, inner, after, rfl, -, -, hge⟩ := h
  simp only [List.length_append, List.length_cons]
  omega

end InEnded

namespace InForce

variable {start config : Option Config} {marks later : List (Mark α)}

theorem nil (start : Option Config) : InForce start ([] : List (Mark α)) start :=
  .inr ⟨rfl, fun place _ h => absurd (lt_of_given h) (Nat.not_lt_zero place)⟩

/-- Whole blocks, in which alone something is given, change nothing. -/
theorem append (h : InForce start marks config) (hlater : Whole later)
    (hended : ∀ place c, marks.length ≤ place → given (marks ++ later) place = some c →
      InEnded (marks ++ later) place) : InForce start (marks ++ later) config := by
  have hmark : ∀ place c, (place < marks.length → given marks place = some c → InEnded marks place) →
      given (marks ++ later) place = some c → InEnded (marks ++ later) place := by
    intro place c hbefore hgiven
    rcases Nat.lt_or_ge place marks.length with hlt | hge
    · rw [given_append_left hlt] at hgiven
      exact (hbefore hlt hgiven).append later
    · exact hended place c hge hgiven
  rcases h with ⟨place, h⟩ | ⟨rfl, h⟩
  · have hlt := lt_of_given h.given_eq
    refine .inl ⟨place, (given_append_left hlt).trans h.given_eq, ?_, ?_⟩
    · exact fun hended => h.standing (hended.of_append hlater hlt)
    · exact fun other c hother => hmark other c fun _ hgiven => h.last other c hother hgiven
  · exact .inr ⟨rfl, fun place c => hmark place c fun _ hgiven => h place c hgiven⟩

/-- What is given last is in force. -/
theorem give (start : Option Config) (marks : List (Mark α)) {m : Mark α} (hm : m.config? = some config) :
    InForce start (marks ++ [m]) config := by
  refine .inl ⟨marks.length, ?_, ?_, ?_⟩
  · rw [given, List.getElem?_concat_length, Option.bind_some, hm]
  · intro hended
    have hlt := hended.lt_length
    rw [List.length_append, List.length_singleton] at hlt
    omega
  · intro other c hother hgiven
    have hlt := lt_of_given hgiven
    rw [List.length_append, List.length_singleton] at hlt
    omega

theorem used (h : InForce start marks config) (action : Option Config → α) :
    InForce start (marks ++ [.used action]) config := by
  refine h.append (.used .nil) fun place c hge hgiven => ?_
  have hlt := lt_of_given hgiven
  obtain rfl : place = marks.length := by
    rw [List.length_append, List.length_singleton] at hlt
    omega
  rw [given, List.getElem?_concat_length] at hgiven
  cases hgiven

/-- A block that has ended leaves in force what was in force before. -/
theorem block (h : InForce start marks config) {inner : List (Mark α)} (own : Option Config)
    (hinner : Whole inner) : InForce start (marks ++ (.entered own :: inner ++ [.left])) config := by
  refine h.append (.single_block own hinner) fun place c hge hgiven => ?_
  refine InEnded.of_block hinner hge ?_
  by_contra hlt
  have hlength := lt_of_given hgiven
  obtain rfl : place = marks.length + (inner.length + 1) := by
    simp only [List.length_append, List.length_cons, List.length_nil] at hlength
    omega
  rw [given, List.getElem?_append_right (by omega), Nat.add_sub_cancel_left, List.cons_append,
    List.getElem?_cons_succ, List.getElem?_concat_length] at hgiven
  cases hgiven

theorem unique {config' : Option Config} (h : InForce start marks config)
    (h' : InForce start marks config') : config = config' := by
  rcases h with ⟨place, h⟩ | ⟨rfl, h⟩ <;> rcases h' with ⟨place', h'⟩ | ⟨rfl, h'⟩
  · rcases Nat.lt_trichotomy place place' with hlt | rfl | hlt
    · exact absurd (h.last place' _ hlt h'.given_eq) h'.standing
    · exact Option.some.inj (h.given_eq.symm.trans h'.given_eq)
    · exact absurd (h'.last place _ hlt h.given_eq) h.standing
  · exact absurd (h' _ _ h.given_eq) h.standing
  · exact absurd (h _ _ h'.given_eq) h'.standing
  · rfl

/-- Whatever has happened, some configuration is in force. -/
theorem exists_inForce (start : Option Config) (marks : List (Mark α)) :
    ∃ config, InForce start marks config := by
  classical
  let stands (place : Nat) : Prop := ∃ c, given marks place = some c ∧ ¬InEnded marks place
  by_cases h : ∃ place, stands place
  · obtain ⟨place, hplace⟩ := h
    have hbound : ∀ place, stands place → place ≤ marks.length := by
      rintro place ⟨c, hgiven, -⟩
      exact Nat.le_of_lt (lt_of_given hgiven)
    obtain ⟨config, hgiven, hstands⟩ := Nat.findGreatest_spec (P := stands) (hbound _ hplace) hplace
    refine ⟨config, .inl ⟨_, hgiven, hstands, fun later c hlater hother => ?_⟩⟩
    by_contra hopen
    have hlt := lt_of_given hother
    exact Nat.findGreatest_is_greatest hlater (Nat.le_of_lt hlt) ⟨c, hother, hopen⟩
  · refine ⟨start, .inr ⟨rfl, fun place c hgiven => ?_⟩⟩
    by_contra hopen
    exact h ⟨place, c, hgiven, hopen⟩

end InForce

/-- The uses of the configuration, each with all that has happened before it. -/
def uses (before : List (Mark α)) : List (Mark α) → List (List (Mark α) × (Option Config → α))
  | [] => []
  | .used action :: rest => (before, action) :: uses (before ++ [.used action]) rest
  | .put config :: rest => uses (before ++ [.put config]) rest
  | .entered config :: rest => uses (before ++ [.entered config]) rest
  | .left :: rest => uses (before ++ [.left]) rest

theorem uses_append (before marks later : List (Mark α)) :
    uses before (marks ++ later) = uses before marks ++ uses (before ++ marks) later := by
  induction marks generalizing before with
  | nil => rw [List.nil_append, uses, List.nil_append, List.append_nil]
  | cons m rest ih => cases m <;> simp only [List.cons_append, uses, ih, List.append_assoc, List.nil_append]

/-- The result of a use is that of its action on the configuration in force. -/
def Results (start : Option Config) (use : List (Mark α) × (Option Config → α)) (result : α) : Prop :=
  ∃ config, InForce start use.1 config ∧ result = use.2 config

/-- A run has this history after some other one, and sees at each use what is in force then. -/
structure Sees (start : Option Config) (before : List (Mark α)) (history : History α)
    (outcome : Outcome α) : Prop where
  raised : outcome.raised = history.raised
  current : InForce start (before ++ history.marks) outcome.current
  results : List.Forall₂ (Results start) (uses before history.marks) outcome.results

/-- A block sees what its body sees after the block has begun. -/
theorem Sees.block {start current own : Option Config} {before : List (Mark α)} {inner : History α}
    {outcome : Outcome α} (hwhole : Whole inner.marks) (hbefore : InForce start before current)
    (h : Sees start (before ++ [.entered own]) inner outcome) (raised : Bool) :
    Sees start before ⟨.entered own :: inner.marks ++ [.left], raised⟩
      ⟨current, outcome.results, raised⟩ where
  raised := rfl
  current := hbefore.block own hwhole
  results := by
    have huses : uses before (.entered own :: inner.marks ++ [.left]) =
        uses (before ++ [.entered own]) inner.marks := by
      rw [List.cons_append, uses, uses_append, uses, uses, List.append_nil]
    rw [huses]
    exact h.results

mutual

theorem Step.run_sees {start current : Option Config} {before : List (Mark α)}
    (h : InForce start before current) (step : Step α) :
    Sees start before step.history (step.run current) := by
  cases step with
  | use action => exact ⟨rfl, h.used action, .cons ⟨current, h, rfl⟩ .nil⟩
  | set config => exact ⟨rfl, .give start before rfl, .nil⟩
  | reset => exact ⟨rfl, .give start before rfl, .nil⟩
  | raise => exact ⟨rfl, by simpa [Step.history, Step.run] using h, .nil⟩
  | block config body =>
    have hbody := runSteps_sees (.give start before (m := .entered config) rfl) body
    rw [Step.history, ← hbody.raised]
    exact .block (whole_historyOf body) h hbody _
  | attempt body =>
    have hbody := runSteps_sees h body
    exact ⟨rfl, hbody.current, hbody.results⟩
  | thread body =>
    have hbody := runSteps_sees (.give start before (m := .entered (some default)) rfl) body
    exact .block (whole_historyOf body) h hbody false

theorem runSteps_sees {start current : Option Config} {before : List (Mark α)}
    (h : InForce start before current) (steps : List (Step α)) :
    Sees start before (historyOf steps) (runSteps current steps) := by
  cases steps with
  | nil => exact ⟨rfl, by simpa [historyOf, runSteps] using h, .nil⟩
  | cons step rest =>
    have hfirst := step.run_sees h
    have hrest := runSteps_sees hfirst.current rest
    rw [historyOf, runSteps, hfirst.raised]
    cases hraised : step.history.raised with
    | true =>
      rw [if_pos rfl, if_pos rfl]
      exact hfirst
    | false =>
      rw [if_neg Bool.false_ne_true, if_neg Bool.false_ne_true]
      refine ⟨hrest.raised, ?_, ?_⟩
      · rw [← List.append_assoc]
        exact hrest.current
      · rw [uses_append]
        exact List.rel_append hfirst.results hrest.results

end

/-- At every point of a program the configuration is in force that was given last outside of all blocks
that have ended, or else that at the start, which is the default where nothing has happened before. And a
block leaves in force what was in force before it, whatever it does and however it ends. A rendering
without a configuration of its own captures its expression and renders it with the one in force, and one
that has its own does so with that. -/
theorem runSteps_inForce (start : Option Config) (steps : List (Step α)) :
    (∀ marks : List (Mark α), ∃! config, InForce start marks config) ∧
      Whole (historyOf steps).marks ∧ (runSteps start steps).raised = (historyOf steps).raised ∧
      InForce start (historyOf steps).marks (runSteps start steps).current ∧
      List.Forall₂ (Results start) (uses [] (historyOf steps).marks) (runSteps start steps).results ∧
      (∀ before own (body : List (Step α)) config, InForce start before config →
        ((Step.block own body).run config).current = config ∧
        InForce start (before ++ (Step.block own body).history.marks) config) ∧
      ∀ dialect config host file e,
        let rendering : Run String := do
          let root ← Run.ofExcept (Expression.capture host file e)
          Interpret.renderText (dialect.getD Dialect.html) config root
        Typesetter.render ⟨dialect, none⟩ host (some config) file e = rendering ∧
          ∀ current, Typesetter.render ⟨dialect, some config⟩ host current file e = rendering := by
  have hsees := runSteps_sees (InForce.nil start) steps
  refine ⟨?_, whole_historyOf steps, hsees.raised, hsees.current, hsees.results, ?_, ?_⟩
  · intro marks
    obtain ⟨config, h⟩ := InForce.exists_inForce start marks
    exact ⟨config, h, fun other hother => hother.unique h⟩
  · intro before own body config h
    exact ⟨rfl, h.block own (whole_historyOf body)⟩
  · intro dialect config host file e
    exact ⟨rfl, fun _ => rfl⟩

/-- The default, but for what is written between arguments. -/
def separatedBy (separator : String) : Config := { default with separator := .text separator }

def colons : Config := separatedBy ": "

def semicolons : Config := separatedBy "; "

def bars : Config := separatedBy " | "

/-- An unknown function of two arguments. -/
def pair : Expression := .tree (.call "f" [.symbol "x" none, .symbol "y" none] [] none)

/-- Renders the pair, with a configuration of its own or with the one in force. -/
def rendered (own current : Option Config) : Except Failure String :=
  (Typesetter.render ⟨some Dialect.latex, own⟩ .ample current none pair).result

/-- An exception leaves two blocks, in the outer of which the configuration is reset, and is caught where
another one has been set. -/
def unwound : List (Step (Except Failure String)) :=
  [.use (rendered none), .set (some bars),
    .attempt [.block (some semicolons) [.use (rendered none), .reset,
      .block (some bars) [.use (rendered (some colons)), .raise], .use (rendered none)]],
    .use (rendered none), .block none [.set (some semicolons)], .use (rendered none)]

theorem runSteps_inForce_unwound :
    let texts : List (Except Failure String) := [.ok r"\mathrm{f}(x, y)", .ok r"\mathrm{f}(x; y)",
      .ok r"\mathrm{f}(x: y)", .ok r"\mathrm{f}(x | y)", .ok r"\mathrm{f}(x | y)"]
    (runSteps (some default) unwound).results = texts ∧
      (uses [] (historyOf unwound).marks).length = 5 ∧
      List.Forall₂ (Results (some default)) (uses [] (historyOf unwound).marks) texts ∧
      (historyOf unwound).raised = false ∧
      InForce (some default) (historyOf unwound).marks (some bars) ∧
      (Interpret.renderText Dialect.latex bars
        (.call "f" [.symbol "x" none, .symbol "y" none] [] none)).result = .ok r"\mathrm{f}(x | y)" := by
  obtain ⟨-, -, hraised, hcurrent, hresults, -, hrender⟩ := runSteps_inForce (some default) unwound
  have hdefault : rendered none (some default) = .ok r"\mathrm{f}(x, y)" :=
    toOption_eq_some.mp (by decide +kernel)
  have hsemicolons : rendered none (some semicolons) = .ok r"\mathrm{f}(x; y)" :=
    toOption_eq_some.mp (by decide +kernel)
  have hcolons : rendered (some colons) (some bars) = .ok r"\mathrm{f}(x: y)" :=
    toOption_eq_some.mp (by decide +kernel)
  have hbars : rendered none (some bars) = .ok r"\mathrm{f}(x | y)" :=
    toOption_eq_some.mp (by decide +kernel)
  have htexts : (runSteps (some default) unwound).results = [rendered none (some default),
      rendered none (some semicolons), rendered (some colons) (some bars), rendered none (some bars),
      rendered none (some bars)] := rfl
  rw [hdefault, hsemicolons, hcolons, hbars] at htexts
  refine ⟨htexts, rfl, htexts ▸ hresults, hraised.symm, hcurrent, ?_⟩
  rw [← hbars, rendered, (hrender (some Dialect.latex) bars .ample none pair).1]
  rfl

end ExprMarkup.Config
