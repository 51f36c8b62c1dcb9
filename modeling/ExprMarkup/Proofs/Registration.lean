import ExprMarkup.Registry
import ExprMarkup.Proofs.Folding

namespace ExprMarkup

/-- The table has the names of another one and of some later entries, in the order of their first
appearance, each with its last item. -/
structure Table.Collects {α : Type} (t seed : Table α) (later : List (String × α)) : Prop where
  names : t.names = (seed.names ++ later.map Prod.fst).eraseDups
  find : ∀ name, t.find? name = (later.reverse.lookup name).or (seed.find? name)

/-- Puts entries one after the other. -/
def Table.putAll {α : Type} (t : Table α) (later : List (String × α)) : Table α :=
  later.foldl (fun t e => t.put e.1 e.2) t

theorem Table.putAll_append {α : Type} (t : Table α) (first later : List (String × α)) :
    t.putAll (first ++ later) = (t.putAll first).putAll later :=
  List.foldl_append

theorem Table.collects_putAll {α : Type} (seed : Table α) (later : List (String × α)) :
    (seed.putAll later).Collects seed later := by
  have hlist : seed.putAll later = ofList (seed.entries ++ later) := by
    rw [ofList, List.foldl_append]
    exact congrArg (fun t => putAll t later) (ofList_eq_mk seed.nodup).symm
  rw [hlist]
  constructor
  · rw [names_ofList, List.map_append]
    rfl
  · intro name
    have hseed := find?_ofList_eq_lookup seed.entries name
    rw [ofList_eq_mk seed.nodup] at hseed
    rw [find?_ofList_eq_lookup, List.reverse_append, List.lookup_append, hseed]

theorem Table.Collects.mem_names_iff {α : Type} {t seed : Table α} {later : List (String × α)}
    (h : t.Collects seed later) (name : String) :
    name ∈ t.names ↔ name ∈ seed.names ++ later.map Prod.fst := by
  rw [h.names, List.mem_eraseDups]

namespace Registry

/-- One registration: a name, a renderer if it is one, and whether it may replace another. -/
structure Registration where
  name : Value
  renderer : Option Renderer
  replace : Bool

namespace Registration

/-- What is bound to what, if the registration is accepted. -/
def entry? (r : Registration) : Option (String × Renderer) :=
  match r.name, r.renderer with
  | .scalar (.text name), some f => some (name, f)
  | _, _ => none

def bindings (regs : List Registration) : List (String × Renderer) := regs.filterMap entry?

/-- The name is an identifier, the renderer is one, and the name is free or may be replaced. -/
def InOrder (r : Registration) (taken : List String) : Prop :=
  ∃ name f, r.name = .text name ∧ r.renderer = some f ∧ Text.isIdentifier name = true ∧
    (name ∉ taken ∨ r.replace = true)

/-- Each registration is in order when those before it have been accepted. -/
def InTurn : List String → List Registration → Prop
  | _, [] => True
  | taken, r :: rest => r.InOrder taken ∧ InTurn (taken ++ (bindings [r]).map Prod.fst) rest

end Registration

/-- What a caller may ask of a builder. The keys of a mapping are hashable. -/
inductive Call
  | register (name : Value) (renderer : Option Renderer) (replace : Bool)
  | container (name : Value) (tag : Option String) (replace : Bool)
  | leaf (name : Value) (tag : Option String) (selfClosing replace : Bool)
  | operator (name : Value) (template : Template) (replace : Bool)
  | registerAll (items : List (Value × Option Renderer))
  | registerMapping (items : List (Value × Option Renderer))
      (hashable : (items.all fun item => item.1.isHashable) = true)
  | build

namespace Builder

def names (b : Builder) : List String := b.renderers.names

def perform (b : Builder) (r : Registration) : Except Refusal Builder :=
  b.register r.name r.renderer r.replace

/-- A builder keeps what it has if a registration is refused. -/
def orKeep (b : Builder) : Except Refusal Builder → Builder × Option Refusal
  | .ok b' => (b', none)
  | .error why => (b, some why)

/-- Does what a call asks for. -/
def answer (b : Builder) : Call → Builder × Option Refusal
  | .register name renderer replace => b.orKeep (b.register name renderer replace)
  | .container name tag replace => b.orKeep (b.container name tag replace)
  | .leaf name tag selfClosing replace => b.orKeep (b.leaf name tag selfClosing replace)
  | .operator name template replace => b.orKeep (b.operator name template replace)
  | .registerAll items => b.registerAll items
  | .registerMapping items _ => b.registerMapping items
  | .build => (b, none)

/-- Performs registrations up to the first that is refused. -/
def performAll (b : Builder) : List Registration → Builder × Option Refusal
  | [] => (b, none)
  | r :: rest =>
    match b.perform r with
    | .ok b' => b'.performAll rest
    | .error why => (b, some why)

/-- The registrations that are accepted when they are performed up to the first that is refused. -/
def accepted (b : Builder) : List Registration → List Registration
  | [] => []
  | r :: rest =>
    match b.perform r with
    | .ok b' => r :: b'.accepted rest
    | .error _ => []

end Builder

namespace Call

/-- The registrations that a call makes, if none of them is refused. -/
def registrations : Call → List Registration
  | .register name renderer replace => [⟨name, renderer, replace⟩]
  | .container name tag replace => [⟨name, some (.container (Builder.tagFor name tag)), replace⟩]
  | .leaf name tag selfClosing replace =>
    [⟨name, some (.leaf (Builder.tagFor name tag) selfClosing), replace⟩]
  | .operator name template replace => [⟨name, some (.operator name.display template), replace⟩]
  | .registerAll items => items.map fun item => ⟨item.1, item.2, false⟩
  | .registerMapping items _ => (Value.foldPairs items).map fun item => ⟨item.1, item.2, false⟩
  | .build => []

end Call

/-- A builder at work, and the registries that have been built from it. -/
structure Session where
  builder : Builder
  registries : List Registry

namespace Session

def step (s : Session) (c : Call) : Session × Option Refusal :=
  let answered := s.builder.answer c
  let built := match c with
    | .build => [s.builder.build]
    | _ => []
  (⟨answered.1, s.registries ++ built⟩, answered.2)

def run (s : Session) (calls : List Call) : Session := calls.foldl (fun s c => (s.step c).1) s

/-- The registrations of a run that are accepted, in the order of the run. -/
def accepted (s : Session) : List Call → List Registration
  | [] => []
  | c :: rest => s.builder.accepted c.registrations ++ (s.step c).1.accepted rest

/-- A call is refused after some of its registrations are done: these stand at the end, the next one is not
in order, and a call that makes only one changes nothing. -/
structure RefusesAfter (s : Session) (c : Call) (done : List Registration) : Prop where
  offends : ∃ offending rest, c.registrations = done ++ offending :: rest ∧
    ¬offending.InOrder (s.step c).1.builder.names
  entries : (s.step c).1.builder.renderers.entries =
    s.builder.renderers.entries ++ Registration.bindings done
  single : c.registrations.length = 1 → (s.step c).1 = s

/-- What can be said of a session once some calls are answered. -/
structure Accounts (start : Session) (calls : List Call) : Prop where
  /-- The builder binds what it began with and what was accepted. -/
  bound : (start.run calls).builder.renderers.Collects start.builder.renderers
    (Registration.bindings (start.accepted calls))
  /-- Nothing was accepted that was not in order in its turn. -/
  inTurn : Registration.InTurn start.builder.names (start.accepted calls)
  accepts : ∀ r, (∃ b, (start.run calls).builder.perform r = .ok b) ↔
    r.InOrder (start.run calls).builder.names
  succeeds : ∀ c, ((start.run calls).step c).2 = none ↔
    Registration.InTurn (start.run calls).builder.names c.registrations
  success : ∀ c, ((start.run calls).step c).2 = none →
    start.accepted (calls ++ [c]) = start.accepted calls ++ c.registrations
  refusal : ∀ c why, ((start.run calls).step c).2 = some why →
    ∃ done, (start.run calls).RefusesAfter c done ∧
      start.accepted (calls ++ [c]) = start.accepted calls ++ done
  /-- A registry that is built now is the same after all later calls. -/
  built : ∀ later, ∃ registry,
    (start.run (calls ++ .build :: later)).registries[(start.run calls).registries.length]? =
        some registry ∧
      registry.names = (start.run calls).builder.names ∧
      (∀ name, registry.find? name = (start.run calls).builder.renderers.find? name) ∧
      registry.size = (start.run calls).builder.names.length

end Session

namespace Registration

variable {r : Registration} {taken taken' : List String} {regs more : List Registration}

theorem bindings_append (regs more : List Registration) :
    bindings (regs ++ more) = bindings regs ++ bindings more :=
  List.filterMap_append

theorem bindings_cons (r : Registration) (rest : List Registration) :
    bindings (r :: rest) = bindings [r] ++ bindings rest :=
  bindings_append [r] rest

theorem InOrder.congr (h : ∀ name, name ∈ taken ↔ name ∈ taken') :
    r.InOrder taken ↔ r.InOrder taken' := by
  simp only [InOrder, h]

theorem InTurn.congr (h : ∀ name, name ∈ taken ↔ name ∈ taken') :
    InTurn taken regs ↔ InTurn taken' regs := by
  induction regs generalizing taken taken' with
  | nil => rfl
  | cons r rest ih =>
    have hrest : ∀ name, name ∈ taken ++ (bindings [r]).map Prod.fst ↔
        name ∈ taken' ++ (bindings [r]).map Prod.fst := by
      intro name
      rw [List.mem_append, List.mem_append, h]
    rw [InTurn, InTurn, InOrder.congr h, ih hrest]

theorem inTurn_append :
    InTurn taken (regs ++ more) ↔
      InTurn taken regs ∧ InTurn (taken ++ (bindings regs).map Prod.fst) more := by
  induction regs generalizing taken with
  | nil => simp [InTurn, bindings]
  | cons r rest ih =>
    rw [List.cons_append, InTurn, InTurn, ih, and_assoc, bindings_cons r rest, List.map_append,
      List.append_assoc]

end Registration

namespace Builder

variable {b b' : Builder} {r : Registration}

/-- A registration that is in order is put into the table. -/
theorem perform_of_inOrder (h : r.InOrder b.names) :
    ∃ e, r.entry? = some e ∧ b.perform r = .ok ⟨b.renderers.put e.1 e.2⟩ := by
  obtain ⟨v, renderer, replace⟩ := r
  obtain ⟨name, f, rfl, rfl, hident, hfree⟩ := h
  refine ⟨(name, f), rfl, ?_⟩
  have hnot : (b.renderers.contains name && !replace) = false := by
    rw [Bool.and_eq_false_iff, ← Bool.not_eq_true, Table.contains_iff]
    exact hfree.imp_right fun hreplace => congrArg not hreplace
  simp [perform, register, hident, hnot]

theorem inOrder_of_perform (h : b.perform r = .ok b') : r.InOrder b.names := by
  obtain ⟨v, renderer, replace⟩ := r
  simp only [perform, register] at h
  split at h
  · next name =>
    split at h
    · cases h
    · next hident =>
      cases renderer with
      | none => cases h
      | some f =>
        simp only at h
        split at h
        · cases h
        · next hfree =>
          refine ⟨name, f, rfl, rfl, by simpa using hident, ?_⟩
          rw [names, ← Table.contains_iff]
          simpa [Decidable.imp_iff_not_or] using hfree
  · cases h

/-- A registration is accepted exactly if it is in order. -/
theorem perform_ok_iff : (∃ b', b.perform r = .ok b') ↔ r.InOrder b.names := by
  constructor
  · intro h
    obtain ⟨b', hb'⟩ := h
    exact inOrder_of_perform hb'
  · intro h
    obtain ⟨e, -, hput⟩ := perform_of_inOrder h
    exact ⟨_, hput⟩

theorem renderers_of_perform (h : b.perform r = .ok b') :
    b'.renderers = b.renderers.putAll (Registration.bindings [r]) := by
  obtain ⟨e, he, hput⟩ := perform_of_inOrder (inOrder_of_perform h)
  rw [h] at hput
  cases hput
  simp [Registration.bindings, he, Table.putAll]

theorem performAll_renderers (b : Builder) (regs : List Registration) :
    (b.performAll regs).1.renderers =
      b.renderers.putAll (Registration.bindings (b.accepted regs)) := by
  induction regs generalizing b with
  | nil => rfl
  | cons r rest ih =>
    simp only [performAll, accepted]
    cases h : b.perform r with
    | error why => rfl
    | ok b' =>
      simp only [Registration.bindings_cons r (b'.accepted rest), Table.putAll_append]
      rw [ih b', renderers_of_perform h]

theorem accepted_inTurn (b : Builder) (regs : List Registration) :
    Registration.InTurn b.names (b.accepted regs) := by
  induction regs generalizing b with
  | nil => trivial
  | cons r rest ih =>
    rw [accepted]
    cases h : b.perform r with
    | error why => trivial
    | ok b' =>
      have hcollects := Table.collects_putAll b.renderers (Registration.bindings [r])
      rw [← renderers_of_perform h] at hcollects
      exact ⟨inOrder_of_perform h, (Registration.InTurn.congr hcollects.mem_names_iff).mp (ih b')⟩

/-- Either all registrations are accepted, or those are that stand before the first refused one. -/
theorem performAll_outcome (b : Builder) (regs : List Registration) :
    ((b.performAll regs).2 = none ∧ b.accepted regs = regs) ∨
      ∃ why offending rest, (b.performAll regs).2 = some why ∧
        regs = b.accepted regs ++ offending :: rest ∧
        ¬offending.InOrder (b.performAll regs).1.names := by
  induction regs generalizing b with
  | nil => exact .inl ⟨rfl, rfl⟩
  | cons r rest ih =>
    rw [performAll, accepted]
    cases h : b.perform r with
    | error why =>
      refine .inr ⟨why, r, rest, rfl, rfl, ?_⟩
      intro hin
      obtain ⟨e, -, hput⟩ := perform_of_inOrder hin
      rw [h] at hput
      cases hput
    | ok b' =>
      cases ih b' with
      | inl hall => exact .inl ⟨hall.1, congrArg (r :: ·) hall.2⟩
      | inr hsome =>
        obtain ⟨why, offending, later, hwhy, hregs, hnot⟩ := hsome
        exact .inr ⟨why, offending, later, hwhy, congrArg (r :: ·) hregs, hnot⟩

theorem accepted_of_performAll {regs : List Registration} (h : (b.performAll regs).2 = none) :
    b.accepted regs = regs := by
  cases b.performAll_outcome regs with
  | inl hall => exact hall.2
  | inr hsome =>
    obtain ⟨why, offending, rest, hwhy, -⟩ := hsome
    rw [hwhy] at h
    cases h

theorem mem_names_performAll (b : Builder) (regs : List Registration) (name : String) :
    name ∈ (b.performAll regs).1.names ↔
      name ∈ b.names ++ (Registration.bindings (b.accepted regs)).map Prod.fst := by
  rw [names, performAll_renderers]
  exact (Table.collects_putAll b.renderers _).mem_names_iff name

/-- No registration is refused exactly if each is in order in its turn. -/
theorem performAll_succeeds_iff (b : Builder) (regs : List Registration) :
    (b.performAll regs).2 = none ↔ Registration.InTurn b.names regs := by
  have hturn := b.accepted_inTurn regs
  cases b.performAll_outcome regs with
  | inl hall =>
    rw [hall.2] at hturn
    simp only [hall.1, hturn]
  | inr hsome =>
    obtain ⟨why, offending, rest, hwhy, hregs, hnot⟩ := hsome
    have hoffending := b.mem_names_performAll regs
    rw [Registration.InOrder.congr hoffending] at hnot
    rw [hwhy, hregs, Registration.inTurn_append]
    simp only [reduceCtorEq, false_iff, Registration.InTurn]
    exact fun h => hnot h.2.1

theorem orKeep_perform (b : Builder) (r : Registration) : b.orKeep (b.perform r) = b.performAll [r] := by
  simp only [performAll]
  cases b.perform r <;> rfl

theorem registerAll_eq_performAll (b : Builder) (items : List (Value × Option Renderer)) :
    b.registerAll items = b.performAll (items.map fun item => ⟨item.1, item.2, false⟩) := by
  induction items generalizing b with
  | nil => rfl
  | cons item rest ih =>
    obtain ⟨name, renderer⟩ := item
    simp only [registerAll, List.map_cons, performAll, perform]
    cases b.register name renderer with
    | error why => rfl
    | ok b' => exact ih b'

/-- A call performs the registrations that it makes. -/
theorem answer_eq_performAll (b : Builder) (c : Call) : b.answer c = b.performAll c.registrations := by
  cases c with
  | register name renderer replace => exact b.orKeep_perform ⟨name, renderer, replace⟩
  | container name tag replace =>
    exact b.orKeep_perform ⟨name, some (.container (tagFor name tag)), replace⟩
  | leaf name tag selfClosing replace =>
    exact b.orKeep_perform ⟨name, some (.leaf (tagFor name tag) selfClosing), replace⟩
  | operator name template replace =>
    exact b.orKeep_perform ⟨name, some (.operator name.display template), replace⟩
  | registerAll items => exact b.registerAll_eq_performAll items
  | registerMapping items hashable =>
    rw [answer, registerMapping, if_pos hashable]
    exact b.registerAll_eq_performAll (Value.foldPairs items)
  | build => rfl

end Builder

namespace Call

/-- Only a call that makes one registration may replace, so nothing that is accepted before a refusal
takes the place of anything. -/
theorem replace_of_before {c : Call} {done rest : List Registration} {offending : Registration}
    (h : c.registrations = done ++ offending :: rest) : ∀ r ∈ done, r.replace = false := by
  have hone : ∀ only, [only] = done ++ offending :: rest → ∀ r ∈ done, r.replace = false := by
    intro only honly r hr
    cases done with
    | nil => cases hr
    | cons first more => simp at honly
  have hall : ∀ items : List (Value × Option Renderer),
      (items.map fun item => (⟨item.1, item.2, false⟩ : Registration)) = done ++ offending :: rest →
        ∀ r ∈ done, r.replace = false := by
    intro items hitems r hr
    have hmem := List.mem_append_left (offending :: rest) hr
    rw [← hitems, List.mem_map] at hmem
    obtain ⟨item, -, rfl⟩ := hmem
    rfl
  cases c with
  | register name renderer replace => exact hone _ h
  | container name tag replace => exact hone _ h
  | leaf name tag selfClosing replace => exact hone _ h
  | operator name template replace => exact hone _ h
  | registerAll items => exact hall items h
  | registerMapping items hashable => exact hall _ h
  | build => simp [registrations] at h

end Call

namespace Registration

/-- Registrations that may not replace come after everything that is there. -/
theorem entries_putAll_bindings {t : Table Renderer} {regs : List Registration}
    (hturn : InTurn t.names regs) (hnew : ∀ r ∈ regs, r.replace = false) :
    (t.putAll (bindings regs)).entries = t.entries ++ bindings regs := by
  induction regs generalizing t with
  | nil => exact (List.append_nil t.entries).symm
  | cons r rest ih =>
    obtain ⟨⟨name, f, hname, hf, -, hfree⟩, hrest⟩ := hturn
    have hentry : bindings [r] = [(name, f)] := by
      simp [bindings, entry?, hname, hf]
    have hnot : name ∉ t.names := hfree.resolve_right (by simp [hnew r])
    have hput : (t.put name f).entries = t.entries ++ [(name, f)] := Table.putEntry_of_not_mem name f hnot
    have hnames : (t.put name f).names = t.names ++ (bindings [r]).map Prod.fst := by
      rw [Table.names_put, if_neg hnot, hentry]
      rfl
    rw [← hnames] at hrest
    have hlater := ih hrest fun r hr => hnew r (List.mem_cons_of_mem _ hr)
    rw [bindings_cons, hentry, Table.putAll_append, ← List.append_assoc, ← hput]
    exact hlater

end Registration

namespace Session

variable {s : Session} {c : Call}

theorem step_builder (s : Session) (c : Call) :
    (s.step c).1.builder = (s.builder.performAll c.registrations).1 :=
  congrArg Prod.fst (Builder.answer_eq_performAll s.builder c)

theorem step_answer (s : Session) (c : Call) :
    (s.step c).2 = (s.builder.performAll c.registrations).2 :=
  congrArg Prod.snd (Builder.answer_eq_performAll s.builder c)

theorem run_append (s : Session) (calls more : List Call) :
    s.run (calls ++ more) = (s.run calls).run more :=
  List.foldl_append

theorem accepted_append (s : Session) (calls more : List Call) :
    s.accepted (calls ++ more) = s.accepted calls ++ (s.run calls).accepted more := by
  induction calls generalizing s with
  | nil => rfl
  | cons c rest ih =>
    rw [List.cons_append, accepted, accepted, ih, List.append_assoc]
    rfl

theorem run_renderers (s : Session) (calls : List Call) :
    (s.run calls).builder.renderers =
      s.builder.renderers.putAll (Registration.bindings (s.accepted calls)) := by
  induction calls generalizing s with
  | nil => rfl
  | cons c rest ih =>
    have hrun : s.run (c :: rest) = (s.step c).1.run rest := rfl
    rw [hrun, ih, step_builder, Builder.performAll_renderers, accepted, Registration.bindings_append,
      Table.putAll_append]

theorem run_collects (s : Session) (calls : List Call) :
    (s.run calls).builder.renderers.Collects s.builder.renderers
      (Registration.bindings (s.accepted calls)) := by
  rw [run_renderers]
  exact Table.collects_putAll s.builder.renderers _

theorem accepted_inTurn (s : Session) (calls : List Call) :
    Registration.InTurn s.builder.names (s.accepted calls) := by
  induction calls using List.reverseRecOn with
  | nil => trivial
  | append_singleton calls c ih =>
    rw [accepted_append, Registration.inTurn_append]
    have hnext := Builder.accepted_inTurn (s.run calls).builder c.registrations
    have hnames := (run_collects s calls).mem_names_iff
    refine ⟨ih, ?_⟩
    rw [accepted, accepted, List.append_nil]
    exact (Registration.InTurn.congr hnames).mp hnext

theorem registries_prefix_run (s : Session) (calls : List Call) :
    s.registries <+: (s.run calls).registries := by
  induction calls generalizing s with
  | nil => exact List.prefix_rfl
  | cons c rest ih => exact List.IsPrefix.trans (List.prefix_append _ _) (ih (s.step c).1)

theorem step_succeeds_iff (s : Session) (c : Call) :
    (s.step c).2 = none ↔ Registration.InTurn s.builder.names c.registrations := by
  rw [step_answer, Builder.performAll_succeeds_iff]

/-- A call that makes a registration builds nothing. -/
theorem step_registries (s : Session) (h : c.registrations ≠ []) :
    (s.step c).1.registries = s.registries := by
  cases c with
  | build => exact absurd rfl h
  | _ => exact List.append_nil s.registries

theorem step_of_accepted_nil (hc : c.registrations ≠ [])
    (h : s.builder.accepted c.registrations = []) : (s.step c).1 = s := by
  have hrenderers := s.builder.performAll_renderers c.registrations
  rw [h, ← step_builder] at hrenderers
  have hbuilder : (s.step c).1.builder = s.builder := congrArg Builder.mk hrenderers
  calc (s.step c).1 = ⟨(s.step c).1.builder, (s.step c).1.registries⟩ := rfl
    _ = s := by rw [hbuilder, step_registries s hc]

theorem step_refused {why : Refusal} (h : (s.step c).2 = some why) :
    s.RefusesAfter c (s.builder.accepted c.registrations) := by
  rw [step_answer] at h
  cases s.builder.performAll_outcome c.registrations with
  | inl hall =>
    rw [hall.1] at h
    cases h
  | inr hsome =>
    obtain ⟨_, offending, rest, -, hregs, hnot⟩ := hsome
    rw [← step_builder] at hnot
    constructor
    · exact ⟨offending, rest, hregs, hnot⟩
    · rw [step_builder, Builder.performAll_renderers]
      exact Registration.entries_putAll_bindings (s.builder.accepted_inTurn c.registrations)
        (Call.replace_of_before hregs)
    · intro hone
      have hlength := congrArg List.length hregs
      rw [List.length_append, List.length_cons] at hlength
      have hnone : s.builder.accepted c.registrations = [] := List.length_eq_zero_iff.mp (by omega)
      exact step_of_accepted_nil (List.ne_nil_of_length_eq_add_one hone) hnone

/-- A registry that is built stays, whatever comes after it. -/
theorem built_of_run (s : Session) (calls later : List Call) :
    (s.run (calls ++ .build :: later)).registries[(s.run calls).registries.length]? =
      some (s.run calls).builder.build := by
  rw [run_append]
  obtain ⟨rest, hrest⟩ := registries_prefix_run ((s.run calls).step .build).1 later
  have hrun : ((s.run calls).run (.build :: later)).registries =
      (s.run calls).registries ++ [(s.run calls).builder.build] ++ rest := hrest.symm
  rw [hrun, List.append_assoc, List.getElem?_append_right (Nat.le_refl _), Nat.sub_self]
  rfl

end Session

/-- After any calls, some of them refused, a builder that was empty or began with what a registry binds has
that and what its accepted registrations gave it, and each registry has what was bound when it was built. -/
theorem session_binds_accepted (start : Session) (calls : List Call) : start.Accounts calls := by
  have hnext : ∀ c, start.accepted (calls ++ [c]) =
      start.accepted calls ++ (start.run calls).builder.accepted c.registrations := by
    intro c
    rw [Session.accepted_append, Session.accepted, Session.accepted, List.append_nil]
  constructor
  · exact start.run_collects calls
  · exact start.accepted_inTurn calls
  · exact fun r => Builder.perform_ok_iff
  · exact (start.run calls).step_succeeds_iff
  · intro c h
    rw [Session.step_answer] at h
    rw [hnext, Builder.accepted_of_performAll h]
  · intro c why h
    exact ⟨(start.run calls).builder.accepted c.registrations, Session.step_refused h, hnext c⟩
  · intro later
    refine ⟨(start.run calls).builder.build, start.built_of_run calls later, rfl, fun name => rfl, ?_⟩
    exact (List.length_map Prod.fst).symm

/-- A refused, a replacing and a half accepted call, and a registry that is built between them. -/
theorem session_binds_accepted_mixed :
    let start : Session := ⟨.ofRegistry ⟨Table.ofList [("a", .container "a")]⟩, []⟩
    let calls : List Call := [.container (.text "p") none false, .container (.text "p") none false,
      .build, .leaf (.text "a") (some "br") true true,
      .registerAll [(.text "q", some (.container "q")), (.text "p", some (.container "i")),
        (.text "r", some (.container "r"))]]
    (start.run calls).builder.names = ["a", "p", "q"] ∧
      (start.run calls).builder.renderers.find? "a" = some (.leaf "br" true) ∧
      ¬Registration.InTurn (start.run calls).builder.names
        (Call.container (.text "x y") none true).registrations ∧
      ∃ registry, (start.run calls).registries[0]? = some registry ∧ registry.names = ["a", "p"] ∧
        registry.find? "a" = some (.container "a") := by
  intro start calls
  have hrun := session_binds_accepted start calls
  have hfirst := session_binds_accepted start (calls.take 2)
  obtain ⟨registry, hregistry, hnames, hfind, -⟩ := hfirst.built (calls.drop 3)
  refine ⟨hrun.bound.names.trans (by decide +kernel), ?_, ?_, registry, hregistry, ?_, ?_⟩
  · rw [hrun.bound.find]
    rfl
  · rw [← hrun.succeeds]
    decide +kernel
  · rw [hnames]
    decide +kernel
  · rw [hfind]
    rfl

end Registry

end ExprMarkup
