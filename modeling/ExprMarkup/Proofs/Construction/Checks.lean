import Mathlib.Data.Set.List
import ExprMarkup.Proofs.Capture.Acceptance

namespace ExprMarkup

open Source (IsName)

/-- The values of literals: a scalar, or a flat sequence of scalars. -/
def Value.IsLiteral : Value → Prop
  | .scalar _ => True
  | .tuple items => ∀ v ∈ items, ∃ s, v = .scalar s
  | _ => False

namespace Tree

variable {α β : Type} {location : Option Location}

/-- A check of some condition: what passes has a result, and what does not is malformed, or spoiled, in
that the message that refuses it would have to show a number that cannot be shown. -/
structure Decides (location : Option Location) (condition spoiled : Prop) (result : α → Prop)
    (check : Except Failure α) : Prop where
  made : condition → ∃ a, check = .ok a ∧ result a
  refused : ¬condition → ¬spoiled → ∃ why, check = .error (.malformed why location)
  broken : spoiled → check = .error (.fault .digitLimit)

variable {condition spoiled : Prop} {result : α → Prop} {check : Except Failure α}

theorem Decides.accept {a : α} (h : condition) (hspoiled : ¬spoiled) (ha : result a) :
    Decides location condition spoiled result (.ok a) :=
  ⟨fun _ => ⟨a, rfl, ha⟩, fun hnot => absurd h hnot, fun hyes => absurd hyes hspoiled⟩

theorem Decides.reject {why : Malformation} (h : ¬condition) (hspoiled : ¬spoiled) :
    Decides location condition spoiled result (.error (.malformed why location)) :=
  ⟨fun hyes => absurd hyes h, fun _ _ => ⟨why, rfl⟩, fun hyes => absurd hyes hspoiled⟩

theorem Decides.break (h : ¬condition) (hspoiled : spoiled) :
    Decides location condition spoiled result (.error (.fault .digitLimit)) :=
  ⟨fun hyes => absurd hyes h, fun _ hnot => absurd hspoiled hnot, fun _ => rfl⟩

/-- Two checks one after the other check both conditions. The second can only be spoiled where the first
is passed. -/
theorem Decides.bind {second spoiled' : Prop} {result' : β → Prop} {next : α → Except Failure β}
    (h : Decides location condition spoiled result check)
    (hnext : ∀ a, condition → result a → Decides location second spoiled' result' (next a)) :
    Decides location (condition ∧ second) (spoiled ∨ condition ∧ spoiled') result' (check >>= next) where
  made := by
    rintro ⟨hfirst, hsecond⟩
    obtain ⟨a, rfl, ha⟩ := h.made hfirst
    exact (hnext a hfirst ha).made hsecond
  refused hnot hclear := by
    by_cases hfirst : condition
    · obtain ⟨a, rfl, ha⟩ := h.made hfirst
      exact (hnext a hfirst ha).refused (fun hsecond => hnot ⟨hfirst, hsecond⟩)
        fun hsecond => hclear (.inr ⟨hfirst, hsecond⟩)
    · obtain ⟨why, rfl⟩ := h.refused hfirst fun hspoiled => hclear (.inl hspoiled)
      exact ⟨why, rfl⟩
  broken := by
    rintro (hspoiled | ⟨hfirst, hspoiled⟩)
    · rw [h.broken hspoiled]
      rfl
    · obtain ⟨a, rfl, ha⟩ := h.made hfirst
      exact (hnext a hfirst ha).broken hspoiled

theorem Decides.congr {condition' spoiled' : Prop}
    (h : Decides location condition spoiled result check) (hiff : condition' ↔ condition)
    (hspoiled : spoiled' ↔ spoiled) : Decides location condition' spoiled' result check where
  made hyes := h.made (hiff.mp hyes)
  refused hnot hclear := h.refused (fun hyes => hnot (hiff.mpr hyes)) fun hyes => hclear (hspoiled.mpr hyes)
  broken hyes := h.broken (hspoiled.mp hyes)

theorem Decides.map {result' : β → Prop} {f : α → β}
    (h : Decides location condition spoiled result check) (hf : ∀ a, result a → result' (f a)) :
    Decides location condition spoiled result' (do return f (← check)) :=
  (h.bind fun a _ ha => .accept trivial id (hf a ha)).congr (by rw [and_true]) (by rw [and_false, or_false])

/-- What comes out of a check has passed it. -/
theorem Decides.of_ok {a : α} (h : Decides location condition spoiled result check)
    (hok : check = .ok a) : condition ∧ result a := by
  have hclear : ¬spoiled := fun hspoiled => by cases hok.symm.trans (h.broken hspoiled)
  have hyes : condition := by
    refine Classical.byContradiction fun hnot => ?_
    obtain ⟨why, herror⟩ := h.refused hnot hclear
    cases hok.symm.trans herror
  obtain ⟨a', hok', ha⟩ := h.made hyes
  obtain rfl : a = a' := Except.ok.inj (hok.symm.trans hok')
  exact ⟨hyes, ha⟩

/-- A check fails in two ways only. -/
theorem Decides.of_error {f : Failure} (h : Decides location condition spoiled result check)
    (herror : check = .error f) :
    (∃ why, f = .malformed why location) ∨ spoiled ∧ f = .fault .digitLimit := by
  by_cases hyes : condition
  · obtain ⟨a, hok, -⟩ := h.made hyes
    cases herror.symm.trans hok
  by_cases hspoiled : spoiled
  · exact .inr ⟨hspoiled, Except.error.inj (herror.symm.trans (h.broken hspoiled))⟩
  · obtain ⟨why, hwhy⟩ := h.refused hyes hspoiled
    exact .inl ⟨why, Except.error.inj (herror.symm.trans hwhy)⟩

/-- What is refused as malformed does not pass, and is not spoiled. -/
theorem Decides.malformed_iff (h : Decides location condition spoiled result check) :
    (∃ why, check = .error (.malformed why location)) ↔ ¬condition ∧ ¬spoiled := by
  refine ⟨?_, fun hnot => h.refused hnot.1 hnot.2⟩
  rintro ⟨why, herror⟩
  constructor
  · intro hyes
    obtain ⟨a, hok, -⟩ := h.made hyes
    cases herror.symm.trans hok
  · intro hspoiled
    cases herror.symm.trans (h.broken hspoiled)

theorem Decides.broken_iff (h : Decides location condition spoiled result check) :
    check = .error (.fault .digitLimit) ↔ spoiled := by
  refine ⟨fun herror => ?_, h.broken⟩
  rcases h.of_error herror with ⟨why, hwhy⟩ | ⟨hspoiled, -⟩
  · cases hwhy
  · exact hspoiled

theorem scalars?_eq_some_iff {items : List Value} {ss : List Scalar} :
    scalars? items = some ss ↔ ss.map .scalar = items := by
  induction items generalizing ss with
  | nil => cases ss <;> simp [scalars?]
  | cons v rest ih =>
    cases v with
    | scalar s =>
      cases ss with
      | nil => simp [scalars?]
      | cons first others => simp [scalars?, ih, and_comm, eq_comm (a := s)]
    | _ => cases ss <;> simp [scalars?]

theorem exists_map_eq_iff (f : α → β) (items : List β) :
    (∃ xs : List α, xs.map f = items) ↔ ∀ b ∈ items, ∃ a, b = f a :=
  (Set.ext_iff.mp (Set.range_list_map f) items).trans (by simp [eq_comm])

theorem newLiteral_decides (value : Value) (location : Option Location) :
    Decides location value.IsLiteral False
      (fun t => ∃ l : Literal, value = l.toValue ∧ t = .literal l location)
      (newLiteral value location) := by
  cases value with
  | scalar s => exact .accept trivial id ⟨.scalar s, rfl, rfl⟩
  | tuple items =>
    have hflat : (∀ v ∈ items, ∃ s, v = .scalar s) ↔ ∃ ss, scalars? items = some ss := by
      simp only [scalars?_eq_some_iff, exists_map_eq_iff]
    simp only [newLiteral]
    cases hss : scalars? items with
    | some ss =>
      exact .accept (hflat.mpr ⟨ss, hss⟩) id
        ⟨.sequence ss, congrArg Value.tuple (scalars?_eq_some_iff.mp hss).symm, rfl⟩
    | none =>
      refine .reject (fun hall => ?_) id
      obtain ⟨ss, hsome⟩ := hflat.mp hall
      cases hsome.symm.trans hss
  | _ => exact .reject id id

theorem identifier_refused {role : NameRole} {name : Value} {location : Option Location}
    (h : ¬IsName name) :
    identifier role name location =
      if name.isShowable then .error (.malformed (.notIdentifier role name) location)
      else .error (.fault .digitLimit) := by
  cases name with
  | scalar s =>
    cases s with
    | text s =>
      have hs : Text.isIdentifier s = false := by
        rw [Bool.eq_false_iff]
        exact fun hs => h ⟨s, rfl, hs⟩
      simp [identifier, hs]
    | _ => rfl
  | _ => rfl

theorem identifier_decides (role : NameRole) (name : Value) (location : Option Location) :
    Decides location (IsName name) (name.isShowable = false)
      (fun s => name = .text s ∧ Text.isIdentifier s = true) (identifier role name location) := by
  by_cases hname : IsName name
  · obtain ⟨s, rfl, hs⟩ := hname
    rw [identifier_text hs]
    exact .accept ⟨s, rfl, hs⟩ (by simp [Value.isShowable, Scalar.isShowable]) ⟨rfl, hs⟩
  · rw [identifier_refused hname]
    cases hshowable : name.isShowable with
    | true => exact .reject hname (by simp)
    | false => exact .break hname rfl

theorem newSymbol_decides (name : Value) (location : Option Location) :
    Decides location (IsName name) (name.isShowable = false)
      (fun t => ∃ s, name = .text s ∧ Text.isIdentifier s = true ∧ t = .symbol s location)
      (newSymbol name location) :=
  (identifier_decides .symbolName name location).map fun s hs => ⟨s, hs.1, hs.2, rfl⟩

theorem checkArgs_decides (head : String) (args : List Argument) (location : Option Location) :
    Decides location (∀ a ∈ args, ∃ t, a = .node t) False (fun ts => args = ts.map .node)
      (checkArgs location head args) := by
  induction args with
  | nil => exact .accept (by simp) id rfl
  | cons a rest ih =>
    cases a with
    | node t =>
      refine (ih.map (f := (t :: ·)) ?_).congr (by simp) Iff.rfl
      rintro ts rfl
      rfl
    | other v =>
      refine .reject (fun hall => ?_) id
      obtain ⟨t, ht⟩ := hall (.other v) (by simp)
      cases ht

/-- Named arguments that a call may have after others under the given names. -/
structure Namable (seen : List String) (named : List (Value × Argument)) : Prop where
  names : ∀ e ∈ named, IsName e.1
  nodes : ∀ e ∈ named, ∃ t, e.2 = .node t
  distinct : (named.map Prod.fst).Nodup
  fresh : ∀ key ∈ seen, .text key ∉ named.map Prod.fst

theorem namable_nil (seen : List String) : Namable seen [] := ⟨by simp, by simp, by simp, by simp⟩

theorem namable_cons_iff {seen : List String} {key : String} {value : Argument}
    {rest : List (Value × Argument)} (hkey : Text.isIdentifier key = true) :
    Namable seen ((.text key, value) :: rest) ↔
      key ∉ seen ∧ (∃ t, value = .node t) ∧ Namable (key :: seen) rest := by
  constructor
  · rintro ⟨hnames, hnodes, hdistinct, hfresh⟩
    simp only [List.map_cons, List.nodup_cons] at hdistinct
    refine ⟨fun hmem => hfresh key hmem (by simp), hnodes (.text key, value) (by simp), ?_, ?_, ?_, ?_⟩
    · exact fun e he => hnames e (by simp [he])
    · exact fun e he => hnodes e (by simp [he])
    · exact hdistinct.2
    · rintro k (_ | ⟨_, hk⟩)
      · exact hdistinct.1
      · exact fun hmem => hfresh k hk (List.mem_cons_of_mem _ hmem)
  · rintro ⟨hnew, hnode, hnames, hnodes, hdistinct, hfresh⟩
    refine ⟨List.forall_mem_cons.mpr ⟨⟨key, rfl, hkey⟩, hnames⟩,
      List.forall_mem_cons.mpr ⟨hnode, hnodes⟩, ?_, ?_⟩
    · exact List.nodup_cons.mpr ⟨hfresh key (by simp), hdistinct⟩
    · intro k hk hmem
      rcases List.mem_cons.mp hmem with heq | hmem
      · have hsame : k = key := by simpa using heq
        exact hnew (hsame ▸ hk)
      · exact hfresh k (by simp [hk]) hmem

/-- After named arguments that are in order comes one whose name cannot be shown. -/
def NameSpoiled (seen : List String) (named : List (Value × Argument)) : Prop :=
  ∃ before e after, named = before ++ e :: after ∧ Namable seen before ∧ e.1.isShowable = false

theorem nameSpoiled_cons_iff {seen : List String} {key : String} {value : Argument}
    {rest : List (Value × Argument)} (hkey : Text.isIdentifier key = true) :
    NameSpoiled seen ((.text key, value) :: rest) ↔
      key ∉ seen ∧ (∃ t, value = .node t) ∧ NameSpoiled (key :: seen) rest := by
  constructor
  · rintro ⟨before, e, after, hlist, hbefore, hspoiled⟩
    cases before with
    | nil =>
      obtain ⟨rfl, rfl⟩ := List.cons.inj hlist
      cases hspoiled
    | cons first more =>
      obtain ⟨rfl, rfl⟩ := List.cons.inj hlist
      obtain ⟨hnew, hnode, hmore⟩ := (namable_cons_iff hkey).mp hbefore
      exact ⟨hnew, hnode, more, e, after, rfl, hmore, hspoiled⟩
  · rintro ⟨hnew, hnode, before, e, after, rfl, hbefore, hspoiled⟩
    exact ⟨(.text key, value) :: before, e, after, rfl,
      (namable_cons_iff hkey).mpr ⟨hnew, hnode, hbefore⟩, hspoiled⟩

theorem NameSpoiled.of_not_isName {seen : List String} {name : Value} {value : Argument}
    {rest : List (Value × Argument)} (h : NameSpoiled seen ((name, value) :: rest))
    (hname : ¬IsName name) : name.isShowable = false := by
  obtain ⟨before, e, after, hlist, hbefore, hspoiled⟩ := h
  cases before with
  | nil =>
    obtain ⟨rfl, rfl⟩ := List.cons.inj hlist
    exact hspoiled
  | cons first more =>
    obtain ⟨rfl, rfl⟩ := List.cons.inj hlist
    exact absurd (hbefore.names _ List.mem_cons_self) hname

theorem checkNamed_decides (named : List (Value × Argument)) (seen : List String)
    (location : Option Location) :
    Decides location (Namable seen named) (NameSpoiled seen named)
      (fun es => named = es.map (fun e => (.text e.1, .node e.2)) ∧
        ∀ e ∈ es, Text.isIdentifier e.1 = true)
      (checkNamed location seen named) := by
  induction named generalizing seen with
  | nil =>
    refine .accept (namable_nil seen) ?_ ⟨rfl, by simp⟩
    rintro ⟨before, e, after, hlist, -⟩
    simp at hlist
  | cons e rest ih =>
    obtain ⟨name, value⟩ := e
    have hname : Namable seen ((name, value) :: rest) ↔
        IsName name ∧ Namable seen ((name, value) :: rest) :=
      ⟨fun h => ⟨h.names (name, value) (by simp), h⟩, And.right⟩
    have hspoiled : NameSpoiled seen ((name, value) :: rest) ↔
        name.isShowable = false ∨ IsName name ∧ NameSpoiled seen ((name, value) :: rest) := by
      refine ⟨fun h => ?_, ?_⟩
      · by_cases hisName : IsName name
        · exact .inr ⟨hisName, h⟩
        · exact .inl (h.of_not_isName hisName)
      · rintro (hname | ⟨-, h⟩)
        · exact ⟨[], (name, value), rest, rfl, namable_nil seen, hname⟩
        · exact h
    rw [checkNamed]
    refine ((identifier_decides .namedArgument name location).bind ?_).congr hname hspoiled
    rintro key - ⟨rfl, hkey⟩
    refine Decides.congr ?_ (namable_cons_iff hkey) (nameSpoiled_cons_iff hkey)
    by_cases hseen : key ∈ seen
    · have hcontains : seen.contains key = true := by simpa using hseen
      simp only [hcontains, if_true]
      exact .reject (fun h => h.1 hseen) fun h => h.1 hseen
    · have hcontains : seen.contains key = false := by simpa using hseen
      simp only [hcontains, Bool.false_eq_true, if_false]
      cases value with
      | other v =>
        have hnode : ¬∃ t, Argument.other v = .node t := by
          rintro ⟨t, ht⟩
          cases ht
        exact .reject (fun h => hnode h.2.1) fun h => hnode h.2.1
      | node t =>
        refine ((ih (key :: seen)).map (f := ((key, t) :: ·)) ?_).congr (by simp [hseen]) (by simp [hseen])
        rintro es ⟨rfl, hes⟩
        exact ⟨rfl, List.forall_mem_cons.mpr ⟨hkey, hes⟩⟩

/-- What a call may be made of. -/
structure Callable (head : Value) (args : List Argument) (named : List (Value × Argument)) : Prop where
  head : IsName head
  args : ∀ a ∈ args, ∃ t, a = .node t
  names : ∀ e ∈ named, IsName e.1
  nodes : ∀ e ∈ named, ∃ t, e.2 = .node t
  distinct : (named.map Prod.fst).Nodup

theorem callable_iff {head : Value} {args : List Argument} {named : List (Value × Argument)} :
    Callable head args named ↔
      IsName head ∧ Namable [] named ∧ ∀ a ∈ args, ∃ t, a = .node t :=
  ⟨fun h => ⟨h.head, ⟨h.names, h.nodes, h.distinct, by simp⟩, h.args⟩,
    fun h => ⟨h.1, h.2.2, h.2.1.names, h.2.1.nodes, h.2.1.distinct⟩⟩

/-- The first thing wrong with a call is a name that cannot be shown: its head, or the name of an argument
before which everything is in order. -/
def CallSpoiled (head : Value) (named : List (Value × Argument)) : Prop :=
  head.isShowable = false ∨ ∃ before e after, named = before ++ e :: after ∧
    Callable head [] before ∧ e.1.isShowable = false

theorem callSpoiled_iff {head : Value} {named : List (Value × Argument)} :
    CallSpoiled head named ↔ head.isShowable = false ∨ IsName head ∧ NameSpoiled [] named := by
  have hbefore : ∀ before, Callable head [] before ↔ IsName head ∧ Namable [] before := by
    intro before
    rw [callable_iff]
    simp
  refine or_congr Iff.rfl ⟨?_, ?_⟩
  · rintro ⟨before, e, after, hlist, hcallable, hspoiled⟩
    obtain ⟨hhead, hnamable⟩ := (hbefore before).mp hcallable
    exact ⟨hhead, before, e, after, hlist, hnamable, hspoiled⟩
  · rintro ⟨hhead, before, e, after, hlist, hnamable, hspoiled⟩
    exact ⟨before, e, after, hlist, (hbefore before).mpr ⟨hhead, hnamable⟩, hspoiled⟩

theorem newCall_decides (head : Value) (args : List Argument) (named : List (Value × Argument))
    (location : Option Location) :
    Decides location (Callable head args named) (CallSpoiled head named)
      (fun t => ∃ h ts es, head = .text h ∧ args = ts.map .node ∧
        named = es.map (fun e => (.text e.1, .node e.2)) ∧ t = .call h ts es location)
      (newCall head args named location) := by
  have hspoiled : CallSpoiled head named ↔
      head.isShowable = false ∨ IsName head ∧ (NameSpoiled [] named ∨ Namable [] named ∧ False) := by
    rw [callSpoiled_iff, and_false, or_false]
  refine Decides.congr ?_ callable_iff hspoiled
  refine (identifier_decides .callHead head location).bind fun h _ hhead => ?_
  refine (checkNamed_decides named [] location).bind fun es _ hnamed => ?_
  refine (checkArgs_decides h args location).map fun ts hargs => ?_
  exact ⟨h, ts, es, hhead.1, hargs, hnamed.1, rfl⟩

theorem newCall_of_build {head : Value} {args : List Argument} {named : List (Value × Argument)}
    {location : Option Location} {t : Tree} (h : build head args named location = .ok t) :
    newCall head args (Value.foldPairs named) location = .ok t := by
  unfold build at h
  split at h
  · exact h
  · cases h

end Tree

end ExprMarkup
