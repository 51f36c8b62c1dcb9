import ExprMarkup.Scope

namespace ExprMarkup

theorem Table.mem_names_iff {α : Type} {t : Table α} {name : String} :
    name ∈ t.names ↔ ∃ item, t.find? name = some item := by
  rw [← Option.isSome_iff_exists, find?, Option.isSome_map, List.find?_isSome, ← contains_iff, contains,
    List.any_eq_true]

namespace Layer

/-- Whether the layer is one for heads, or else one for symbols. -/
def isOf (callable : Bool) (layer : Layer) : Bool := layer.callable == callable

theorem isOf_true (layer : Layer) : layer.isOf true = layer.callable := beq_true _

theorem isOf_false (layer : Layer) : layer.isOf false = !layer.callable := beq_false _

theorem isOf_not (callable : Bool) (layer : Layer) :
    layer.isOf (!callable) = !layer.isOf callable := by
  rw [isOf, isOf]
  cases layer.callable <;> cases callable <;> rfl

theorem isOf_callable (layer : Layer) : layer.isOf layer.callable = true := beq_self_eq_true _

end Layer

namespace Scope

variable {p : Layer → Bool} {name : String} {layers layers' : List Layer} {place : Nat} {layer : Layer}
  {b : Binding}

/-- Of the layers that `p` admits, the one at this place is the first that has the name. -/
structure FirstMatch (p : Layer → Bool) (name : String) (layers : List Layer) (place : Nat)
    (layer : Layer) (b : Binding) : Prop where
  placed : layers[place]? = some layer
  admitted : p layer = true
  bound : layer.entries.find? name = some b
  first : ∀ i other, i < place → layers[i]? = some other → p other = true → name ∉ other.entries.names

/-- One list of layers is the other with layers of one kind put in anywhere. -/
inductive Inserted (callable : Bool) : List Layer → List Layer → Prop
  | nil : Inserted callable [] []
  | keep {layer : Layer} {layers layers' : List Layer} (h : Inserted callable layers layers') :
      Inserted callable (layer :: layers) (layer :: layers')
  | insert {layer : Layer} {layers layers' : List Layer} (hkind : layer.isOf callable = true)
      (h : Inserted callable layers layers') : Inserted callable layers (layer :: layers')

/-- The same layers in another order, but those of each kind in the same one. -/
structure Reordered (layers layers' : List Layer) : Prop where
  perm : layers.Perm layers'
  kind : ∀ callable, layers'.filter (Layer.isOf callable) = layers.filter (Layer.isOf callable)

theorem FirstMatch.mem_names (h : FirstMatch p name layers place layer b) :
    name ∈ layer.entries.names := Table.mem_names_iff.mpr ⟨b, h.bound⟩

theorem Inserted.filter_eq {callable : Bool} (h : Inserted callable layers layers') :
    layers'.filter (Layer.isOf !callable) = layers.filter (Layer.isOf !callable) := by
  induction h with
  | nil => rfl
  | keep _ ih => rw [List.filter_cons, List.filter_cons, ih]
  | @insert layer layers layers' hkind _ ih =>
    have hother : ¬layer.isOf (!callable) = true := by simp [Layer.isOf_not, hkind]
    rw [List.filter_cons_of_neg hother, ih]

/-- The first layer has the name and is admitted, or else it is passed over. -/
theorem first?_cons (p : Layer → Bool) (name : String) (layer : Layer) (rest : List Layer) :
    (p layer = true ∧ ∃ b, layer.entries.find? name = some b ∧
        first? p name (layer :: rest) = some (layer, b)) ∨
      (p layer = true → name ∉ layer.entries.names) ∧
        first? p name (layer :: rest) = first? p name rest := by
  rw [first?]
  cases hp : p layer with
  | false => exact .inr ⟨nofun, rfl⟩
  | true =>
    cases hfound : layer.entries.find? name with
    | none =>
      refine .inr ⟨fun _ hname => ?_, rfl⟩
      obtain ⟨b, hb⟩ := Table.mem_names_iff.mp hname
      rw [hfound] at hb
      cases hb
    | some b => exact .inl ⟨rfl, b, rfl, rfl⟩

theorem first?_eq_none_iff :
    first? p name layers = none ↔ ∀ layer ∈ layers, p layer = true → name ∉ layer.entries.names := by
  induction layers with
  | nil => simp [first?]
  | cons layer rest ih =>
    rw [List.forall_mem_cons, ← ih]
    rcases first?_cons p name layer rest with ⟨hp, b, hb, hfirst⟩ | ⟨hpassed, hfirst⟩
    · have hname : name ∈ layer.entries.names := Table.mem_names_iff.mpr ⟨b, hb⟩
      simp [hfirst, hp, hname]
    · rw [hfirst]
      exact (and_iff_right hpassed).symm

theorem FirstMatch.cons {top : Layer} (hpassed : p top = true → name ∉ top.entries.names)
    (h : FirstMatch p name layers place layer b) :
    FirstMatch p name (top :: layers) (place + 1) layer b where
  placed := h.placed
  admitted := h.admitted
  bound := h.bound
  first i other hi hother := by
    cases i with
    | zero =>
      obtain rfl : top = other := by simpa using hother
      exact hpassed
    | succ i => exact h.first i other (by omega) (by simpa using hother)

theorem FirstMatch.tail {top : Layer} (h : FirstMatch p name (top :: layers) (place + 1) layer b) :
    FirstMatch p name layers place layer b where
  placed := by simpa using h.placed
  admitted := h.admitted
  bound := h.bound
  first i other hi hother := h.first (i + 1) other (by omega) (by simpa using hother)

theorem first?_eq_some_iff :
    first? p name layers = some (layer, b) ↔ ∃ place, FirstMatch p name layers place layer b := by
  induction layers with
  | nil =>
    refine ⟨nofun, ?_⟩
    rintro ⟨place, hplaced, -, -, -⟩
    simp at hplaced
  | cons top rest ih =>
    rcases first?_cons p name top rest with ⟨hp, c, hc, hfirst⟩ | ⟨hpassed, hfirst⟩
    · rw [hfirst]
      constructor
      · rintro ⟨⟩
        exact ⟨0, rfl, hp, hc, fun i other hi => absurd hi (Nat.not_lt_zero i)⟩
      · rintro ⟨place, h⟩
        cases place with
        | zero =>
          obtain rfl : top = layer := by simpa using h.placed
          rw [Option.some.inj (hc.symm.trans h.bound)]
        | succ place =>
          have hname : name ∈ top.entries.names := Table.mem_names_iff.mpr ⟨c, hc⟩
          exact absurd hname (h.first 0 top (by omega) rfl hp)
    · rw [hfirst, ih]
      constructor
      · rintro ⟨place, h⟩
        exact ⟨place + 1, h.cons hpassed⟩
      · rintro ⟨place, h⟩
        cases place with
        | zero =>
          obtain rfl : top = layer := by simpa using h.placed
          exact absurd h.mem_names (hpassed h.admitted)
        | succ place => exact ⟨place, h.tail⟩

/-- Layers that are not admitted do not count at all. -/
theorem first?_filter (p : Layer → Bool) (name : String) (layers : List Layer) :
    first? p name (layers.filter p) = first? p name layers := by
  induction layers with
  | nil => rfl
  | cons layer rest ih =>
    cases hp : p layer with
    | false => rw [List.filter_cons_of_neg (by simp [hp]), ih, first?, hp, if_neg Bool.false_ne_true]
    | true => rw [List.filter_cons_of_pos hp, first?, first?, ih]

theorem first?_eq_of_filter_eq (h : layers'.filter p = layers.filter p) :
    first? p name layers' = first? p name layers := by
  rw [← first?_filter p name layers', h, first?_filter]

theorem resolve_eq (s : Scope) (name : String) :
    s.resolve name = (first? (Layer.isOf false) name s.layers).map Prod.snd := by
  have hkind : (fun layer : Layer => !layer.callable) = Layer.isOf false :=
    funext fun layer => layer.isOf_false.symm
  rw [resolve, hkind]

theorem resolveCall_eq (s : Scope) (name : String) :
    s.resolveCall name = (first? (Layer.isOf true) name s.layers).map Prod.snd := by
  have hkind : (fun layer : Layer => layer.callable) = Layer.isOf true :=
    funext fun layer => layer.isOf_true.symm
  rw [resolveCall, hkind]

theorem map_snd_first?_eq_some_iff :
    (first? p name layers).map Prod.snd = some b ↔
      ∃ place layer, FirstMatch p name layers place layer b := by
  rw [Option.map_eq_some_iff]
  constructor
  · rintro ⟨⟨layer, b⟩, hfirst, rfl⟩
    obtain ⟨place, h⟩ := first?_eq_some_iff.mp hfirst
    exact ⟨place, layer, h⟩
  · rintro ⟨place, layer, h⟩
    exact ⟨(layer, b), first?_eq_some_iff.mpr ⟨place, h⟩, rfl⟩

/-- Where a layer has the name, the first match is there or before. -/
theorem exists_firstMatch_le {i : Nat} {other : Layer} (hplaced : layers[i]? = some other)
    (hp : p other = true) (hname : name ∈ other.entries.names) :
    ∃ place ≤ i, ∃ layer b, FirstMatch p name layers place layer b := by
  cases hfirst : first? p name layers with
  | none => exact absurd hname (first?_eq_none_iff.mp hfirst other (List.mem_of_getElem? hplaced) hp)
  | some found =>
    obtain ⟨layer, b⟩ := found
    obtain ⟨place, h⟩ := first?_eq_some_iff.mp hfirst
    refine ⟨place, Nat.le_of_not_lt fun hlt => ?_, layer, b, h⟩
    exact h.first i other hlt hplaced hp hname

/-- The first match among all layers is that of its kind, if it comes before that of the other kind. -/
theorem firstMatch_any_iff :
    FirstMatch (fun _ => true) name layers place layer b ↔
      ∃ callable, FirstMatch (Layer.isOf callable) name layers place layer b ∧
        ∀ i other c, FirstMatch (Layer.isOf !callable) name layers i other c → place < i := by
  constructor
  · intro h
    refine ⟨layer.callable, ⟨h.placed, layer.isOf_callable, h.bound, ?_⟩, ?_⟩
    · intro i other hi hother _
      exact h.first i other hi hother rfl
    · intro i other c hother
      rcases Nat.lt_trichotomy place i with hlt | rfl | hlt
      · exact hlt
      · obtain rfl : layer = other := Option.some.inj (h.placed.symm.trans hother.placed)
        have hkind := hother.admitted
        rw [Layer.isOf_not, layer.isOf_callable] at hkind
        cases hkind
      · exact absurd hother.mem_names (h.first i other hlt hother.placed rfl)
  · rintro ⟨callable, h, hbefore⟩
    refine ⟨h.placed, rfl, h.bound, ?_⟩
    intro i other hi hother _ hname
    by_cases hkind : other.isOf callable = true
    · exact h.first i other hi hother hkind hname
    · have hkind' : other.isOf (!callable) = true := by simpa [Layer.isOf_not] using hkind
      obtain ⟨place', hle, layer', c, hother'⟩ := exists_firstMatch_le hother hkind' hname
      have hlt := hbefore place' layer' c hother'
      omega

theorem resolve_eq_some_iff {s : Scope} :
    s.resolve name = some b ↔ ∃ place layer, FirstMatch (Layer.isOf false) name s.layers place layer b := by
  rw [resolve_eq, map_snd_first?_eq_some_iff]

theorem resolveCall_eq_some_iff {s : Scope} :
    s.resolveCall name = some b ↔
      ∃ place layer, FirstMatch (Layer.isOf true) name s.layers place layer b := by
  rw [resolveCall_eq, map_snd_first?_eq_some_iff]

theorem resolve_eq_none_iff {s : Scope} :
    s.resolve name = none ↔
      ∀ layer ∈ s.layers, layer.isOf false = true → name ∉ layer.entries.names := by
  rw [resolve_eq, Option.map_eq_none_iff, first?_eq_none_iff]

theorem resolveCall_eq_none_iff {s : Scope} :
    s.resolveCall name = none ↔
      ∀ layer ∈ s.layers, layer.isOf true = true → name ∉ layer.entries.names := by
  rw [resolveCall_eq, Option.map_eq_none_iff, first?_eq_none_iff]

theorem lookup_eq_none_iff {s : Scope} :
    s.lookup name = none ↔ s.resolve name = none ∧ s.resolveCall name = none := by
  rw [resolve_eq_none_iff, resolveCall_eq_none_iff, lookup, Option.map_eq_none_iff, first?_eq_none_iff]
  constructor
  · intro h
    exact ⟨fun layer hlayer _ => h layer hlayer rfl, fun layer hlayer _ => h layer hlayer rfl⟩
  · rintro ⟨hsymbols, hheads⟩ layer hlayer -
    cases hcallable : layer.callable with
    | false => exact hsymbols layer hlayer (by rw [layer.isOf_false, hcallable, Bool.not_false])
    | true => exact hheads layer hlayer (by rw [layer.isOf_true, hcallable])

theorem lookup_eq_some_iff {s : Scope} {label : String} :
    s.lookup name = some (label, b) ↔
      ∃ place layer, layer.name = label ∧ FirstMatch (fun _ => true) name s.layers place layer b := by
  rw [lookup, Option.map_eq_some_iff]
  constructor
  · rintro ⟨⟨layer, b⟩, hfirst, ⟨⟩⟩
    obtain ⟨place, h⟩ := first?_eq_some_iff.mp hfirst
    exact ⟨place, layer, rfl, h⟩
  · rintro ⟨place, layer, rfl, h⟩
    exact ⟨(layer, b), first?_eq_some_iff.mpr ⟨place, h⟩, rfl⟩

/-- Layers for heads do not matter to what a symbol stands for. -/
theorem resolve_eq_of_filter_eq {s s' : Scope}
    (h : s'.layers.filter (Layer.isOf false) = s.layers.filter (Layer.isOf false)) (name : String) :
    s'.resolve name = s.resolve name := by
  rw [resolve_eq, resolve_eq, first?_eq_of_filter_eq h]

/-- Layers for symbols do not matter to what a head stands for. -/
theorem resolveCall_eq_of_filter_eq {s s' : Scope}
    (h : s'.layers.filter (Layer.isOf true) = s.layers.filter (Layer.isOf true)) (name : String) :
    s'.resolveCall name = s.resolveCall name := by
  rw [resolveCall_eq, resolveCall_eq, first?_eq_of_filter_eq h]

/-- A name stands for what the first layer of the kind for its position says, whatever layers of the
other kind there are, and is looked up without a position in whichever of the two comes earlier. -/
theorem resolution_first_match (s : Scope) (name : String) :
    (∀ b, s.resolve name = some b ↔
        ∃ place layer, FirstMatch (Layer.isOf false) name s.layers place layer b) ∧
      (∀ b, s.resolveCall name = some b ↔
        ∃ place layer, FirstMatch (Layer.isOf true) name s.layers place layer b) ∧
      (s.resolve name = none ↔
        ∀ layer ∈ s.layers, layer.isOf false = true → name ∉ layer.entries.names) ∧
      (s.resolveCall name = none ↔
        ∀ layer ∈ s.layers, layer.isOf true = true → name ∉ layer.entries.names) ∧
      (s.lookup name = none ↔ s.resolve name = none ∧ s.resolveCall name = none) ∧
      (∀ label b, s.lookup name = some (label, b) ↔ ∃ callable place layer, layer.name = label ∧
        FirstMatch (Layer.isOf callable) name s.layers place layer b ∧
        ∀ i other c, FirstMatch (Layer.isOf !callable) name s.layers i other c → place < i) ∧
      (∀ s' : Scope, Reordered s.layers s'.layers →
        s'.resolve name = s.resolve name ∧ s'.resolveCall name = s.resolveCall name) ∧
      (∀ s' : Scope, Inserted true s.layers s'.layers ∨ Inserted true s'.layers s.layers →
        s'.resolve name = s.resolve name) ∧
      ∀ s' : Scope, Inserted false s.layers s'.layers ∨ Inserted false s'.layers s.layers →
        s'.resolveCall name = s.resolveCall name := by
  refine ⟨fun b => resolve_eq_some_iff, fun b => resolveCall_eq_some_iff, resolve_eq_none_iff,
    resolveCall_eq_none_iff, lookup_eq_none_iff, ?_, ?_, ?_, ?_⟩
  · intro label b
    rw [lookup_eq_some_iff]
    constructor
    · rintro ⟨place, layer, hlabel, h⟩
      obtain ⟨callable, hkind, hbefore⟩ := firstMatch_any_iff.mp h
      exact ⟨callable, place, layer, hlabel, hkind, hbefore⟩
    · rintro ⟨callable, place, layer, hlabel, h⟩
      exact ⟨place, layer, hlabel, firstMatch_any_iff.mpr ⟨callable, h⟩⟩
  · intro s' h
    exact ⟨resolve_eq_of_filter_eq (h.kind false) name, resolveCall_eq_of_filter_eq (h.kind true) name⟩
  · rintro s' (h | h)
    · exact resolve_eq_of_filter_eq h.filter_eq name
    · exact resolve_eq_of_filter_eq h.filter_eq.symm name
  · rintro s' (h | h)
    · exact resolveCall_eq_of_filter_eq h.filter_eq name
    · exact resolveCall_eq_of_filter_eq h.filter_eq.symm name

/-- A layer with one name. -/
def single (label : String) (callable : Bool) (b : Binding) : Layer :=
  ⟨label, Table.ofList [("x", b)], callable⟩

/-- Layers of both kinds by turns, where each shadows the later ones of its kind. -/
def crossed : Scope :=
  ⟨[single "operators" true (.renderer (.container "b")), single "symbols" false (.fragment ⟨"&times;"⟩),
    single "elements" true (.renderer (.container "i")), single "ambient" false (.fragment ⟨"x"⟩)]⟩

/-- The layers of `crossed` with those for symbols moved up. -/
def parted : Scope :=
  ⟨[single "symbols" false (.fragment ⟨"&times;"⟩), single "operators" true (.renderer (.container "b")),
    single "ambient" false (.fragment ⟨"x"⟩), single "elements" true (.renderer (.container "i"))]⟩

/-- The layers of `crossed` for symbols alone. -/
def bare : Scope :=
  ⟨[single "symbols" false (.fragment ⟨"&times;"⟩), single "ambient" false (.fragment ⟨"x"⟩)]⟩

theorem resolution_first_match_crossed :
    Reordered crossed.layers parted.layers ∧ Inserted true bare.layers crossed.layers ∧
      crossed.resolve "x" = some (.fragment ⟨"&times;"⟩) ∧
      parted.resolve "x" = crossed.resolve "x" ∧ parted.resolveCall "x" = crossed.resolveCall "x" ∧
      bare.resolve "x" = crossed.resolve "x" ∧ bare.resolveCall "x" = none ∧
      crossed.lookup "x" = some ("operators", .renderer (.container "b")) ∧
      parted.lookup "x" = some ("symbols", .fragment ⟨"&times;"⟩) ∧
      ∃ callable place layer, layer.name = "symbols" ∧
        FirstMatch (Layer.isOf callable) "x" parted.layers place layer (.fragment ⟨"&times;"⟩) ∧
        ∀ i other c, FirstMatch (Layer.isOf !callable) "x" parted.layers i other c → place < i := by
  have hreordered : Reordered crossed.layers parted.layers :=
    ⟨(List.Perm.swap _ _ _).trans (((List.Perm.swap _ _ _).cons _).cons _),
      fun callable => by cases callable <;> rfl⟩
  have hinserted : Inserted true bare.layers crossed.layers :=
    .insert rfl (.keep (.insert rfl (.keep .nil)))
  obtain ⟨-, -, -, -, -, -, hmoved, hadded, -⟩ := resolution_first_match crossed "x"
  obtain ⟨hresolve, hresolveCall⟩ := hmoved parted hreordered
  have hbare := hadded bare (.inr hinserted)
  obtain ⟨-, -, -, -, -, hlookup, -⟩ := resolution_first_match parted "x"
  exact ⟨hreordered, hinserted, rfl, hresolve, hresolveCall, hbare, rfl, rfl, rfl,
    (hlookup _ _).mp rfl⟩

end Scope

end ExprMarkup
