import ExprMarkup.Proofs.Markup.ReadBack
import ExprMarkup.Proofs.Registration
import ExprMarkup.Proofs.Rendering.Parallel

namespace ExprMarkup

namespace Registry

theorem find?_eq_none_iff {r : Registry} {name : String} :
    r.find? name = none ↔ r.contains name = false := by
  simp [find?, contains, Table.find?, Table.contains]

namespace Builder

/-- Entries with new and distinct names are accepted one after the other. -/
theorem foldlM_perform (b : Builder) (entries : List (String × Renderer))
    (hident : ∀ e ∈ entries, Text.isIdentifier e.1 = true)
    (hnodup : (b.names ++ entries.map Prod.fst).Nodup) :
    entries.foldlM (fun b e => b.perform ⟨.text e.1, some e.2, false⟩) b =
      .ok ⟨b.renderers.putAll entries⟩ := by
  induction entries generalizing b with
  | nil => rfl
  | cons e rest ih =>
    rw [List.forall_mem_cons] at hident
    rw [List.map_cons, List.append_cons] at hnodup
    have hnew : e.1 ∉ b.names := by
      intro hmem
      have hfirst := (List.nodup_append.mp hnodup).1
      exact (List.nodup_append.mp hfirst).2.2 e.1 hmem e.1 (List.mem_singleton_self _) rfl
    have horder : (⟨.text e.1, some e.2, false⟩ : Registration).InOrder b.names :=
      ⟨e.1, e.2, rfl, rfl, hident.1, .inl hnew⟩
    obtain ⟨_, ⟨⟩, hput⟩ := perform_of_inOrder horder
    have hnames : (⟨b.renderers.put e.1 e.2⟩ : Builder).names = b.names ++ [e.1] :=
      (Table.names_put b.renderers e.1 e.2).trans (if_neg hnew)
    rw [← hnames] at hnodup
    rw [List.foldlM_cons, hput]
    exact ih _ hident.2 hnodup

end Builder

end Registry

namespace Dialect

open Registry

/-- The default elements, registered one by one. -/
def htmlBuilder (selfClosing : Bool := true) : Except Refusal Builder := do
  let b ← containerTags.foldlM
    (fun b tag => b.container (.text (registryName tag)) (some tag)) Builder.empty
  voidTags.foldlM (fun b tag => b.leaf (.text (registryName tag)) (some tag) selfClosing) b

theorem tagFor_registryName (tag : String) :
    Builder.tagFor (.text (registryName tag)) (some tag) = tag := by
  by_cases h : tag = ""
  · subst h
    decide +kernel
  · simp [Builder.tagFor, h]

theorem isIdentifier_htmlEntries (selfClosing : Bool) :
    ∀ e ∈ htmlEntries selfClosing, Text.isIdentifier e.1 = true := by
  have hnames : ∀ tag ∈ containerTags ++ voidTags, Text.isIdentifier (registryName tag) = true := by
    decide +kernel
  intro e he
  rw [htmlEntries, List.mem_append, List.mem_map, List.mem_map] at he
  rcases he with ⟨tag, htag, rfl⟩ | ⟨tag, htag, rfl⟩
  · exact hnames tag (List.mem_append_left _ htag)
  · exact hnames tag (List.mem_append_right _ htag)

/-- None of the default registrations is refused, and together they make the default registry. -/
theorem htmlBuilder_eq (selfClosing : Bool) :
    htmlBuilder selfClosing = .ok (Builder.ofRegistry (htmlRegistry selfClosing)) := by
  have hall := Builder.foldlM_perform Builder.empty (htmlEntries selfClosing)
    (isIdentifier_htmlEntries selfClosing) (Markup.nodup_htmlEntries selfClosing)
  rw [htmlEntries, List.foldlM_append] at hall
  simp only [List.foldlM_map] at hall
  simp only [htmlBuilder, Builder.container, Builder.leaf, tagFor_registryName]
  exact hall

/-- Elements of the given names that have the names for tags. -/
def customEntries (names : List String) : List (String × Renderer) :=
  names.map fun name => (name, .container name)

variable {names : List String}

theorem map_fst_customEntries (names : List String) : (customEntries names).map Prod.fst = names := by
  rw [customEntries, List.map_map]
  exact List.map_id names

theorem find?_putAll_customEntries (hnodup : names.Nodup) (t : Table Renderer) (head : String) :
    (t.putAll (customEntries names)).find? head =
      if head ∈ names then some (.container head) else t.find? head := by
  have hlookup := Table.find?_ofList_map hnodup Renderer.container head
  rw [Table.find?_ofList_eq_lookup] at hlookup
  have hfind := (Table.collects_putAll t (customEntries names)).find head
  rw [customEntries, hlookup] at hfind
  refine hfind.trans ?_
  split <;> rfl

theorem nodup_names_append (hnodup : names.Nodup)
    (hnew : ∀ name ∈ names, htmlRegistry.contains name = false) :
    (htmlRegistry.names ++ names).Nodup := by
  refine List.nodup_append.mpr ⟨htmlRegistry.renderers.nodup, hnodup, ?_⟩
  intro name hregistered other hother heq
  have hcontains : htmlRegistry.contains name = true :=
    (Table.contains_iff htmlRegistry.renderers name).mpr hregistered
  rw [heq, hnew other hother] at hcontains
  cases hcontains

/-- Elements of new names are accepted, and bind these names and no others. -/
theorem containers_htmlBuilder (hnodup : names.Nodup)
    (hident : ∀ name ∈ names, Text.isIdentifier name = true)
    (hnew : ∀ name ∈ names, htmlRegistry.contains name = false) :
    ∃ b, (do
        let b ← htmlBuilder
        names.foldlM (fun b name => b.container (.text name)) b) = Except.ok b ∧
      ∀ head, b.build.find? head =
        if head ∈ names then some (.container head) else htmlRegistry.find? head := by
  have hdistinct := nodup_names_append hnodup hnew
  have hall := Builder.foldlM_perform (Builder.ofRegistry htmlRegistry) (customEntries names)
  rw [map_fst_customEntries, customEntries, List.forall_mem_map, List.foldlM_map] at hall
  refine ⟨_, by rw [htmlBuilder_eq]; exact hall hident hdistinct, ?_⟩
  exact find?_putAll_customEntries hnodup htmlRegistry.renderers

/-- Each head has one renderer with and without the custom elements. -/
theorem rendererFor_custom {registry : Registry}
    (hnew : ∀ name ∈ names, htmlRegistry.contains name = false)
    (hfind : ∀ head, registry.find? head =
      if head ∈ names then some (.container head) else htmlRegistry.find? head)
    (config : Config) (head : String) :
    (Dialect.html (some registry)).rendererFor config head = Dialect.html.rendererFor config head := by
  have hcustom : (Dialect.html (some registry)).rendererFor config head =
      (registry.find? head).getD (.container head) := rfl
  have hdefault : Dialect.html.rendererFor config head =
      (htmlRegistry.find? head).getD (.container head) := rfl
  rw [hcustom, hdefault, hfind]
  split
  · next hmem =>
    rw [find?_eq_none_iff.mpr (hnew head hmem)]
    rfl
  · rfl

theorem isRaised_of_html (config : Config) (head : String) (children : List Rendered)
    (attributes : List (String × Rendered)) (f : Failure)
    (h : (Dialect.html.rendererFor config head).run children attributes = .error f) : f.IsRaised := by
  refine Renderer.isRaised_of_run ?_ h
  intro label own hcustom
  rw [Markup.rendererFor_html] at hcustom
  split at hcustom <;> cases hcustom

end Dialect

namespace Interpret

open Registry

/-- Elements that are registered under new names change nothing. -/
theorem renderText_customElements {names : List String} (hnodup : names.Nodup)
    (hident : ∀ name ∈ names, Text.isIdentifier name = true)
    (hnew : ∀ name ∈ names, Dialect.htmlRegistry.contains name = false) :
    ∃ b, (do
        let b ← Dialect.htmlBuilder
        names.foldlM (fun b name => b.container (.text name)) b) = Except.ok b ∧
      ∀ config t, (renderText (Dialect.html (some b.build)) config t).result =
        (renderText Dialect.html config t).result := by
  obtain ⟨b, hb, hfind⟩ := Dialect.containers_htmlBuilder hnodup hident hnew
  refine ⟨b, hb, ?_⟩
  intro config t
  have hsymbol : ∀ name, (Dialect.html.symbolText name) =
      (Dialect.html (some b.build)).symbolText name := by
    intro name
    simp only [Dialect.symbolText, Dialect.html]
  have hparallel : Dialect.html.Parallels Eq (Dialect.html (some b.build)) config t :=
    Dialect.parallels_of_eq rfl hsymbol
      (fun head => (Dialect.rendererFor_custom hnew hfind config head).symm)
      (Dialect.isRaised_of_html config)
  exact (renderText_eq_of_parallels hparallel).symm

/-- Registered, unregistered and standard elements within each other, the innermost a void one. -/
def nestedElements (children : List Tree) : Tree :=
  .call "div" [.call "card" [.call "other" [.call "x_note" [.call "br" children []
    (some ⟨.int 2, .int 5, .absent, .absent, .absent⟩)] [] none, .symbol "card" none] [] none]
    [("title", .call "card" [] [] none)] none] [] none

theorem renderText_customElements_nested :
    ∃ b, (do
        let b ← Dialect.htmlBuilder
        ["card", "x_note"].foldlM (fun b name => b.container (.text name)) b) = Except.ok b ∧
      (renderText (Dialect.html (some b.build)) Config.default (nestedElements [])).result =
        .ok "<div><card title='<card></card>'><other><x_note><br /></x_note>card</other></card></div>" ∧
      complaint (Dialect.html (some b.build)) Config.default
        (nestedElements [.literal (.scalar (.text "x")) none]) = some "2:5 <br> cannot have children" := by
  have hnodup : ["card", "x_note"].Nodup := by decide
  have hnew : ∀ name ∈ ["card", "x_note"], Dialect.htmlRegistry.contains name = false := by
    rw [Markup.htmlRegistry_eq_mk]
    decide +kernel
  obtain ⟨b, hb, hsame⟩ := renderText_customElements hnodup (by decide) hnew
  refine ⟨b, hb, ?_, ?_⟩
  · rw [hsame, Markup.html_eq_mk]
    exact toOption_eq_some.mp (by decide +kernel)
  · rw [complaint, hsame, Markup.html_eq_mk]
    decide +kernel

end Interpret

end ExprMarkup
