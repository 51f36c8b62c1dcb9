import ExprMarkup.Proofs.Rendering.Parallel

namespace ExprMarkup.Interpret

variable {d : Dialect} {config : Config}

/-- Two trees that differ in their locations alone render to one text, or both fail: with one fault, or
with errors of one cause, and so of one class, message and name, each of which has the location of the node
at one address in its tree. Renderers that are not made here may be used too, if they raise their errors as
those made here do. -/
theorem renderText_ignores_locations {t t' : Tree} (hform : t.unplaced = t'.unplaced)
    (hcustom : ∀ head label own, d.rendererFor config head = .custom label own →
      ∀ children attributes e, own children attributes = .error e → e.IsRaised) :
    (∃ text, (renderText d config t).result = .ok text ∧
        (renderText d config t').result = .ok text) ∨
      (∃ b, (renderText d config t).result = .error (.fault b) ∧
        (renderText d config t').result = .error (.fault b)) ∨
      ∃ cause address n n', t.at? address = some n ∧ t'.at? address = some n' ∧
        (renderText d config t).result = .error (.error ⟨cause, n.location⟩) ∧
        (renderText d config t').result = .error (.error ⟨cause, n'.location⟩) := by
  have hraised : ∀ head children attributes f,
      (d.rendererFor config head).run children attributes = .error f → f.IsRaised :=
    fun head _ _ _ hf => Renderer.isRaised_of_run (hcustom head) hf
  have hparallel : d.Parallels Eq d config t :=
    Dialect.parallels_of_eq rfl (fun _ => rfl) (fun _ => rfl) hraised
  have hmatches := renderText_matches hform hparallel
  generalize (renderText d config t).result = x at hmatches ⊢
  generalize (renderText d config t').result = x' at hmatches ⊢
  cases hmatches with
  | ok htexts =>
    obtain ⟨r, _, rfl, rfl, rfl⟩ := htexts
    exact .inl ⟨_, rfl, rfl⟩
  | error hfailures =>
    apply Or.inr
    cases hfailures with
    | fault b => exact .inl ⟨b, rfl, rfl⟩
    | error cause hn hn' => exact .inr ⟨cause, _, _, _, hn, hn', rfl, rfl⟩

/-- `wrap(card(deny('x')))`, where `deny` denies everything. -/
def denying (outer middle inner place : Option Location) : Tree :=
  .call "wrap" [.call "card" [.call "deny" [.literal (.scalar (.text "x")) place] [] inner] [] middle] []
    outer

/-- Only the call that is denied places the error, even if it has no location and others have. -/
theorem renderText_ignores_locations_denying :
    let t := denying (some ⟨.int 1, .int 1, .absent, .absent, .absent⟩) none
      (some ⟨.int 3, .int 7, .absent, .absent, .text "deny.txt"⟩) (some Location.unknown)
    let t' := denying none (some Location.unknown) none (some ⟨.int 9, .int 9, .absent, .absent, .absent⟩)
    complaint Dialect.trial Config.default t = some "deny.txt:3:7 denied" ∧
      complaint Dialect.trial Config.default t' = some "denied" ∧
      t.unplaced = t'.unplaced ∧
      ((∃ text, (renderText Dialect.trial Config.default t).result = .ok text ∧
          (renderText Dialect.trial Config.default t').result = .ok text) ∨
        (∃ b, (renderText Dialect.trial Config.default t).result = .error (.fault b) ∧
          (renderText Dialect.trial Config.default t').result = .error (.fault b)) ∨
        ∃ cause address n n', t.at? address = some n ∧ t'.at? address = some n' ∧
          (renderText Dialect.trial Config.default t).result = .error (.error ⟨cause, n.location⟩) ∧
          (renderText Dialect.trial Config.default t').result =
            .error (.error ⟨cause, n'.location⟩)) := by
  intro t t'
  have htext : complaint Dialect.trial Config.default t = some "deny.txt:3:7 denied" := by
    decide +kernel
  have htext' : complaint Dialect.trial Config.default t' = some "denied" := by decide +kernel
  have hform : t.unplaced = t'.unplaced := rfl
  have hcustom : ∀ head label own, Dialect.trial.rendererFor Config.default head = .custom label own →
      ∀ children attributes e, own children attributes = .error e → e.IsRaised := by
    intro head
    refine Dialect.forall_rendererFor (p := fun r => ∀ label own, r = .custom label own →
      ∀ children attributes e, own children attributes = .error e → e.IsRaised) ?_ ?_ head
    · intro entry hentry
      have hmem := Table.mem_ofList hentry
      simp only [List.mem_cons, List.not_mem_nil, or_false] at hmem
      rcases hmem with rfl | rfl
      · intro label own h
        cases h
      · intro label own h children attributes e he
        cases h
        cases he
        exact ⟨rfl, rfl⟩
    · intro head label own h
      cases h
  exact ⟨htext, htext', hform, renderText_ignores_locations hform hcustom⟩

end ExprMarkup.Interpret
