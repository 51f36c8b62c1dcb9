import ExprMarkup.Source.Parser.Reader

namespace ExprMarkup.Source.Reader

variable {α β σ : Type}

/-- Whatever the reader gives has the property. -/
def Yields (r : Reader α) (p : α → Prop) : Prop := ∀ c a c', r c = some (a, c') → p a

namespace Yields

theorem pure {p : α → Prop} {a : α} (h : p a) : Yields (Pure.pure a : Reader α) p := by
  rintro c b c' ⟨⟩
  exact h

theorem fail {p : α → Prop} : Yields (Reader.fail : Reader α) p := nofun

/-- In two steps, the second may rely on what the first has given. -/
theorem bind {r : Reader α} {next : α → Reader β} {p : α → Prop} {q : β → Prop} (hr : Yields r p)
    (hnext : ∀ a, p a → Yields (next a) q) : Yields (r >>= next) q := by
  intro c b c' h
  obtain ⟨⟨a, inner⟩, ha, hb⟩ := Option.bind_eq_some_iff.mp h
  exact hnext a (hr c a inner ha) inner b c' hb

/-- What the first step gives may not matter. -/
theorem after {r : Reader α} {next : α → Reader β} {q : β → Prop}
    (hnext : ∀ a, Yields (next a) q) : Yields (r >>= next) q :=
  bind (p := fun _ => True) (fun _ _ _ _ => trivial) fun a _ => hnext a

theorem collect {read : Reader (Option α)} {p : α → Prop}
    (hread : Yields read fun found => ∀ a ∈ found, p a) (limit : Nat) {found : List α}
    (hfound : ∀ a ∈ found, p a) : Yields (Reader.collect read limit found) fun all => ∀ a ∈ all, p a := by
  induction limit generalizing found with
  | zero => exact pure (by simpa using hfound)
  | succ n ih =>
    refine bind hread fun one hone => ?_
    cases one with
    | some a => exact ih (List.forall_mem_cons.mpr ⟨hone a rfl, hfound⟩)
    | none => exact pure (by simpa using hfound)

theorem extend {more : α → Reader (Option α)} {p : α → Prop}
    (hmore : ∀ a, p a → Yields (more a) fun one => ∀ b ∈ one, p b) (limit : Nat) {a : α} (ha : p a) :
    Yields (Reader.extend more limit a) p := by
  induction limit generalizing a with
  | zero => exact pure ha
  | succ n ih =>
    refine bind (hmore a ha) fun one hone => ?_
    cases one with
    | some b => exact ih (hone b rfl)
    | none => exact pure ha

theorem steps {closed : Reader Bool} {step : σ → Reader σ} {p : σ → Prop}
    (hstep : ∀ s, p s → Yields (step s) p) (limit : Nat) {s : σ} (hs : p s) :
    Yields (Reader.steps closed step limit s) p := by
  induction limit generalizing s with
  | zero => exact pure hs
  | succ n ih =>
    refine bind (hstep s hs) fun s hs => after fun comma => ?_
    split
    · refine after fun isClosed => ?_
      split
      · exact pure hs
      · exact ih hs
    · exact pure hs

end Yields

end ExprMarkup.Source.Reader
