import Mathlib.Data.List.Basic

namespace ExprMarkup.Typeset

/-- How many groups are open after a character, if it does not close one that has not been opened. -/
def braceStep (n : Nat) (c : Char) : Option Nat :=
  if c = '{' then some (n + 1)
  else if c = '}' then if n = 0 then none else some (n - 1)
  else some n

/-- How many groups are open after a text. -/
def openAfter (n : Nat) : List Char → Option Nat
  | [] => some n
  | c :: rest => (braceStep n c).bind fun m => openAfter m rest

/-- All groups of a text are closed in it, and nothing else is. -/
def Closed (text : List Char) : Prop := openAfter 0 text = some 0

instance (text : List Char) : Decidable (Closed text) :=
  inferInstanceAs (Decidable (openAfter 0 text = some 0))

/-- A base in the text has two scripts with this mark: right after the group of the first one there is the
mark and the group of the second one. -/
def DoubleScript (mark : Char) (text : List Char) : Prop :=
  ∃ before inside after, Closed inside ∧
    text = before ++ mark :: '{' :: (inside ++ '}' :: mark :: '{' :: after)

/-- What follows the group that `n` further groups are open in. -/
def afterGroup (n : Nat) : List Char → Option (List Char)
  | [] => none
  | c :: rest =>
    match braceStep n c with
    | some m => afterGroup m rest
    | none => some rest

theorem braceStep_eq_none_iff {n : Nat} {c : Char} : braceStep n c = none ↔ n = 0 ∧ c = '}' := by
  unfold braceStep
  split
  · next h => simp [h]
  · split
    · next h => simp [h]
    · next h => simp [h]

/-- Groups around a text count on. -/
theorem braceStep_add {n m : Nat} {c : Char} (h : braceStep n c = some m) (k : Nat) :
    braceStep (n + k) c = some (m + k) := by
  unfold braceStep at h ⊢
  split
  · next hopen =>
    rw [if_pos hopen, Option.some.injEq] at h
    rw [← h, Nat.add_right_comm]
  · next hopen =>
    rw [if_neg hopen] at h
    split
    · next hclose =>
      rw [if_pos hclose] at h
      split at h
      · cases h
      · next hpos =>
        rw [Option.some.injEq] at h
        rw [if_neg (by omega), Option.some.injEq]
        omega
    · next hclose =>
      rw [if_neg hclose, Option.some.injEq] at h
      rw [h]

theorem openAfter_append (n : Nat) (a b : List Char) :
    openAfter n (a ++ b) = (openAfter n a).bind fun m => openAfter m b := by
  induction a generalizing n with
  | nil => rfl
  | cons c rest ih =>
    rw [List.cons_append, openAfter, openAfter]
    cases braceStep n c with
    | none => rfl
    | some m => exact ih m

theorem Closed.append {a b : List Char} (ha : Closed a) (hb : Closed b) : Closed (a ++ b) := by
  rw [Closed, openAfter_append, ha]
  exact hb

theorem openAfter_add {n m : Nat} {a : List Char} (h : openAfter n a = some m) (k : Nat) :
    openAfter (n + k) a = some (m + k) := by
  induction a generalizing n with
  | nil =>
    obtain rfl : n = m := Option.some.inj h
    rfl
  | cons c rest ih =>
    obtain ⟨i, hi, hrest⟩ := Option.bind_eq_some_iff.mp h
    rw [openAfter, braceStep_add hi]
    exact ih hrest

/-- What is open after the first text is what the second one has to close. -/
theorem afterGroup_append_of_openAfter {n m : Nat} {a : List Char} (h : openAfter n a = some m)
    (b : List Char) : afterGroup n (a ++ b) = afterGroup m b := by
  induction a generalizing n with
  | nil =>
    obtain rfl : n = m := Option.some.inj h
    rfl
  | cons c rest ih =>
    obtain ⟨i, hi, hrest⟩ := Option.bind_eq_some_iff.mp h
    rw [List.cons_append, afterGroup, hi]
    exact ih hrest

theorem afterGroup_append {n : Nat} {a after : List Char} (h : afterGroup n a = some after)
    (b : List Char) : afterGroup n (a ++ b) = some (after ++ b) := by
  induction a generalizing n with
  | nil => cases h
  | cons c rest ih =>
    rw [afterGroup] at h
    rw [List.cons_append, afterGroup]
    cases hstep : braceStep n c with
    | none =>
      rw [hstep] at h
      obtain rfl : rest = after := Option.some.inj h
      rfl
    | some m =>
      rw [hstep] at h
      exact ih h

/-- What follows a group follows what is in it and the brace that closes it. -/
theorem afterGroup_eq_some_iff {n : Nat} {text after : List Char} :
    afterGroup n text = some after ↔
      ∃ inside, openAfter n inside = some 0 ∧ text = inside ++ '}' :: after := by
  constructor
  · intro h
    induction text generalizing n with
    | nil => cases h
    | cons c rest ih =>
      rw [afterGroup] at h
      cases hstep : braceStep n c with
      | none =>
        rw [hstep] at h
        obtain rfl : rest = after := Option.some.inj h
        obtain ⟨rfl, rfl⟩ := braceStep_eq_none_iff.mp hstep
        exact ⟨[], rfl, rfl⟩
      | some m =>
        rw [hstep] at h
        obtain ⟨inside, hinside, rfl⟩ := ih h
        refine ⟨c :: inside, ?_, rfl⟩
        rw [openAfter, hstep]
        exact hinside
  · intro h
    obtain ⟨inside, hinside, rfl⟩ := h
    rw [afterGroup_append_of_openAfter hinside]
    rfl

/-- A text that comes down to what was open before a group has closed the group. -/
theorem exists_afterGroup {n m k : Nat} {text : List Char} (h : openAfter (n + (m + 1)) text = some k)
    (hk : k ≤ m) : ∃ after, afterGroup n text = some after := by
  induction text generalizing n with
  | nil =>
    obtain rfl : n + (m + 1) = k := Option.some.inj h
    omega
  | cons c rest ih =>
    rw [afterGroup]
    cases hstep : braceStep n c with
    | none => exact ⟨rest, rfl⟩
    | some i =>
      rw [openAfter, braceStep_add hstep] at h
      exact ih h

/-- Every brace that is opened in the text is closed in it. -/
def Complete (text : List Char) : Prop :=
  ∀ before rest, text = before ++ '{' :: rest → ∃ after, afterGroup 0 rest = some after

theorem Closed.complete {text : List Char} (h : Closed text) : Complete text := by
  intro before rest htext
  have hopen : openAfter 0 (before ++ '{' :: rest) = some 0 := htext ▸ h
  rw [openAfter_append] at hopen
  obtain ⟨m, -, hrest⟩ := Option.bind_eq_some_iff.mp hopen
  refine exists_afterGroup (n := 0) (m := m) ?_ (Nat.zero_le m)
  rw [Nat.zero_add]
  exact hrest

theorem Complete.tail {c : Char} {rest : List Char} (h : Complete (c :: rest)) : Complete rest := by
  intro before after hrest
  exact h (c :: before) after (by rw [hrest, List.cons_append])

section

variable {mark : Char}

/-- What follows the script that a text begins with. -/
def afterScript (mark : Char) : List Char → Option (List Char)
  | m :: c :: rest => if m = mark ∧ c = '{' then afterGroup 0 rest else none
  | _ => none

/-- Whether a text begins with a mark and a brace. -/
def startsScript (mark : Char) : List Char → Bool
  | m :: c :: _ => m = mark ∧ c = '{'
  | _ => false

/-- Whether a text ends in a script. -/
def endsScript (mark : Char) : List Char → Bool
  | [] => false
  | c :: rest => afterScript mark (c :: rest) == some [] || endsScript mark rest

/-- Whether a base in the text has two scripts with the mark. -/
def doubled (mark : Char) : List Char → Bool
  | [] => false
  | c :: rest => (afterScript mark (c :: rest)).any (startsScript mark) || doubled mark rest

theorem afterScript_eq_some_iff {text after : List Char} :
    afterScript mark text = some after ↔
      ∃ inside, Closed inside ∧ text = mark :: '{' :: (inside ++ '}' :: after) := by
  constructor
  · intro h
    unfold afterScript at h
    split at h
    · split at h
      · next hstart =>
        obtain ⟨rfl, rfl⟩ := hstart
        obtain ⟨inside, hinside, rfl⟩ := afterGroup_eq_some_iff.mp h
        exact ⟨inside, hinside, rfl⟩
      · cases h
    · cases h
  · intro h
    obtain ⟨inside, hinside, rfl⟩ := h
    rw [afterScript, if_pos ⟨rfl, rfl⟩]
    exact afterGroup_eq_some_iff.mpr ⟨inside, hinside, rfl⟩

theorem startsScript_iff {text : List Char} :
    startsScript mark text = true ↔ ∃ after, text = mark :: '{' :: after := by
  constructor
  · intro h
    unfold startsScript at h
    split at h
    · next rest =>
      obtain ⟨rfl, rfl⟩ := of_decide_eq_true h
      exact ⟨rest, rfl⟩
    · cases h
  · intro h
    obtain ⟨after, rfl⟩ := h
    exact decide_eq_true ⟨rfl, rfl⟩

theorem doubled_iff {text : List Char} : doubled mark text = true ↔ DoubleScript mark text := by
  have hhere : ∀ text, (afterScript mark text).any (startsScript mark) = true ↔
      ∃ inside after, Closed inside ∧
        text = mark :: '{' :: (inside ++ '}' :: mark :: '{' :: after) := by
    intro text
    rw [Option.any_eq_true]
    constructor
    · intro h
      obtain ⟨rest, hrest, hstarts⟩ := h
      obtain ⟨inside, hinside, rfl⟩ := afterScript_eq_some_iff.mp hrest
      obtain ⟨after, rfl⟩ := startsScript_iff.mp hstarts
      exact ⟨inside, after, hinside, rfl⟩
    · intro h
      obtain ⟨inside, after, hinside, rfl⟩ := h
      exact ⟨_, afterScript_eq_some_iff.mpr ⟨inside, hinside, rfl⟩, startsScript_iff.mpr ⟨after, rfl⟩⟩
  constructor
  · intro h
    induction text with
    | nil => cases h
    | cons c rest ih =>
      rw [doubled, Bool.or_eq_true] at h
      obtain h | h := h
      · obtain ⟨inside, after, hinside, htext⟩ := (hhere _).mp h
        exact ⟨[], inside, after, hinside, htext⟩
      · obtain ⟨before, inside, after, hinside, hrest⟩ := ih h
        exact ⟨c :: before, inside, after, hinside, by rw [hrest, List.cons_append]⟩
  · intro h
    obtain ⟨before, inside, after, hinside, rfl⟩ := h
    induction before with
    | nil =>
      rw [List.nil_append, doubled, (hhere _).mpr ⟨inside, after, hinside, rfl⟩, Bool.true_or]
    | cons c rest ih => rw [List.cons_append, doubled, ih, Bool.or_true]

/-- The second text does not begin with the group of a script whose mark the first one ends in. -/
def Apart (mark : Char) (a b : List Char) : Prop := b.head? = some '{' → a.getLast? ≠ some mark

theorem Apart.tail {c c' : Char} {rest b : List Char} (h : Apart mark (c :: c' :: rest) b) :
    Apart mark (c' :: rest) b := by
  intro hb
  have hlast := h hb
  rwa [List.getLast?_cons_cons] at hlast

/-- A script that a complete text begins with does not go on in what follows. -/
theorem afterScript_append {c : Char} {rest b : List Char} (hcomplete : Complete (c :: rest))
    (happart : Apart mark (c :: rest) b) :
    afterScript mark (c :: rest ++ b) = (afterScript mark (c :: rest)).map (· ++ b) := by
  cases rest with
  | nil =>
    cases b with
    | nil => rfl
    | cons d after =>
      have hnot : ¬(c = mark ∧ d = '{') := by
        intro h
        obtain ⟨rfl, rfl⟩ := h
        exact happart rfl rfl
      rw [List.cons_append, List.nil_append, afterScript, if_neg hnot]
      rfl
  | cons d inner =>
    rw [List.cons_append, List.cons_append, afterScript, afterScript]
    split
    · next h =>
      obtain ⟨after, hafter⟩ := hcomplete [c] inner (by rw [h.2]; rfl)
      rw [hafter, afterGroup_append hafter]
      rfl
    · rfl

theorem getLast?_of_afterScript {text after : List Char} (h : afterScript mark text = some after)
    (hne : after ≠ []) : text.getLast? = after.getLast? := by
  obtain ⟨inside, -, rfl⟩ := afterScript_eq_some_iff.mp h
  have hsplit : mark :: '{' :: (inside ++ '}' :: after) =
      (mark :: '{' :: (inside ++ ['}'])) ++ after := by simp
  rw [hsplit, List.getLast?_append_of_ne_nil _ hne]

/-- Two scripts in a row are both in the first text, or are the last thing of it and the first thing of
the second one. -/
theorem any_afterScript_append {c : Char} {rest b : List Char} (hcomplete : Complete (c :: rest))
    (happart : Apart mark (c :: rest) b) :
    (afterScript mark (c :: rest ++ b)).any (startsScript mark) =
      ((afterScript mark (c :: rest)).any (startsScript mark) ||
        afterScript mark (c :: rest) == some [] && startsScript mark b) := by
  rw [afterScript_append hcomplete happart]
  cases h : afterScript mark (c :: rest) with
  | none => rfl
  | some after =>
    cases after with
    | nil => simp [startsScript]
    | cons d more =>
      cases more with
      | cons d' more' => simp [startsScript]
      | nil =>
        have hlast : (c :: rest).getLast? = some d := getLast?_of_afterScript h (by simp)
        have hnot : startsScript mark (d :: b) = false := by
          rw [Bool.eq_false_iff]
          intro hstarts
          obtain ⟨after, hafter⟩ := startsScript_iff.mp hstarts
          obtain ⟨rfl, rfl⟩ := List.cons.inj hafter
          exact happart rfl hlast
        have hsingle : startsScript mark [d] = false := rfl
        simp [hnot, hsingle]

theorem doubled_append {a b : List Char} (hcomplete : Complete a) (happart : Apart mark a b) :
    doubled mark (a ++ b) =
      (doubled mark a || endsScript mark a && startsScript mark b || doubled mark b) := by
  induction a with
  | nil => simp [doubled, endsScript]
  | cons c rest ih =>
    have htail : doubled mark (rest ++ b) =
        (doubled mark rest || endsScript mark rest && startsScript mark b || doubled mark b) := by
      cases rest with
      | nil => simp [doubled, endsScript]
      | cons d inner => exact ih hcomplete.tail happart.tail
    have hhere := any_afterScript_append hcomplete happart
    rw [List.cons_append] at hhere ⊢
    rw [doubled, hhere, htail, doubled, endsScript]
    generalize (afterScript mark (c :: rest)).any (startsScript mark) = here
    generalize (afterScript mark (c :: rest) == some []) = last
    generalize startsScript mark b = starts
    cases here <;> cases last <;> cases starts <;> simp

/-- What a text ends in is what its last part ends in. -/
theorem endsScript_append {a b : List Char} (hcomplete : Complete a) (happart : Apart mark a b)
    (hb : b ≠ []) : endsScript mark (a ++ b) = endsScript mark b := by
  induction a with
  | nil => rfl
  | cons c rest ih =>
    have htail : endsScript mark (rest ++ b) = endsScript mark b := by
      cases rest with
      | nil => rfl
      | cons d inner => exact ih hcomplete.tail happart.tail
    have hhere := afterScript_append hcomplete happart
    rw [List.cons_append] at hhere ⊢
    rw [endsScript, hhere, htail]
    cases afterScript mark (c :: rest) with
    | none => rfl
    | some after => simp [hb]

/-- A script ends in a brace. -/
theorem endsScript_eq_false {text : List Char} (h : text.getLast? ≠ some '}') :
    endsScript mark text = false := by
  induction text with
  | nil => rfl
  | cons c rest ih =>
    have hhere : (afterScript mark (c :: rest) == some []) = false := by
      rw [beq_eq_false_iff_ne]
      intro hscript
      obtain ⟨inside, -, htext⟩ := afterScript_eq_some_iff.mp hscript
      have hsplit : c :: rest = (mark :: '{' :: inside) ++ ['}'] := by rw [htext]; rfl
      rw [hsplit] at h
      exact h List.getLast?_concat
    have htail : endsScript mark rest = false := by
      cases rest with
      | nil => rfl
      | cons d inner =>
        rw [List.getLast?_cons_cons] at h
        exact ih h
    rw [endsScript, hhere, htail]
    rfl

/-- A text between braces. -/
def braced (text : List Char) : List Char := '{' :: (text ++ ['}'])

variable {text : List Char}

theorem Closed.braced (h : Closed text) : Closed (braced text) := by
  have hopen : openAfter 1 text = some 1 := openAfter_add h 1
  have hbrace : braceStep 0 '{' = some 1 := rfl
  rw [Closed, Typeset.braced, openAfter, hbrace, Option.bind_some, openAfter_append, hopen]
  rfl

theorem apart_brace (a : List Char) : Apart mark a ['}'] := by
  intro h
  cases h

theorem afterScript_braced (hmark : mark ≠ '{') (rest : List Char) :
    afterScript mark ('{' :: rest) = none := by
  cases rest with
  | nil => rfl
  | cons c more => rw [afterScript, if_neg (fun h => hmark h.1.symm)]

theorem doubled_braced (hmark : mark ≠ '{') (h : Closed text) :
    doubled mark (braced text) = doubled mark text := by
  rw [braced, doubled, afterScript_braced hmark, doubled_append h.complete (apart_brace text)]
  simp [startsScript, doubled, afterScript]

theorem endsScript_braced (hmark : mark ≠ '{') (h : Closed text) :
    endsScript mark (braced text) = false := by
  rw [braced, endsScript, afterScript_braced hmark,
    endsScript_append h.complete (apart_brace text) (by simp)]
  simp [endsScript, afterScript]

variable {own : Char}

theorem afterScript_script (h : Closed text) :
    afterScript mark (own :: braced text) = if own = mark then some [] else none := by
  have hgroup : afterGroup 0 (text ++ ['}']) = some [] := afterGroup_eq_some_iff.mpr ⟨text, h, rfl⟩
  rw [braced, afterScript, hgroup]
  simp

theorem doubled_script (hmark : mark ≠ '{') (h : Closed text) :
    doubled mark (own :: braced text) = doubled mark text := by
  rw [doubled, afterScript_script h, doubled_braced hmark h]
  by_cases hown : own = mark <;> simp [hown, startsScript]

theorem endsScript_script (hmark : mark ≠ '{') (h : Closed text) :
    endsScript mark (own :: braced text) = decide (own = mark) := by
  rw [endsScript, afterScript_script h, endsScript_braced hmark h]
  by_cases hown : own = mark <;> simp [hown]

end

end ExprMarkup.Typeset
