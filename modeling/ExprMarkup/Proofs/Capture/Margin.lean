import Mathlib.Data.List.Forall2
import Mathlib.Data.List.TakeWhile
import ExprMarkup.Proofs.Construction.Sound
import ExprMarkup.Proofs.Rendering.Parallel

namespace ExprMarkup

namespace Source

/-- The last line of a text. -/
def lastLine (text : List Char) : List Char :=
  (text.reverse.takeWhile (· ≠ '\n')).reverse

/-- Where something at a position of a text stands, once there is a margin before the text. -/
def Position.movedBy (margin : List Char) (p : Position) : Position where
  line := p.line + margin.count '\n'
  column := if p.line = 1 then p.column + (lastLine margin).length else p.column

def Span.movedBy (margin : List Char) (s : Span) : Span :=
  ⟨s.first.movedBy margin, s.last.movedBy margin⟩

theorem lastLine_eq_self {text : List Char} (h : '\n' ∉ text) : lastLine text = text := by
  have hall : ∀ c ∈ text.reverse, decide (c ≠ '\n') = true := by
    intro c hc
    have hne : c ≠ '\n' := ne_of_mem_of_not_mem (List.mem_reverse.mp hc) h
    exact decide_eq_true hne
  rw [lastLine, List.takeWhile_eq_self_iff.mpr hall, List.reverse_reverse]

/-- A position stays where it is if there is no margin, or a margin of one line that it is below. -/
theorem Position.movedBy_eq_self_iff {margin : List Char} {p : Position} :
    p.movedBy margin = p ↔ margin = [] ∨ '\n' ∉ margin ∧ p.line ≠ 1 := by
  constructor
  · intro h
    have hline : p.line + margin.count '\n' = p.line := congrArg Position.line h
    have hcolumn : (p.movedBy margin).column = p.column := congrArg Position.column h
    have hone : '\n' ∉ margin := by
      rw [← List.count_eq_zero]
      omega
    by_cases hfirst : p.line = 1
    · left
      simp only [movedBy, if_pos hfirst, lastLine_eq_self hone] at hcolumn
      exact List.length_eq_zero_iff.mp (by omega)
    · exact .inr ⟨hone, hfirst⟩
  · intro h
    obtain rfl | ⟨hone, hfirst⟩ := h
    · simp [movedBy, lastLine]
    · simp [movedBy, hfirst, List.count_eq_zero.mpr hone]

theorem Span.movedBy_eq_self_iff {margin : List Char} {s : Span} :
    s.movedBy margin = s ↔ margin = [] ∨ '\n' ∉ margin ∧ s.first.line ≠ 1 ∧ s.last.line ≠ 1 := by
  have hparts : s.movedBy margin = s ↔
      s.first.movedBy margin = s.first ∧ s.last.movedBy margin = s.last :=
    Span.mk.injEq _ _ _ _ ▸ Iff.rfl
  rw [hparts, Position.movedBy_eq_self_iff, Position.movedBy_eq_self_iff]
  tauto

theorem Span.location_inj {file file' : Option String} {s s' : Span}
    (h : s.location file = s'.location file') : s = s' := by
  obtain ⟨⟨line, column⟩, ⟨endLine, endColumn⟩⟩ := s
  obtain ⟨⟨line', column'⟩, ⟨endLine', endColumn'⟩⟩ := s'
  simp only [Span.location, Location.mk.injEq, Value.scalar.injEq, Scalar.int.injEq] at h
  simp only [Span.mk.injEq, Position.mk.injEq]
  omega

end Source

open Source

namespace Location

/-- The location is one that a text gives: that of a span of it, or a point. -/
inductive Textual : Location → Prop
  | span (file : Option String) (s : Span) : Textual (s.location file)
  | point (file : Option String) (line column : Int) : Textual (point file line column)

/-- The location starts or ends on the first line. -/
def OnFirstLine (l : Location) : Prop := l.line = .int 1 ∨ l.endLine = .int 1

/-- The locations of one thing in a text without a margin, and in the same text with it. -/
inductive Moved (margin : List Char) : Location → Location → Prop
  | span (file : Option String) (s : Span) :
      Moved margin (s.location file) ((s.movedBy margin).location file)
  | point (file : Option String) (line column : Int) :
      Moved margin (point file line column) (point file (line + margin.count '\n')
        (if line = 1 then column + (lastLine margin).length else column))

theorem point_moved_eq_self_iff {margin : List Char} {line column : Int} :
    (line + margin.count '\n' = line ∧
      (if line = 1 then column + (lastLine margin).length else column) = column) ↔
        margin = [] ∨ '\n' ∉ margin ∧ line ≠ 1 := by
  constructor
  · rintro ⟨hline, hcolumn⟩
    have hone : '\n' ∉ margin := by
      rw [← List.count_eq_zero]
      omega
    by_cases hfirst : line = 1
    · rw [if_pos hfirst, lastLine_eq_self hone] at hcolumn
      exact .inl (List.length_eq_zero_iff.mp (by omega))
    · exact .inr ⟨hone, hfirst⟩
  · rintro (rfl | ⟨hone, hfirst⟩)
    · simp [lastLine]
    · simp [hfirst, List.count_eq_zero.mpr hone]

theorem moved_span_self_iff {margin : List Char} {file : Option String} {s : Span} :
    Moved margin (s.location file) (s.location file) ↔ s.movedBy margin = s := by
  constructor
  · have hmoved : ∀ l l', Moved margin l l' → s.location file = l → s.location file = l' →
        s.movedBy margin = s := by
      rintro _ _ (⟨file', s'⟩ | ⟨file', line, column⟩) hl hl'
      · obtain rfl := Span.location_inj hl
        exact (Span.location_inj hl').symm
      · simp [Span.location, point] at hl
    exact fun h => hmoved _ _ h rfl rfl
  · intro h
    have hself : Moved margin (s.location file) ((s.movedBy margin).location file) := .span file s
    rwa [h] at hself

theorem moved_point_self_iff {margin : List Char} {file : Option String} {line column : Int} :
    Moved margin (point file line column) (point file line column) ↔
      line + margin.count '\n' = line ∧
        (if line = 1 then column + (lastLine margin).length else column) = column := by
  constructor
  · have hmoved : ∀ l l', Moved margin l l' → point file line column = l → point file line column = l' →
        line + margin.count '\n' = line ∧
          (if line = 1 then column + (lastLine margin).length else column) = column := by
      rintro _ _ (⟨file', s⟩ | ⟨file', line', column'⟩) hl hl'
      · simp [Span.location, point] at hl
      · simp only [point, mk.injEq, Value.scalar.injEq, Scalar.int.injEq] at hl hl'
        obtain ⟨rfl, rfl, -⟩ := hl
        exact ⟨hl'.1.symm, hl'.2.1.symm⟩
    exact fun h => hmoved _ _ h rfl rfl
  · rintro ⟨hline, hcolumn⟩
    have hself : Moved margin (point file line column) _ := .point file line column
    rwa [hline, hcolumn] at hself

theorem moved_self_iff {margin : List Char} {l : Location} (hl : l.Textual) :
    Moved margin l l ↔ margin = [] ∨ '\n' ∉ margin ∧ ¬l.OnFirstLine := by
  cases hl with
  | span file s =>
    have hlines : ¬(s.location file).OnFirstLine ↔ s.first.line ≠ 1 ∧ s.last.line ≠ 1 := by
      simp only [OnFirstLine, Span.location, Value.scalar.injEq, Scalar.int.injEq]
      omega
    rw [moved_span_self_iff, Span.movedBy_eq_self_iff, hlines]
  | point file line column =>
    have hline : ¬(point file line column).OnFirstLine ↔ line ≠ 1 := by
      simp [OnFirstLine, point]
    rw [moved_point_self_iff, point_moved_eq_self_iff, hline]

end Location

/-- The trees are the same, and every node has moved. -/
def Tree.MovedBy (margin : List Char) (t t' : Tree) : Prop :=
  t.unplaced = t'.unplaced ∧ List.Forall₂ (Option.Rel (Location.Moved margin))
    (t.preorder.map Tree.location) (t'.preorder.map Tree.location)

namespace Failure

/-- The failures are the same, and the place that is reported has moved. -/
inductive MovedBy (margin : List Char) : Failure → Failure → Prop
  | fault (b : Fault) : MovedBy margin (.fault b) (.fault b)
  | error (cause : Cause) {l l' : Option Location} (h : Option.Rel (Location.Moved margin) l l') :
    MovedBy margin (.error ⟨cause, l⟩) (.error ⟨cause, l'⟩)

def location? : Failure → Option Location
  | .error e => e.location
  | .fault _ => none

end Failure

namespace Capture

variable {π α β : Type} {locate : π → Except Fault Location} {P : Location → Prop} {margin : List Char}

/-- The locations that capturing gives: those of the nodes, or that of what is refused. -/
def places : Except Failure Tree → List Location
  | .ok t => t.preorder.filterMap Tree.location
  | .error f => f.location?.toList

theorem rel_self_iff {l : Option Location} :
    Option.Rel (Location.Moved margin) l l ↔ ∀ l', l = some l' → Location.Moved margin l' l' := by
  cases l with
  | none => simp
  | some l => simp

theorem movedBy_self_iff {x : Except Failure Tree} :
    Matches (Failure.MovedBy margin) (Tree.MovedBy margin) x x ↔
      ∀ l ∈ places x, Location.Moved margin l l := by
  cases x with
  | ok t =>
    have htree : t.MovedBy margin t ↔ ∀ l ∈ places (.ok t), Location.Moved margin l l := by
      simp only [Tree.MovedBy, List.forall₂_same, true_and, List.forall_mem_map, rel_self_iff, places,
        List.mem_filterMap]
      grind
    rw [← htree]
    constructor
    · intro h
      cases h with
      | ok h => exact h
    · exact .ok
  | error f =>
    constructor
    · intro h l hl
      cases h with
      | error h =>
        cases h with
        | fault b => cases hl
        | error cause h => exact rel_self_iff.mp h l (by simpa [places, Failure.location?] using hl)
    · intro h
      cases f with
      | fault b => exact .error (.fault b)
      | error e =>
        refine .error (.error e.cause (rel_self_iff.mpr ?_))
        intro l hl
        exact h l (by simpa [places, Failure.location?] using hl)

/-- What a computation says about places: its result is as required, and what it is refused for, if it is
refused at a place, is at an admitted one. -/
structure Reports (P : Location → Prop) (Q : α → Prop) (x : Except Failure α) : Prop where
  made : ∀ a, x = .ok a → Q a
  refused : ∀ f, x = .error f → ∀ l, f.location? = some l → P l

namespace Reports

variable {Q : α → Prop} {R : β → Prop} {x : Except Failure α}

theorem ok {a : α} (h : Q a) : Reports P Q (.ok a) where
  made _ ha := Except.ok.inj ha ▸ h
  refused _ hf := nomatch hf

theorem error {f : Failure} (h : ∀ l, f.location? = some l → P l) : Reports P Q (.error f) where
  made _ ha := nomatch ha
  refused _ hf := Except.error.inj hf ▸ h

theorem refuse {why : Malformation} {l : Location} (h : P l) : Reports P Q (refuse why l) := by
  refine .error fun l' hl' => ?_
  obtain rfl : l = l' := Option.some.inj hl'
  exact h

theorem bind {next : α → Except Failure β} (h : Reports P Q x) (hnext : ∀ a, Q a → Reports P R (next a)) :
    Reports P R (x >>= next) where
  made b hb := by
    obtain ⟨a, ha, hb⟩ := bind_eq_ok.mp hb
    exact (hnext a (h.made a ha)).made b hb
  refused f hf := by
    rcases bind_eq_error.mp hf with hfirst | ⟨a, ha, hsecond⟩
    · exact h.refused f hfirst
    · exact (hnext a (h.made a ha)).refused f hsecond

theorem mapError_fault {y : Except Fault α} (h : ∀ a, y = .ok a → Q a) :
    Reports P Q (y.mapError .fault) where
  made a ha := h a (mapError_eq_ok.mp ha)
  refused f hf l hl := by
    obtain ⟨b, -, rfl⟩ := mapError_eq_error.mp hf
    cases hl

/-- A check at a given location only reports that one. -/
theorem of_decides {condition spoiled : Prop} {result : α → Prop} {l : Location} (hl : P l)
    (h : Tree.Decides (some l) condition spoiled result x) (hmade : ∀ a, result a → Q a) :
    Reports P Q x where
  made a ha := hmade a (h.of_ok ha).2
  refused f hf l' hl' := by
    rcases h.of_error hf with ⟨why, rfl⟩ | ⟨-, rfl⟩
    · obtain rfl : l = l' := Option.some.inj hl'
      exact hl
    · cases hl'

end Reports

/-- Every node has an admitted location. -/
def AllPlaced (P : Location → Prop) (t : Tree) : Prop :=
  ∀ n ∈ t.preorder, ∃ l, n.location = some l ∧ P l

theorem allPlaced_call {head : String} {args : List Tree} {named : List (String × Tree)} {l : Location}
    (hl : P l) (hargs : ∀ t ∈ args, AllPlaced P t) (hnamed : ∀ e ∈ named, AllPlaced P e.2) :
    AllPlaced P (.call head args named (some l)) :=
  Tree.forall_preorder_call.mpr ⟨⟨l, rfl, hl⟩, hargs, hnamed⟩

theorem allPlaced_literal {value : Literal} {l : Location} (hl : P l) :
    AllPlaced P (.literal value (some l)) := by
  intro n hn
  obtain rfl : n = .literal value (some l) := by simpa [Tree.preorder] using hn
  exact ⟨l, rfl, hl⟩

theorem allPlaced_symbol {name : String} {l : Location} (hl : P l) :
    AllPlaced P (.symbol name (some l)) := by
  intro n hn
  obtain rfl : n = .symbol name (some l) := by simpa [Tree.preorder] using hn
  exact ⟨l, rfl, hl⟩

theorem allPlaced_wrap {t : Tree} (h : AllPlaced P t) (grouped : Bool) : AllPlaced P (wrap grouped t) := by
  cases grouped with
  | false => exact h
  | true =>
    obtain ⟨l, hlocation, hl⟩ := h t t.self_mem_preorder
    have hwrap : wrap true t = .call group [t] [] (some l) := by
      rw [wrap, if_pos rfl, hlocation]
    rw [hwrap]
    exact allPlaced_call hl (by simpa using h) (by simp)

theorem reports_newSymbol {name : Value} {l : Location} (hl : P l) :
    Reports P (AllPlaced P) (Tree.newSymbol name (some l)) := by
  refine .of_decides hl (Tree.newSymbol_decides name (some l)) ?_
  rintro t ⟨s, -, -, rfl⟩
  exact allPlaced_symbol hl

theorem reports_build {head : Value} {args : List Tree} {named : List (Value × Tree)} {l : Location}
    (hl : P l) (hargs : ∀ t ∈ args, AllPlaced P t) (hnamed : ∀ e ∈ named, AllPlaced P e.2) :
    Reports P (AllPlaced P)
      (Tree.build head (args.map .node) (named.map fun e => (e.1, .node e.2)) (some l)) := by
  unfold Tree.build
  split
  · refine .of_decides hl (Tree.newCall_decides head (args.map .node)
      (Value.foldPairs (named.map fun e => (e.1, Argument.node e.2))) (some l)) ?_
    rintro t ⟨name, ts, es, -, hts, hes, rfl⟩
    obtain rfl : args = ts := List.map_injective_iff.mpr (fun _ _ h => Argument.node.inj h) hts
    refine allPlaced_call hl hargs ?_
    intro e he
    have hmem : (.text e.1, .node e.2) ∈
        Value.foldPairs (named.map fun e => (e.1, Argument.node e.2)) := by
      rw [hes]
      exact List.mem_map_of_mem (f := fun e : String × Tree => (Value.text e.1, Argument.node e.2)) he
    obtain ⟨p, hp, hitem⟩ := Value.exists_of_mem_foldPairs hmem
    obtain ⟨q, hq, rfl⟩ := List.mem_map.mp hp
    have hvalue : q.2 = e.2 := Argument.node.inj hitem
    rw [← hvalue]
    exact hnamed q hq
  · exact .error nofun

theorem reports_captureArgs {l : Location} (hl : P l) {args : List (Expr π)}
    (hargs : ∀ e ∈ args, Reports P (AllPlaced P) (capture locate e)) :
    Reports P (fun ts => ∀ t ∈ ts, AllPlaced P t) (captureArgs locate l args) := by
  induction args with
  | nil => exact .ok (by simp)
  | cons e rest ih =>
    unfold captureArgs
    split
    · contradiction
    · exact .refuse hl
    · next hlist =>
      cases hlist
      refine (hargs e (by simp)).bind fun first hfirst => ?_
      refine (ih fun e' he' => hargs e' (by simp [he'])).bind fun others hothers => ?_
      exact .ok (List.forall_mem_cons.mpr ⟨hfirst, hothers⟩)

theorem reports_captureKeywords {l : Location} (hl : P l) {keywords : List (Option Value × Expr π)}
    (hvalues : ∀ k ∈ keywords, Reports P (AllPlaced P) (capture locate k.2)) :
    Reports P (fun pairs => ∀ p ∈ pairs, AllPlaced P p.2) (captureKeywords locate l keywords) := by
  induction keywords with
  | nil => exact .ok (by simp)
  | cons k rest ih =>
    obtain ⟨key, e⟩ := k
    cases key with
    | none => exact .refuse hl
    | some name =>
      rw [captureKeywords]
      refine (hvalues (some name, e) (by simp)).bind fun first hfirst => ?_
      refine (ih fun k' hk' => hvalues k' (by simp [hk'])).bind fun others hothers => ?_
      exact .ok (List.forall_mem_cons.mpr ⟨hfirst, hothers⟩)

/-- Two captured operands make a call at an admitted location. -/
theorem reports_both {x y : Except Failure Tree} (hx : Reports P (AllPlaced P) x)
    (hy : Reports P (AllPlaced P) y) {head : String} {l : Location} (hl : P l) (left right : Bool) :
    Reports P (AllPlaced P)
      (do let a ← x; let b ← y; return Tree.call head [wrap left a, wrap right b] [] (some l)) := by
  refine hx.bind fun a ha => ?_
  refine hy.bind fun b hb => ?_
  exact .ok (allPlaced_call hl (by simpa using ⟨allPlaced_wrap ha left, allPlaced_wrap hb right⟩) (by simp))

/-- Capturing reports the locations of places only. -/
theorem reports_capture (hlocate : ∀ p l, locate p = .ok l → P l) (e : Expr π) :
    Reports P (AllPlaced P) (capture locate e) := by
  have hplace : ∀ p, Reports P P ((locate p).mapError .fault) := by
    intro p
    exact .mapError_fault (hlocate p)
  induction e with
  | constant value p =>
    refine (hplace p).bind fun l hl => ?_
    cases value with
    | scalar s => exact .ok (allPlaced_literal hl)
    | other kind => exact .refuse hl
  | name id p => exact (hplace p).bind fun l hl => reports_newSymbol hl
  | sequence isTuple items p _ =>
    refine (hplace p).bind fun l hl => ?_
    split
    · exact .ok (allPlaced_literal hl)
    · exact .refuse hl
  | call head args keywords p _ ihargs ihkeywords =>
    refine (hplace p).bind fun l hl => ?_
    cases head with
    | name id q =>
      refine (reports_captureArgs hl ihargs).bind fun ts hts => ?_
      refine (reports_captureKeywords hl ihkeywords).bind fun pairs hpairs => ?_
      exact reports_build hl hts hpairs
    | _ => exact .refuse hl
  | binary op left right p ihleft ihright =>
    refine (hplace p).bind fun l hl => ?_
    split
    · exact reports_both ihleft ihright hl _ _
    · exact .refuse hl
  | unary op operand p ihoperand =>
    refine (hplace p).bind fun l hl => ?_
    split
    · refine ihoperand.bind fun a ha => ?_
      exact .ok (allPlaced_call hl (by simpa using allPlaced_wrap ha _) (by simp))
    · exact .refuse hl
  | compare left rest p ihleft ihrest =>
    unfold capture
    refine (hplace p).bind fun l hl => ?_
    split
    · next _ op right =>
      split
      · exact reports_both ihleft (ihrest (op, right) (by simp)) hl _ _
      · exact .refuse hl
    · exact .refuse hl
  | subscript value index p ihvalue ihindex =>
    refine (hplace p).bind fun l hl => ?_
    exact reports_both ihvalue ihindex hl _ false
  | starred value p _ => exact (hplace p).bind fun l hl => .refuse hl
  | other kind parts p _ => exact (hplace p).bind fun l hl => .refuse hl
  | defect fault p => exact (hplace p).bind fun l hl => .error nofun

theorem Complaint.textual {c : Complaint} {file : Option String} {l : Location}
    (h : c.location? file = some l) : l.Textual := by
  obtain ⟨line, -, rfl⟩ := Option.map_eq_some_iff.mp h
  exact .point file line _

/-- What is captured of a text has the locations of spans of the text, and what is complained of has that
of a point. -/
theorem textual_of_mem_places {host : Host} {text : String} {file : Option String} {l : Location}
    (hl : l ∈ places (ofText host text file)) : l.Textual := by
  have hreports : Reports Location.Textual (AllPlaced Location.Textual) (ofText host text file) := by
    dsimp only [ofText]
    split
    · exact .error nofun
    · split
      · exact .error nofun
      · exact .error nofun
      · split
        · unfold captureWithin
          split
          · exact .error nofun
          · exact reports_capture (fun s l h => Except.ok.inj h ▸ .span file s) _
        · exact .error fun l => Complaint.textual
  cases hx : ofText host text file with
  | ok t =>
    rw [hx] at hl
    obtain ⟨n, hn, hlocation⟩ := List.mem_filterMap.mp hl
    obtain ⟨l', hl', htextual⟩ := hreports.made t hx n hn
    obtain rfl : l = l' := Option.some.inj (hlocation.symm.trans hl')
    exact htextual
  | error f =>
    rw [hx] at hl
    exact hreports.refused f hx l (by simpa [places] using hl)

/-- A margin does not count. -/
theorem strip_append {before text : List Char} (h : ∀ c ∈ before, Text.isBlank c = true) :
    Text.strip (before ++ text) = Text.strip text := by
  rw [Text.strip, List.dropWhile_append_of_pos h, Text.strip]

/-- The blanks that may stand before a text: spaces and ends of lines. -/
def IsMargin (margin : List Char) : Prop := ∀ c ∈ margin, c = ' ' ∨ c = '\n'

theorem ofText_append {w : String} (h : IsMargin w.toList) (host : Host) (s : String) (file : Option String) :
    ofText host (w ++ s) file = ofText host s file := by
  have hblank : ∀ c ∈ w.toList, Text.isBlank c = true := by
    intro c hc
    rcases h c hc with rfl | rfl
    · rfl
    · rfl
  simp only [ofText, String.toList_append, strip_append hblank]

/-- A text with a margin is captured as the text itself, down to the locations. So its nodes, or the place
of what is refused, are where they stand in the text with the margin exactly if there is no margin, or if
the margin is on one line that nothing of what is reported starts or ends on. -/
theorem ofText_margin (host : Host) (w s : String) (file : Option String) (hw : IsMargin w.toList) :
    ofText host (w ++ s) file = ofText host s file ∧
      (Matches (Failure.MovedBy w.toList) (Tree.MovedBy w.toList) (ofText host s file)
          (ofText host (w ++ s) file) ↔
        w = "" ∨ ∀ l ∈ places (ofText host s file), '\n' ∉ w.toList ∧ ¬l.OnFirstLine) := by
  have happend := ofText_append hw host s file
  refine ⟨happend, ?_⟩
  rw [happend, movedBy_self_iff, ← String.toList_eq_nil_iff]
  have hself : ∀ l ∈ places (ofText host s file), Location.Moved w.toList l l ↔
      w.toList = [] ∨ '\n' ∉ w.toList ∧ ¬l.OnFirstLine := by
    intro l hl
    exact Location.moved_self_iff (textual_of_mem_places hl)
  by_cases hempty : w.toList = []
  · simp only [hempty, true_or, iff_true]
    intro l hl
    rw [← hempty]
    exact (hself l hl).mpr (.inl hempty)
  · simp only [hempty, false_or]
    constructor
    · intro h l hl
      exact ((hself l hl).mp (h l hl)).resolve_left hempty
    · intro h l hl
      exact (hself l hl).mpr (.inr (h l hl))

/-- Two spaces before an empty comment: the name on the next line is where its location says. -/
theorem ofText_margin_comment :
    IsMargin "  ".toList ∧
      ofText .ample "#\nx" none = .ok (.symbol "x" (some ⟨.int 2, .int 1, .int 2, .int 2, .absent⟩)) ∧
      Matches (Failure.MovedBy "  ".toList) (Tree.MovedBy "  ".toList) (ofText .ample "#\nx" none)
        (ofText .ample ("  " ++ "#\nx") none) := by
  have hmargin : IsMargin "  ".toList := by
    simp [IsMargin]
  have hcaptured : ofText .ample "#\nx" none =
      .ok (.symbol "x" (some ⟨.int 2, .int 1, .int 2, .int 2, .absent⟩)) := rfl
  refine ⟨hmargin, hcaptured, (ofText_margin .ample "  " "#\nx" none hmargin).2.mpr (.inr ?_)⟩
  simp [hcaptured, places, Tree.preorder, Tree.location, Location.OnFirstLine]

/-- One space before a name, and an empty line before syntax that is refused: the locations stay those of
the first column, and of the first line. -/
theorem ofText_margin_unmoved :
    (ofText .ample (" " ++ "x") none = .ok (.symbol "x" (some ⟨.int 1, .int 1, .int 1, .int 2, .absent⟩)) ∧
      ¬Matches (Failure.MovedBy " ".toList) (Tree.MovedBy " ".toList) (ofText .ample "x" none)
        (ofText .ample (" " ++ "x") none)) ∧
    ofText .ample ("\n" ++ "a.b") none = .error (.malformed (.unsupportedSyntax "Attribute")
        (some ⟨.int 1, .int 1, .int 1, .int 4, .absent⟩)) ∧
      ¬Matches (Failure.MovedBy "\n".toList) (Tree.MovedBy "\n".toList) (ofText .ample "a.b" none)
        (ofText .ample ("\n" ++ "a.b") none) := by
  have hname : ofText .ample "x" none =
      .ok (.symbol "x" (some ⟨.int 1, .int 1, .int 1, .int 2, .absent⟩)) := rfl
  have hattribute : ofText .ample "a.b" none = .error (.malformed (.unsupportedSyntax "Attribute")
      (some ⟨.int 1, .int 1, .int 1, .int 4, .absent⟩)) := rfl
  have hspace : ofText .ample (" " ++ "x") none = ofText .ample "x" none :=
    ofText_append (by simp [IsMargin]) .ample "x" none
  have hline : ofText .ample ("\n" ++ "a.b") none = ofText .ample "a.b" none :=
    ofText_append (by simp [IsMargin]) .ample "a.b" none
  rw [hspace, hline]
  refine ⟨⟨hname, ?_⟩, hattribute, ?_⟩
  · rw [movedBy_self_iff]
    intro h
    have hmem : ⟨.int 1, .int 1, .int 1, .int 2, .absent⟩ ∈ places (ofText .ample "x" none) := by
      simp [hname, places, Tree.preorder, Tree.location]
    have hmoved := (Location.moved_self_iff (textual_of_mem_places hmem)).mp (h _ hmem)
    simp [Location.OnFirstLine] at hmoved
  · rw [movedBy_self_iff]
    intro h
    have hmem : ⟨.int 1, .int 1, .int 1, .int 4, .absent⟩ ∈ places (ofText .ample "a.b" none) := by
      simp [hattribute, places, Failure.malformed, Failure.location?]
    have hmoved := (Location.moved_self_iff (textual_of_mem_places hmem)).mp (h _ hmem)
    simp at hmoved

end Capture

end ExprMarkup
