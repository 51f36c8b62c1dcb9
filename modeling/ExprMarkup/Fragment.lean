import ExprMarkup.Error
import ExprMarkup.Text.Escape

namespace ExprMarkup

/-- Text that is valid in the target notation and is never escaped again. -/
structure Fragment where
  text : String
  deriving Inhabited, DecidableEq

def Fragment.empty : Fragment := ⟨""⟩

/-- A rendered value: one fragment, or one for each element of a sequence. No fragment at all stands
for an absent value. -/
inductive Rendered
  | one (fragment : Fragment)
  | many (fragments : List Fragment)
  deriving Inhabited, DecidableEq

namespace Rendered

def fragments : Rendered → List Fragment
  | .one f => [f]
  | .many fs => fs

/-- Either all have at most one fragment, or there is a first one of several. -/
theorem forall_single_or_first_several {α : Type} (value : α → Rendered) (items : List α) :
    (∀ item ∈ items, (value item).fragments.length ≤ 1) ∨
      ∃ before item after, items = before ++ item :: after ∧
        (∀ earlier ∈ before, (value earlier).fragments.length ≤ 1) ∧
        1 < (value item).fragments.length := by
  cases hfind : items.find? fun item => 1 < (value item).fragments.length with
  | none => exact .inl (by simpa using hfind)
  | some item =>
    obtain ⟨hitem, before, after, hsplit, hbefore⟩ := List.find?_eq_some_iff_append.mp hfind
    exact .inr ⟨before, item, after, hsplit, by simpa using hbefore, by simpa using hitem⟩

/-- All fragments of some rendered values, in order. -/
def flatten (values : List Rendered) : List Fragment := values.flatMap fragments

def joinFragments (separator : String) : List Fragment → Fragment
  | [f] => f
  | fs => ⟨joinTexts separator (fs.map Fragment.text)⟩

def concat (values : List Rendered) (separator : String := "") : Fragment :=
  joinFragments separator (flatten values)

/-- A rendered value as one fragment. -/
def asFragment : Rendered → Fragment
  | .one f => f
  | .many fs => joinFragments "" fs

/-- One fragment is nothing if its text is empty, several if there are none. -/
def isTruthy : Rendered → Bool
  | .one f => f.text != ""
  | .many fs => !fs.isEmpty

end Rendered

/-- The text of a value: truth values in lower case, the others as messages show them. Integers
beyond the digit limit have none. -/
def Value.plainText : Value → Except Fault String
  | .scalar (.bool true) => .ok "true"
  | .scalar (.bool false) => .ok "false"
  | .scalar (.int n) => if Decimal.withinLimit n then .ok (Decimal.intText n) else .error .digitLimit
  | v => .ok v.display

mutual

/-- Makes a value safe: safe values stay as they are, an absent one gives nothing, a sequence gives
one fragment for each element, and the text of all else is escaped. -/
def Value.escape (escaper : Text.Escaper) : Value → Except Fault Rendered
  | .safe t => .ok (.one ⟨t⟩)
  | .markup t => .ok (.one ⟨t⟩)
  | .raw t => .ok (.one ⟨escaper t⟩)
  | .scalar .absent => .ok (.many [])
  | .tuple items => do return .many (← escapeItems escaper items)
  | .list items => do return .many (← escapeItems escaper items)
  | .scalar s => do return .one ⟨escaper (← Value.plainText (.scalar s))⟩
  | .complex re im => do return .one ⟨escaper (← Value.plainText (.complex re im))⟩
  | .ellipsis => do return .one ⟨escaper (← Value.plainText .ellipsis)⟩
  | .bytes data => do return .one ⟨escaper (← Value.plainText (.bytes data))⟩
  | .dict entries => do return .one ⟨escaper (← Value.plainText (.dict entries))⟩

/-- Each element as one fragment; a sequence inside a sequence is joined. -/
def Value.escapeItems (escaper : Text.Escaper) : List Value → Except Fault (List Fragment)
  | [] => .ok []
  | v :: rest => do
    let first ← v.escape escaper
    return first.asFragment :: (← escapeItems escaper rest)

end

/-- A rendered value is a value again, and a safe one. -/
def Rendered.toValue : Rendered → Value
  | .one f => .safe f.text
  | .many fs => .tuple (fs.map fun f => .safe f.text)

end ExprMarkup
