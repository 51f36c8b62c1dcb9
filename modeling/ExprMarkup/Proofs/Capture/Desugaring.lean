import ExprMarkup.Proofs.Capture.Acceptance
import ExprMarkup.Proofs.Folding

namespace ExprMarkup

namespace Capture

open Source

/-- A tree in which the groups that were put in are wrappers of their own kind. -/
inductive Marked
  | literal (value : Literal) (location : Option Location)
  | symbol (name : String) (location : Option Location)
  | call (head : String) (args : List Marked) (named : List (String × Marked))
      (location : Option Location)
  | wrapper (operand : Marked) (location : Option Location)

namespace Marked

mutual

/-- The tree in which each wrapper is made into what `wrapped` makes of it. -/
def fold (wrapped : Tree → Option Location → Tree) : Marked → Tree
  | .literal value l => .literal value l
  | .symbol name l => .symbol name l
  | .call head args named l => .call head (foldArgs wrapped args) (foldNamed wrapped named) l
  | .wrapper operand l => wrapped (fold wrapped operand) l

def foldArgs (wrapped : Tree → Option Location → Tree) : List Marked → List Tree
  | [] => []
  | m :: rest => fold wrapped m :: foldArgs wrapped rest

def foldNamed (wrapped : Tree → Option Location → Tree) :
    List (String × Marked) → List (String × Tree)
  | [] => []
  | (name, m) :: rest => (name, fold wrapped m) :: foldNamed wrapped rest

end

/-- Wrappers are groups of one positional argument, and of nothing else. -/
def tree : Marked → Tree := fold fun operand l => .call group [operand] [] l

/-- Wrappers are taken out. -/
def plain : Marked → Tree := fold fun operand _ => operand

variable {wrapped : Tree → Option Location → Tree}

theorem foldArgs_eq_map (args : List Marked) : foldArgs wrapped args = args.map (fold wrapped) := by
  induction args with
  | nil => rfl
  | cons m rest ih => rw [foldArgs, ih, List.map_cons]

theorem foldNamed_eq_map (named : List (String × Marked)) :
    foldNamed wrapped named = named.map fun e => (e.1, fold wrapped e.2) := by
  induction named with
  | nil => rfl
  | cons e rest ih => rw [foldNamed, ih, List.map_cons]

end Marked

/-- What operators are called, by their kinds. -/
def kindHeads : List (String × String) :=
  [("Add", "add"), ("Sub", "sub"), ("Mult", "mul"), ("Div", "truediv"), ("FloorDiv", "floordiv"),
   ("Mod", "mod"), ("Pow", "pow"), ("MatMult", "matmul"), ("USub", "neg"), ("UAdd", "pos"),
   ("Invert", "invert"), ("Eq", "eq"), ("NotEq", "ne"), ("Lt", "lt"), ("LtE", "le"), ("Gt", "gt"),
   ("GtE", "ge")]

def headOfKind (kind : String) : String := (kindHeads.lookup kind).getD ""

theorem headOfKind_binary {op : BinaryOp} {head : String} (h : op.head? = some head) :
    headOfKind op.kind = head := by
  cases op <;> cases h <;> rfl

theorem headOfKind_unary {op : UnaryOp} {head : String} (h : op.head? = some head) :
    headOfKind op.kind = head := by
  cases op <;> cases h <;> rfl

theorem headOfKind_compare {op : CompareOp} {head : String} (h : op.head? = some head) :
    headOfKind op.kind = head := by
  cases op <;> cases h <;> rfl

variable {π : Type}

/-- The scalar that an item of a sequence is. -/
def scalarItem? : Expr π → Option Scalar
  | .constant (.scalar s) _ => some s
  | _ => none

theorem filterMap_scalarItem? {items : List (Expr π)} {ss : List Scalar}
    (h : constants? items = some ss) : items.filterMap scalarItem? = ss := by
  induction items using constants?.induct generalizing ss with
  | case1 => exact Option.some.inj h
  | case2 s p rest ih =>
    obtain ⟨others, hothers, rfl⟩ := Option.map_eq_some_iff.mp h
    rw [List.filterMap_cons, scalarItem?, ih hothers]
  | case3 e rest hne => simp [constants?] at h

mutual

/-- What an expression says, node by node. No operand is grouped. -/
def desugared (place : π → Location) : Expr π → Tree
  | .constant (.scalar s) p => .literal (.scalar s) (some (place p))
  | .name (.scalar (.text id)) p => .symbol id (some (place p))
  | .sequence _ items p => .literal (.sequence (items.filterMap scalarItem?)) (some (place p))
  | .call (.name (.scalar (.text head)) _) args keywords p =>
    .call head (desugaredArgs place args) (Table.folded (desugaredKeywords place keywords))
      (some (place p))
  | .binary op left right p =>
    .call (headOfKind op.kind) [desugared place left, desugared place right] [] (some (place p))
  | .unary op operand p => .call (headOfKind op.kind) [desugared place operand] [] (some (place p))
  | .compare left [(op, right)] p =>
    .call (headOfKind op.kind) [desugared place left, desugared place right] [] (some (place p))
  | .subscript value index p =>
    .call "getitem" [desugared place value, desugared place index] [] (some (place p))
  | _ => .bare none

def desugaredArgs (place : π → Location) : List (Expr π) → List Tree
  | [] => []
  | e :: rest => desugared place e :: desugaredArgs place rest

def desugaredKeywords (place : π → Location) : List (Option Value × Expr π) → List (String × Tree)
  | [] => []
  | (some (.scalar (.text key)), e) :: rest => (key, desugared place e) :: desugaredKeywords place rest
  | _ :: rest => desugaredKeywords place rest

end

mutual

/-- Wrappers stand around operands of the operators of an expression, and around nothing else: neither
around the whole of it, nor around arguments, the values of keywords, exponents or indices. -/
inductive WrapsOperands (place : π → Location) : Expr π → Marked → Prop
  | literal {e value l} : WrapsOperands place e (.literal value l)
  | symbol {e name l} : WrapsOperands place e (.symbol name l)
  | call {f args keywords p head as ns l} : WrapsInArgs place args as →
      WrapsInKeywords place keywords ns →
      WrapsOperands place (.call f args keywords p) (.call head as (Table.folded ns) l)
  | binary {op left right p head a b l} : op ≠ .pow → WrapsOperand place left a →
      WrapsOperand place right b →
      WrapsOperands place (.binary op left right p) (.call head [a, b] [] l)
  | power {left right p head a b l} : WrapsOperand place left a → WrapsOperands place right b →
      WrapsOperands place (.binary .pow left right p) (.call head [a, b] [] l)
  | unary {op operand p head a l} : WrapsOperand place operand a →
      WrapsOperands place (.unary op operand p) (.call head [a] [] l)
  | compare {op left right p head a b l} : WrapsOperand place left a → WrapsOperand place right b →
      WrapsOperands place (.compare left [(op, right)] p) (.call head [a, b] [] l)
  | subscript {value index p head a b l} : WrapsOperand place value a → WrapsOperands place index b →
      WrapsOperands place (.subscript value index p) (.call head [a, b] [] l)

/-- An operand may be wrapped. Its wrapper stands where the operand does. -/
inductive WrapsOperand (place : π → Location) : Expr π → Marked → Prop
  | bare {e m} : WrapsOperands place e m → WrapsOperand place e m
  | wrapped {e m} : WrapsOperands place e m → WrapsOperand place e (.wrapper m (some (place e.place)))

inductive WrapsInArgs (place : π → Location) : List (Expr π) → List Marked → Prop
  | nil : WrapsInArgs place [] []
  | cons {e rest m ms} : WrapsOperands place e m → WrapsInArgs place rest ms →
      WrapsInArgs place (e :: rest) (m :: ms)

inductive WrapsInKeywords (place : π → Location) :
    List (Option Value × Expr π) → List (String × Marked) → Prop
  | nil : WrapsInKeywords place [] []
  | cons {key e rest m ns} : WrapsOperands place e m → WrapsInKeywords place rest ns →
      WrapsInKeywords place ((some (.scalar (.text key)), e) :: rest) ((key, m) :: ns)

end

/-- A marking of the captured tree of an expression, from which what it says is got back. -/
structure Marks (place : π → Location) (e : Expr π) (m : Marked) : Prop where
  tree : m.tree = captured place e
  plain : m.plain = desugared place e
  operands : WrapsOperands place e m

variable {place : π → Location} {allowed : String → Prop} {e : Expr π} {m : Marked}

theorem location_captured (he : e.Supported allowed) :
    (captured place e).location = some (place e.place) := by
  cases e, he using Expr.Supported.induction <;> rfl

/-- An operand is wrapped or not, as it is asked for. -/
theorem Marks.operand (h : Marks place e m) (he : e.Supported allowed) (grouped : Bool) :
    ∃ o : Marked, o.tree = wrap grouped (captured place e) ∧ o.plain = desugared place e ∧
      WrapsOperand place e o := by
  cases grouped with
  | false => exact ⟨m, h.tree, h.plain, .bare h.operands⟩
  | true =>
    refine ⟨.wrapper m (some (place e.place)), ?_, h.plain, .wrapped h.operands⟩
    rw [wrap, if_pos rfl, location_captured he, ← h.tree]
    rfl

theorem exists_marks_args {args : List (Expr π)} (h : ∀ e ∈ args, ∃ m, Marks place e m) :
    ∃ ms : List Marked, ms.map Marked.tree = capturedAll place args ∧
      ms.map Marked.plain = desugaredArgs place args ∧ WrapsInArgs place args ms := by
  induction args with
  | nil => exact ⟨[], rfl, rfl, .nil⟩
  | cons e rest ih =>
    rw [List.forall_mem_cons] at h
    obtain ⟨⟨m, hm⟩, hrest⟩ := h
    obtain ⟨ms, htree, hplain, hms⟩ := ih hrest
    refine ⟨m :: ms, ?_, ?_, .cons hm.operands hms⟩
    · rw [List.map_cons, hm.tree, htree, capturedAll]
    · rw [List.map_cons, hm.plain, hplain, desugaredArgs]

theorem exists_marks_keywords {named : List (String × Expr π)}
    (h : ∀ k ∈ named, ∃ m, Marks place k.2 m) :
    ∃ ns : List (String × Marked),
      ns.map (fun n => (n.1, n.2.tree)) = capturedKeywords place (named.map Expr.keyword) ∧
        ns.map (fun n => (n.1, n.2.plain)) = desugaredKeywords place (named.map Expr.keyword) ∧
        WrapsInKeywords place (named.map Expr.keyword) ns := by
  induction named with
  | nil => exact ⟨[], rfl, rfl, .nil⟩
  | cons k rest ih =>
    obtain ⟨key, e⟩ := k
    rw [List.forall_mem_cons] at h
    obtain ⟨⟨m, hm⟩, hrest⟩ := h
    obtain ⟨ns, htree, hplain, hns⟩ := ih hrest
    refine ⟨(key, m) :: ns, ?_, ?_, .cons hm.operands hns⟩
    · rw [List.map_cons, List.map_cons, hm.tree, htree, Expr.keyword, capturedKeywords]
    · rw [List.map_cons, List.map_cons, hm.plain, hplain, Expr.keyword, desugaredKeywords]

theorem exists_marks (he : e.Supported allowed) : ∃ m, Marks place e m := by
  induction e, he using Expr.Supported.induction with
  | constant s p => exact ⟨.literal (.scalar s) (some (place p)), rfl, rfl, .literal⟩
  | name id p => exact ⟨.symbol id (some (place p)), rfl, rfl, .symbol⟩
  | sequence isTuple items ss p he hss =>
    refine ⟨.literal (.sequence ss) (some (place p)), ?_, ?_, .literal⟩
    · rw [captured, hss]
      rfl
    · rw [desugared, filterMap_scalarItem? hss]
      rfl
  | call f q args named p he hf _ hargs hnamed =>
    obtain ⟨ms, htree, hplain, hms⟩ := exists_marks_args fun e hmem => (hargs e hmem).2
    obtain ⟨ns, hntree, hnplain, hns⟩ := exists_marks_keywords fun k hmem => (hnamed k hmem).2.2
    refine ⟨.call f ms (Table.folded ns) (some (place p)), ?_, ?_, .call hms hns⟩
    · rw [captured, ← htree, ← hntree, Table.entries_ofList_eq_folded, Table.folded_map, Marked.tree,
        Marked.fold, Marked.foldArgs_eq_map, Marked.foldNamed_eq_map]
    · rw [desugared, ← hplain, ← hnplain, Table.folded_map, Marked.plain, Marked.fold,
        Marked.foldArgs_eq_map, Marked.foldNamed_eq_map]
  | binary op head left right p he hleft hright hhead ihleft ihright =>
    obtain ⟨ml, hml⟩ := ihleft
    obtain ⟨mr, hmr⟩ := ihright
    obtain ⟨a, hatree, haplain, ha⟩ := hml.operand hleft (op.groupsLeft left)
    by_cases hop : op = .pow
    · subst hop
      refine ⟨.call head [a, mr] [] (some (place p)), ?_, ?_, .power ha hmr.operands⟩
      · rw [captured, hhead, Option.getD_some, ← hatree, ← hmr.tree]
        rfl
      · rw [desugared, headOfKind_binary hhead, ← haplain, ← hmr.plain]
        rfl
    · obtain ⟨b, hbtree, hbplain, hb⟩ := hmr.operand hright (op.groupsRight right)
      refine ⟨.call head [a, b] [] (some (place p)), ?_, ?_, .binary hop ha hb⟩
      · rw [captured, hhead, Option.getD_some, ← hatree, ← hbtree]
        rfl
      · rw [desugared, headOfKind_binary hhead, ← haplain, ← hbplain]
        rfl
  | unary op head operand p he hoperand hhead ih =>
    obtain ⟨mo, hmo⟩ := ih
    obtain ⟨a, hatree, haplain, ha⟩ := hmo.operand hoperand (operand.precedence < unaryPrecedence)
    refine ⟨.call head [a] [] (some (place p)), ?_, ?_, .unary ha⟩
    · rw [captured, hhead, Option.getD_some, ← hatree]
      rfl
    · rw [desugared, headOfKind_unary hhead, ← haplain]
      rfl
  | compare op head left right p he hleft hright hhead ihleft ihright =>
    obtain ⟨ml, hml⟩ := ihleft
    obtain ⟨mr, hmr⟩ := ihright
    obtain ⟨a, hatree, haplain, ha⟩ := hml.operand hleft (left.precedence ≤ comparePrecedence)
    obtain ⟨b, hbtree, hbplain, hb⟩ := hmr.operand hright (right.precedence ≤ comparePrecedence)
    refine ⟨.call head [a, b] [] (some (place p)), ?_, ?_, .compare ha hb⟩
    · rw [captured, hhead, Option.getD_some, ← hatree, ← hbtree]
      rfl
    · rw [desugared, headOfKind_compare hhead, ← haplain, ← hbplain]
      rfl
  | subscript value index p he hvalue hindex ihvalue ihindex =>
    obtain ⟨mv, hmv⟩ := ihvalue
    obtain ⟨mi, hmi⟩ := ihindex
    obtain ⟨a, hatree, haplain, ha⟩ := hmv.operand hvalue (value.precedence < atomPrecedence)
    refine ⟨.call "getitem" [a, mi] [] (some (place p)), ?_, ?_, .subscript ha hmi.operands⟩
    · rw [captured, ← hatree, ← hmi.tree]
      rfl
    · rw [desugared, ← haplain, ← hmi.plain]
      rfl

/-- What an expression is captured as is what it says, node by node, each node at the place of its own
expression, once the groups that were put in are taken out. They were put in around operands, and around
neither the whole expression nor an argument, the value of a keyword, an exponent or an index; each is a
call of one positional argument, with the place of the operand. -/
theorem capture_desugars {file : Option String} {e : Expr Span}
    (he : e.Whole fun s => .ok (s.location file))
    (hfragment : ∀ s, .node s ∈ e.stations → s.InFragment) :
    let place (s : Span) : Location :=
      { line := .int s.first.line, column := .int (s.first.column + 1), endLine := .int s.last.line,
        endColumn := .int (s.last.column + 1), file := file.elim .absent .text }
    ∃ m : Marked, capture (fun s => .ok (s.location file)) e = .ok m.tree ∧
      m.plain = desugared place e ∧ WrapsOperands place e m := by
  intro place
  have hplace : Span.location file = place := by
    funext s
    cases file <;> rfl
  have hsupported := supported_of_inFragment he hfragment
  obtain ⟨m, hm⟩ : ∃ m, Marks (Span.location file) e m := exists_marks hsupported
  have hcapture : capture (fun s => .ok (s.location file)) e = .ok m.tree := by
    rw [hm.tree]
    exact capture_eq_captured (fun _ => rfl) hsupported
  refine ⟨m, hcapture, ?_, ?_⟩
  · rw [← hplace]
    exact hm.plain
  · rw [← hplace]
    exact hm.operands

/-- `f((x + y)[z], k=a, m=(p ** q) ** (r + s), k=-group(b))`: two groups are put in, and the one that was
written stays where it is. -/
theorem capture_desugars_written_group :
    let span (n : Nat) : Span := ⟨⟨1, n⟩, ⟨1, n + 1⟩⟩
    let name (id : String) (n : Nat) : Expr Span := .name (.text id) (span n)
    let indexed : Expr Span :=
      .subscript (.binary .add (name "x" 2) (name "y" 3) (span 4)) (name "z" 5) (span 6)
    let power : Expr Span := .binary .pow (.binary .pow (name "p" 7) (name "q" 8) (span 9))
      (.binary .add (name "r" 10) (name "s" 11) (span 12)) (span 13)
    let negated : Expr Span := .unary .neg (.call (name "group" 14) [name "b" 15] [] (span 16)) (span 17)
    let e : Expr Span := .call (name "f" 1) [indexed] [(some (.text "k"), name "a" 18),
      (some (.text "m"), power), (some (.text "k"), negated)] (span 19)
    let locate (s : Span) : Except Fault Location := .ok (s.location (some "page"))
    let place (s : Span) : Location := ⟨.int s.first.line, .int (s.first.column + 1),
      .int s.last.line, .int (s.last.column + 1), .text "page"⟩
    let l (n : Nat) : Option Location := some (place (span n))
    let sum : Tree := .call "add" [.symbol "x" (l 2), .symbol "y" (l 3)] [] (l 4)
    let inner : Tree := .call "pow" [.symbol "p" (l 7), .symbol "q" (l 8)] [] (l 9)
    let exponent : Tree := .call "add" [.symbol "r" (l 10), .symbol "s" (l 11)] [] (l 12)
    let written : Tree := .call "group" [.symbol "b" (l 15)] [] (l 16)
    e.Whole locate ∧ (∀ s, .node s ∈ e.stations → s.InFragment) ∧
      capture locate e = .ok (.call "f"
        [.call "getitem" [.call "group" [sum] [] (l 4), .symbol "z" (l 5)] [] (l 6)]
        [("k", .call "neg" [written] [] (l 17)),
          ("m", .call "pow" [.call "group" [inner] [] (l 9), exponent] [] (l 13))] (l 19)) ∧
      ∃ m : Marked, capture locate e = .ok m.tree ∧ WrapsOperands place e m ∧
        m.plain = .call "f" [.call "getitem" [sum, .symbol "z" (l 5)] [] (l 6)]
          [("k", .call "neg" [written] [] (l 17)), ("m", .call "pow" [inner, exponent] [] (l 13))]
          (l 19) := by
  intro span name indexed power negated e locate place l sum inner exponent written
  have hname : ∀ (id : String) (n : Nat), Text.isIdentifier id = true → (name id n).Whole locate :=
    fun id n h => ⟨⟨id, rfl, h⟩, _, rfl⟩
  have hhead : ∀ (f : String) (n : Nat), Text.isIdentifier f = true →
      ∀ id q, name f n = .name id q → IsName id := by
    rintro f n h id q ⟨⟩
    exact ⟨f, rfl, h⟩
  have hindexed : indexed.Whole locate :=
    ⟨⟨hname "x" 2 (by decide), hname "y" 3 (by decide), _, rfl⟩, hname "z" 5 (by decide), _, rfl⟩
  have hpower : power.Whole locate :=
    ⟨⟨hname "p" 7 (by decide), hname "q" 8 (by decide), _, rfl⟩,
      ⟨hname "r" 10 (by decide), hname "s" 11 (by decide), _, rfl⟩, _, rfl⟩
  have hnegated : negated.Whole locate :=
    ⟨nofun, ⟨hhead "group" 14 (by decide), ⟨hname "b" 15 (by decide), trivial⟩, trivial, _, rfl⟩, _, rfl⟩
  have he : e.Whole locate :=
    ⟨hhead "f" 1 (by decide), ⟨hindexed, trivial⟩,
      ⟨⟨"k", rfl, by decide⟩, hname "a" 18 (by decide), ⟨"m", rfl, by decide⟩, hpower,
        ⟨"k", rfl, by decide⟩, hnegated, trivial⟩, _, rfl⟩
  have hfragment : ∀ s, .node s ∈ e.stations → s.InFragment := by
    simp [e, indexed, power, negated, name, Expr.stations, Expr.stationsArgs, Expr.stationsKeywords,
      Expr.InFragment, BinaryOp.named, or_imp, forall_and]
  obtain ⟨m, hcapture, hplain, hwraps⟩ := capture_desugars he hfragment
  exact ⟨he, hfragment, rfl, m, hcapture, hwraps, hplain⟩

end Capture

end ExprMarkup
