import ExprMarkup.Dialect.Html
import ExprMarkup.Proofs.Evaluation
import ExprMarkup.Proofs.Folding
import ExprMarkup.Proofs.Fragment
import ExprMarkup.Proofs.Markup.Reader

namespace ExprMarkup.Markup

open Dialect

def data (text : String) : List Piece := text.toList.map .data

def scalarText : Scalar → String
  | .absent => ""
  | .bool true => "true"
  | .bool false => "false"
  | .int n => Decimal.intText n
  | .float x => Decimal.floatText x
  | .text s => s

def literalText : Literal → String
  | .scalar s => scalarText s
  | .sequence items => String.join (items.map scalarText)

/-- An entity is known by its name, any other symbol stands for itself. -/
def symbolText (name : String) : String :=
  if name ∈ htmlEntities.map Prod.fst then "&" ++ name ++ ";" else name

/-- The tag of an element with content: that of the registered name, or else the head itself. -/
def elementTag (head : String) : String :=
  (containerTags.find? fun tag => registryName tag == head).getD head

/-- A literal of no value and a literal of no items leave an attribute without a value. -/
def isAbsent : Tree → Bool
  | .literal (.scalar .absent) _ => true
  | .literal (.sequence []) _ => true
  | _ => false

mutual

/-- What a tree is read as. -/
def pieces : Tree → List Piece
  | .literal value _ => data (Text.escapeHtml (literalText value))
  | .symbol name _ => data (symbolText name)
  | .call head args named _ =>
    if head ∈ voidTags then [.void head.toList (attributes named)]
    else .start (elementTag head).toList (attributes named) ::
      (piecesAll args ++ [.stop (elementTag head).toList])
  | .bare _ => []

def piecesAll : List Tree → List Piece
  | [] => []
  | t :: rest => pieces t ++ piecesAll rest

/-- The value of an attribute is its argument as it is written, with quotes and line ends escaped. -/
def attributes : List (String × Tree) → List Attr
  | [] => []
  | (name, t) :: rest =>
    ⟨(Attribute.attributeName name).toList,
      if isAbsent t then none else some (Text.escapeChars Text.attributeSpecial (write (pieces t)))⟩ ::
      attributes rest

end

@[simp] theorem write_data_text (text : String) : write (data text) = text.toList :=
  write_data text.toList

theorem nodup_htmlEntries (selfClosing : Bool) : ((htmlEntries selfClosing).map Prod.fst).Nodup := by
  have hnames : (htmlEntries selfClosing).map Prod.fst = (containerTags ++ voidTags).map registryName := by
    simp only [htmlEntries, List.map_append, List.map_map, Function.comp_def]
  rw [hnames]
  decide +kernel

theorem htmlRegistry_eq_mk (selfClosing : Bool) :
    htmlRegistry selfClosing = ⟨⟨htmlEntries selfClosing, nodup_htmlEntries selfClosing⟩⟩ :=
  congrArg Registry.mk (Table.ofList_eq_mk (nodup_htmlEntries selfClosing))

theorem html_eq_mk (selfClosing : Bool) :
    Dialect.html none none selfClosing = { Dialect.html none none selfClosing with
      operators := ⟨⟨htmlEntries selfClosing, nodup_htmlEntries selfClosing⟩⟩ } := by
  rw [← htmlRegistry_eq_mk]
  rfl

theorem registryName_voidTags : ∀ tag ∈ voidTags, registryName tag = tag := by decide +kernel

theorem registryName_containerTags : ∀ tag ∈ containerTags, registryName tag ∉ voidTags := by
  decide +kernel

theorem find?_voidTags (head : String) :
    voidTags.find? (fun tag => registryName tag == head) =
      if head ∈ voidTags then some head else none := by
  split
  · next hmem =>
    obtain ⟨tag, htag⟩ : ∃ tag, voidTags.find? (fun tag => registryName tag == head) = some tag :=
      Option.isSome_iff_exists.mp
        (List.find?_isSome.mpr ⟨head, hmem, by simp [registryName_voidTags head hmem]⟩)
    have heq : registryName tag = head := by simpa using List.find?_some htag
    rw [registryName_voidTags tag (List.mem_of_find?_eq_some htag)] at heq
    rw [htag, heq]
  · next hmem =>
    rw [List.find?_eq_none]
    intro tag htag heq
    rw [beq_iff_eq, registryName_voidTags tag htag] at heq
    exact hmem (heq ▸ htag)

theorem find?_htmlRegistry (selfClosing : Bool) (head : String) :
    (htmlRegistry selfClosing).find? head =
      ((containerTags.find? fun tag => registryName tag == head).map .container).or
        (if head ∈ voidTags then some (.leaf head selfClosing) else none) := by
  have hvoid := find?_voidTags head
  rw [htmlRegistry, Registry.find?, Table.find?_ofList (nodup_htmlEntries selfClosing), htmlEntries,
    List.find?_append, List.find?_map, List.find?_map]
  simp only [Function.comp_def, hvoid]
  cases containerTags.find? fun tag => registryName tag == head with
  | some tag => simp
  | none => split <;> simp

/-- The renderer of each head. -/
theorem rendererFor_html (selfClosing : Bool) (config : Config) (head : String) :
    (Dialect.html none none selfClosing).rendererFor config head =
      if head ∈ voidTags then .leaf head selfClosing else .container (elementTag head) := by
  have hfind : (Dialect.html none none selfClosing).operators.find? head =
      (htmlRegistry selfClosing).find? head := rfl
  rw [rendererFor, hfind, find?_htmlRegistry, elementTag]
  split
  · next hmem =>
    have hnone : containerTags.find? (fun tag => registryName tag == head) = none := by
      rw [List.find?_eq_none]
      intro tag htag heq
      rw [beq_iff_eq] at heq
      exact registryName_containerTags tag htag (heq ▸ hmem)
    simp [hnone]
  · cases containerTags.find? fun tag => registryName tag == head <;> rfl

theorem htmlSpecial_of_isNameChar {c : Char} (h : Text.isNameChar c = true) :
    Text.htmlSpecial c = none := by
  unfold Text.htmlSpecial
  split
  · exact absurd h (by decide)
  · exact absurd h (by decide)
  · exact absurd h (by decide)
  · rfl

/-- A character that every special one is written without is not in an escaped text, if it is special
itself. -/
theorem not_mem_escapeChars {special : Char → Option (List Char)} {bad : Char}
    (hbad : (special bad).isSome = true) (hwritten : ∀ c w, special c = some w → bad ∉ w)
    (text : List Char) : bad ∉ Text.escapeChars special text := by
  induction text with
  | nil => simp
  | cons c rest ih =>
    rw [Text.escapeChars_cons, List.mem_append, not_or]
    refine ⟨?_, ih⟩
    cases hc : special c with
    | some w => exact hwritten c w hc
    | none =>
      have hne : bad ≠ c := by
        rintro rfl
        simp [hc] at hbad
      simpa using hne

theorem bracket_not_mem_escapeHtml {bracket : Char} (hbracket : bracket = '<' ∨ bracket = '>')
    (text : String) : bracket ∉ (Text.escapeHtml text).toList := by
  rw [Text.escapeHtml, Text.toList_escapeWith]
  refine not_mem_escapeChars (by rcases hbracket with rfl | rfl <;> decide) ?_ text.toList
  intro c w h
  unfold Text.htmlSpecial at h
  rcases hbracket with rfl | rfl <;> split at h <;> simp_all [eq_comm]

theorem quote_not_mem_escapeAttribute (text : List Char) :
    '\'' ∉ Text.escapeChars Text.attributeSpecial text := by
  refine not_mem_escapeChars (by decide) ?_ text
  intro c w h
  unfold Text.attributeSpecial at h
  split at h <;> simp_all [eq_comm]

theorem find?_htmlEntities (name : String) :
    (knownSymbols htmlEntities).find? name =
      if name ∈ htmlEntities.map Prod.fst then some ⟨"&" ++ name ++ ";"⟩ else none := by
  have hnodup : (htmlEntities.map Prod.fst).Nodup := by decide
  have hentries : (htmlEntities.map fun e => (e.1, (⟨e.2⟩ : Fragment))) =
      (htmlEntities.map Prod.fst).map fun n => (n, ⟨"&" ++ n ++ ";"⟩) := by
    simp only [htmlEntities, List.map_map, Function.comp_def]
  rw [knownSymbols, hentries]
  exact Table.find?_ofList_map hnodup _ name

theorem symbolText_html (selfClosing : Bool) {name : String} (h : Text.isIdentifier name = true) :
    ((Dialect.html none none selfClosing).symbolText name).text = symbolText name := by
  have hself : Text.escapeHtml name = name := by
    apply String.toList_inj.mp
    rw [Text.escapeHtml, Text.toList_escapeWith]
    exact Text.escapeChars_eq_self fun c hc =>
      htmlSpecial_of_isNameChar ((Text.isNameChar_of_isIdentifier h).2 c hc)
  have hfind : (Dialect.html none none selfClosing).symbols.find? name =
      (knownSymbols htmlEntities).find? name := rfl
  rw [Dialect.symbolText, hfind, find?_htmlEntities, symbolText]
  split
  · rfl
  · exact hself

theorem toList_asFragment (r : Rendered) :
    r.asFragment.text.toList = r.fragments.flatMap fun f => f.text.toList := by
  rw [Rendered.text_asFragment, String.toList_join, List.flatMap_map]

theorem toList_joinFragments (fs : List Fragment) :
    (Rendered.joinFragments "" fs).text.toList = fs.flatMap fun f => f.text.toList :=
  toList_asFragment (.many fs)

theorem toList_concat_cons (r : Rendered) (rest : List Rendered) :
    (Rendered.concat (r :: rest)).text.toList =
      r.asFragment.text.toList ++ (Rendered.concat rest).text.toList := by
  simp [Rendered.concat, toList_joinFragments, toList_asFragment, Rendered.flatten]

/-- A rendered value stands for a tree when its text is what the tree's pieces are written as, and it is
no fragment at all exactly for a tree that leaves an attribute without a value. -/
structure Stands (r : Rendered) (t : Tree) : Prop where
  text : r.asFragment.text.toList = write (pieces t)
  absent : r = .many [] ↔ isAbsent t = true

theorem plainText_scalar_iff {s : Scalar} {text : String} (hs : s ≠ .absent) :
    Value.plainText (.scalar s) = .ok text ↔
      (∀ n, s = .int n → Decimal.withinLimit n = true) ∧ scalarText s = text := by
  cases s with
  | absent => exact absurd rfl hs
  | bool b => cases b <;> simp [Value.plainText, scalarText]
  | int n =>
    have hlimit : (∀ m, Scalar.int n = .int m → Decimal.withinLimit m = true) ↔
        Decimal.withinLimit n = true :=
      ⟨fun h => h n rfl, fun h m hm => Scalar.int.inj hm ▸ h⟩
    rw [hlimit, Value.plainText, scalarText]
    cases Decimal.withinLimit n with
    | true => simp
    | false => simp
  | float x =>
    have hplain : Value.plainText (.float x) = .ok (scalarText (.float x)) := rfl
    rw [hplain]
    simp
  | text t =>
    have hplain : Value.plainText (.text t) = .ok (scalarText (.text t)) := rfl
    rw [hplain]
    simp

theorem escape_scalar {escaper : Text.Escaper} {s : Scalar} {r : Rendered}
    (h : Value.escape escaper (.scalar s) = .ok r) :
    s = .absent ∧ r = .many [] ∨ s ≠ .absent ∧ r = .one ⟨escaper (scalarText s)⟩ := by
  by_cases hs : s = .absent
  · subst hs
    exact .inl ⟨rfl, by simpa [Value.escape] using h.symm⟩
  · refine .inr ⟨hs, ?_⟩
    have heq : Value.escape escaper (.scalar s) =
        (do return .one ⟨escaper (← Value.plainText (.scalar s))⟩) := by
      rw [Value.escape]
      exact hs
    rw [heq] at h
    obtain ⟨text, htext, h⟩ := bind_eq_ok.mp h
    rw [← ((plainText_scalar_iff hs).mp htext).2] at h
    exact (pure_eq_ok.mp h).symm

theorem text_of_escape_scalar {s : Scalar} {r : Rendered}
    (h : Value.escape Text.escapeHtml (.scalar s) = .ok r) :
    r.asFragment.text = Text.escapeHtml (scalarText s) := by
  rcases escape_scalar h with ⟨rfl, rfl⟩ | ⟨-, rfl⟩
  · rfl
  · rfl

theorem escapeItems_ok {items : List Scalar} {fs : List Fragment}
    (h : Value.escapeItems Text.escapeHtml (items.map .scalar) = .ok fs) :
    (fs = [] ↔ items = []) ∧ (fs.flatMap fun f => f.text.toList) =
      (Text.escapeHtml (String.join (items.map scalarText))).toList := by
  induction items generalizing fs with
  | nil =>
    obtain rfl : fs = [] := by simpa [Value.escapeItems] using h.symm
    exact ⟨by simp, rfl⟩
  | cons s rest ih =>
    obtain ⟨r, hs, h⟩ := bind_eq_ok.mp h
    obtain ⟨others, hrest, h⟩ := bind_eq_ok.mp h
    obtain rfl := pure_eq_ok.mp h
    have htext := text_of_escape_scalar hs
    have htail := (ih hrest).2
    refine ⟨by simp, ?_⟩
    simp [htext, htail, Text.escapeHtml]

theorem stands_literal {value : Literal} {location : Option Location} {r : Rendered}
    (h : Value.escape Text.escapeHtml value.toValue = .ok r) : Stands r (.literal value location) := by
  cases value with
  | scalar s =>
    refine ⟨by simp [text_of_escape_scalar h, pieces, literalText], ?_⟩
    rcases escape_scalar h with ⟨rfl, rfl⟩ | ⟨hs, rfl⟩
    · simp [isAbsent]
    · cases s <;> simp_all [isAbsent]
  | sequence items =>
    rw [Literal.toValue, Value.escape] at h
    obtain ⟨fs, hitems, h⟩ := bind_eq_ok.mp h
    obtain rfl := pure_eq_ok.mp h
    obtain ⟨hnil, htext⟩ := escapeItems_ok hitems
    refine ⟨by simp [toList_asFragment, Rendered.fragments, htext, pieces, literalText], ?_⟩
    cases items <;> simp_all [isAbsent]

/-- One attribute is written as the attribute that is to be read. -/
theorem toList_write_attribute {name s : String} {t : Tree} {r : Rendered} (hr : Stands r t)
    (h : Attribute.write name r = .ok s) : ' ' :: s.toList = writeAttributes (attributes [(name, t)]) := by
  have hvalue : ∀ f, r.asFragment = f → r ≠ .many [] → Attribute.quotedValue name f = s →
      ' ' :: s.toList = writeAttributes (attributes [(name, t)]) := by
    rintro f rfl hne rfl
    have habsent : isAbsent t = false := by
      rw [Bool.eq_false_iff]
      exact fun ht => hne (hr.absent.mpr ht)
    simp [attributes, habsent, writeAttributes, Attr.write, Attribute.quotedValue,
      Text.escapeAttribute, hr.text]
  unfold Attribute.write at h
  split at h
  · next f => exact hvalue f rfl (by simp) (Except.ok.inj h)
  · have habsent : isAbsent t = true := hr.absent.mp rfl
    obtain rfl : Attribute.attributeName name = s := Except.ok.inj h
    simp [attributes, habsent, writeAttributes, Attr.write]
  · next f => exact hvalue f rfl (by simp) (Except.ok.inj h)
  · simp at h

theorem attributes_cons (name : String) (t : Tree) (rest : List (String × Tree)) :
    attributes ((name, t) :: rest) = attributes [(name, t)] ++ attributes rest := rfl

theorem writeAttributes_append (as bs : List Attr) :
    writeAttributes (as ++ bs) = writeAttributes as ++ writeAttributes bs := List.flatMap_append

theorem toList_writeAll_cons {name s : String} {t : Tree} {r : Rendered}
    {rest : List (String × Rendered)} {named : List (String × Tree)} (hr : Stands r t)
    (hrest : ∀ s, Attribute.writeAll rest = .ok s → s.toList = writeAttributes (attributes named))
    (h : Attribute.writeAll ((name, r) :: rest) = .ok s) :
    s.toList = writeAttributes (attributes ((name, t) :: named)) := by
  obtain ⟨first, hfirst, h⟩ := bind_eq_ok.mp h
  obtain ⟨others, hothers, h⟩ := bind_eq_ok.mp h
  obtain rfl := pure_eq_ok.mp h
  rw [attributes_cons, writeAttributes_append, ← toList_write_attribute hr hfirst,
    ← hrest others hothers]
  simp

/-- What an element with content writes. -/
theorem runContainer_ok {tag : String} {children : List Rendered}
    {named : List (String × Rendered)} {f : Fragment}
    (h : (Renderer.container tag).run children named = .ok f) :
    ∃ written, Attribute.writeAll named = .ok written ∧
      f.text.toList = '<' :: tag.toList ++ written.toList ++ ['>'] ++
        (Rendered.concat children).text.toList ++ '<' :: '/' :: tag.toList ++ ['>'] := by
  obtain ⟨written, hwritten, h⟩ := bind_eq_ok.mp (mapError_eq_ok.mp h)
  obtain rfl := pure_eq_ok.mp h
  exact ⟨written, hwritten, by simp [Renderer.element]⟩

theorem runLeaf_ok {tag : String} {children : List Rendered} {named : List (String × Rendered)}
    {f : Fragment} (h : (Renderer.leaf tag true).run children named = .ok f) :
    ∃ written, Attribute.writeAll named = .ok written ∧
      f.text.toList = '<' :: tag.toList ++ written.toList ++ [' ', '/', '>'] := by
  cases children with
  | nil =>
    obtain ⟨written, hwritten, h⟩ := bind_eq_ok.mp (mapError_eq_ok.mp h)
    obtain rfl := pure_eq_ok.mp h
    exact ⟨written, hwritten, by simp⟩
  | cons child rest =>
    have herror : (Renderer.leaf tag true).run (child :: rest) named =
        .error (.error ⟨.structural tag .voidElement, none⟩) := rfl
    simp [herror] at h

theorem stands_call {config : Config} {head : String} {args : List Tree}
    {named : List (String × Tree)} {location : Option Location} {children : List Rendered}
    {values : List (String × Rendered)} {f : Fragment}
    (hargs : (Rendered.concat children).text.toList = write (piecesAll args))
    (hnamed : ∀ s, Attribute.writeAll values = .ok s →
      s.toList = writeAttributes (attributes named))
    (h : (Dialect.html.rendererFor config head).run children values = .ok f) :
    Stands (.one f) (.call head args named location) := by
  refine ⟨?_, by simp [isAbsent]⟩
  rw [rendererFor_html] at h
  rw [pieces]
  split at h
  · next hvoid =>
    obtain ⟨written, hwritten, htext⟩ := runLeaf_ok h
    have hattributes := hnamed written hwritten
    simp [hvoid, Rendered.asFragment, htext, hattributes, Piece.write]
  · next hvoid =>
    obtain ⟨written, hwritten, htext⟩ := runContainer_ok h
    have hattributes := hnamed written hwritten
    simp [hvoid, Rendered.asFragment, htext, hattributes, hargs, Piece.write]

mutual

theorem stands_of_evaluate {config : Config} {t : Tree} {r : Rendered} (ht : t.WellFormed)
    (h : Dialect.html.evaluate config t = .ok r) : Stands r t := by
  cases t with
  | literal value location =>
    rw [Dialect.evaluate, mapError_eq_ok] at h
    exact stands_literal h
  | symbol name location =>
    obtain rfl : Rendered.one (Dialect.html.symbolText name) = r := by
      simpa [Dialect.evaluate] using h
    have hname : Text.isIdentifier name = true := by simpa [Tree.WellFormed] using ht
    exact ⟨by simp [Rendered.asFragment, symbolText_html true hname, pieces], by simp [isAbsent]⟩
  | call head args named location =>
    obtain ⟨-, -, hargs, hnamed⟩ := by simpa only [Tree.WellFormed] using ht
    obtain ⟨children, values, f, hchildren, hvalues, hrun, rfl⟩ := Dialect.evaluate_call_ok.mp h
    exact stands_call (text_of_evaluateArgs hargs hchildren) (text_of_evaluateNamed hnamed hvalues)
      hrun
  | bare location => simp [Dialect.evaluate] at h

theorem text_of_evaluateArgs {config : Config} {args : List Tree} {rs : List Rendered}
    (hargs : Tree.AllWellFormed args) (h : Dialect.html.evaluateArgs config args = .ok rs) :
    (Rendered.concat rs).text.toList = write (piecesAll args) := by
  cases args with
  | nil =>
    obtain rfl : [] = rs := by simpa [Dialect.evaluateArgs] using h
    rfl
  | cons t rest =>
    obtain ⟨ht, hrest⟩ := by simpa only [Tree.AllWellFormed] using hargs
    obtain ⟨r, others, hr, hothers, rfl⟩ := Dialect.evaluateArgs_cons_ok.mp h
    rw [toList_concat_cons, (stands_of_evaluate ht hr).text, text_of_evaluateArgs hrest hothers,
      piecesAll, write_append]

theorem text_of_evaluateNamed {config : Config} {named : List (String × Tree)}
    {rs : List (String × Rendered)} (hnamed : Tree.NamedWellFormed named)
    (h : Dialect.html.evaluateNamed config named = .ok rs) :
    ∀ s, Attribute.writeAll rs = .ok s → s.toList = writeAttributes (attributes named) := by
  cases named with
  | nil =>
    obtain rfl : [] = rs := by simpa [Dialect.evaluateNamed] using h
    intro s hs
    obtain rfl : "" = s := by simpa [Attribute.writeAll] using hs
    rfl
  | cons e rest =>
    obtain ⟨name, t⟩ := e
    obtain ⟨-, ht, hrest⟩ := by simpa only [Tree.NamedWellFormed] using hnamed
    obtain ⟨r, others, hr, hothers, rfl⟩ := Dialect.evaluateNamed_cons_ok.mp h
    intro s hs
    exact toList_writeAll_cons (stands_of_evaluate ht hr) (text_of_evaluateNamed hrest hothers) hs

end

theorem isNameChar_of_identifier {c : Char} (h : Text.isNameChar c = true) : isNameChar c = true := by
  have hne : ∀ d, Text.isNameChar d = false → (c == d) = false := by
    intro d hd
    rw [beq_eq_false_iff_ne]
    rintro rfl
    simp [hd] at h
  simp [isNameChar, hne ' ' (by decide), hne '=' (by decide), hne '>' (by decide),
    hne '/' (by decide), hne '<' (by decide), hne '\'' (by decide)]

theorem isName_of_isIdentifier {name : String} (h : Text.isIdentifier name = true) :
    IsName name.toList := by
  obtain ⟨hne, hall⟩ := Text.isNameChar_of_isIdentifier h
  exact ⟨hne, fun c hc => isNameChar_of_identifier (hall c hc)⟩

/-- An underscore is dropped only from a longer name, so that a name remains. -/
theorem isName_nameChars {name : List Char} (h : IsName name) : IsName (Attribute.nameChars name) := by
  obtain ⟨hne, hall⟩ := h
  have hpos : 0 < name.length := List.length_pos_iff.mpr hne
  unfold Attribute.nameChars
  constructor
  · rw [ne_eq, List.map_eq_nil_iff, ← List.length_eq_zero_iff]
    split
    · next hlong =>
      have hlen : 1 < name.length := by
        rw [Bool.and_eq_true, decide_eq_true_eq] at hlong
        exact hlong.1
      rw [List.length_dropLast]
      omega
    · omega
  · intro c hc
    obtain ⟨d, hd, rfl⟩ := List.mem_map.mp hc
    have hmem : d ∈ name := by
      split at hd
      · exact (List.dropLast_sublist name).mem hd
      · exact hd
    split
    · decide
    · exact hall d hmem

theorem isName_attributeName {name : String} (h : Text.isIdentifier name = true) :
    IsName (Attribute.attributeName name).toList := by
  rw [Attribute.attributeName, String.toList_ofList]
  exact isName_nameChars (isName_of_isIdentifier h)

theorem isName_containerTags : ∀ tag ∈ containerTags, IsName tag.toList := by
  have hall : (containerTags.all fun tag =>
      !tag.toList.isEmpty && tag.toList.all isNameChar) = true := by decide +kernel
  intro tag htag
  have hname := List.all_eq_true.mp hall tag htag
  rw [Bool.and_eq_true, Bool.not_eq_true', List.isEmpty_eq_false_iff, List.all_eq_true] at hname
  exact hname

theorem isName_elementTag {head : String} (h : Text.isIdentifier head = true) :
    IsName (elementTag head).toList := by
  unfold elementTag
  cases hfind : containerTags.find? fun tag => registryName tag == head with
  | none => exact isName_of_isIdentifier h
  | some tag => exact isName_containerTags tag (List.mem_of_find?_eq_some hfind)

theorem proper_data {text : String} (h : '<' ∉ text.toList) : ∀ p ∈ data text, p.Proper := by
  intro p hp
  obtain ⟨c, hc, rfl⟩ := List.mem_map.mp hp
  rintro rfl
  exact h hc

theorem bracket_not_mem_symbolText {bracket : Char} (hbracket : bracket = '<' ∨ bracket = '>')
    {name : String} (h : Text.isIdentifier name = true) : bracket ∉ (symbolText name).toList := by
  have hname : bracket ∉ name.toList := by
    intro hc
    have hchar := (Text.isNameChar_of_isIdentifier h).2 bracket hc
    rcases hbracket with rfl | rfl <;> exact absurd hchar (by decide)
  unfold symbolText
  split
  · rcases hbracket with rfl | rfl <;> simp [hname]
  · exact hname

mutual

theorem proper_pieces {t : Tree} (ht : t.WellFormed) : ∀ p ∈ pieces t, p.Proper := by
  cases t with
  | literal value location => exact proper_data (bracket_not_mem_escapeHtml (.inl rfl) _)
  | symbol name location =>
    have hname : Text.isIdentifier name = true := by simpa [Tree.WellFormed] using ht
    exact proper_data (bracket_not_mem_symbolText (.inl rfl) hname)
  | call head args named location =>
    obtain ⟨hhead, -, hargs, hnamed⟩ := by simpa only [Tree.WellFormed] using ht
    have hattributes := proper_attributes hnamed
    have htag := isName_elementTag hhead
    intro p hp
    rw [pieces] at hp
    split at hp
    · obtain rfl := List.mem_singleton.mp hp
      exact ⟨isName_of_isIdentifier hhead, hattributes⟩
    · rcases List.mem_cons.mp hp with rfl | hp
      · exact ⟨htag, hattributes⟩
      · rcases List.mem_append.mp hp with hp | hp
        · exact proper_piecesAll hargs p hp
        · obtain rfl := List.mem_singleton.mp hp
          exact htag
  | bare location => simp [pieces]

theorem proper_piecesAll {args : List Tree} (hargs : Tree.AllWellFormed args) :
    ∀ p ∈ piecesAll args, p.Proper := by
  cases args with
  | nil => simp [piecesAll]
  | cons t rest =>
    obtain ⟨ht, hrest⟩ := by simpa only [Tree.AllWellFormed] using hargs
    intro p hp
    rcases List.mem_append.mp hp with hp | hp
    · exact proper_pieces ht p hp
    · exact proper_piecesAll hrest p hp

theorem proper_attributes {named : List (String × Tree)} (hnamed : Tree.NamedWellFormed named) :
    ∀ a ∈ attributes named, a.Proper := by
  cases named with
  | nil => simp [attributes]
  | cons e rest =>
    obtain ⟨name, t⟩ := e
    obtain ⟨hname, -, hrest⟩ := by simpa only [Tree.NamedWellFormed] using hnamed
    intro a ha
    rcases List.mem_cons.mp ha with rfl | ha
    · refine Attr.proper_mk (isName_attributeName hname) ?_
      intro value hvalue
      split at hvalue
      · simp at hvalue
      · obtain rfl := Option.mem_some.mp hvalue
        exact quote_not_mem_escapeAttribute _
    · exact proper_attributes hrest a ha

end

/-- Whatever the texts of a tree, a reader of its HTML gets through and finds the tree. -/
theorem read_renderText_html {config : Config} {t : Tree} {text : String} (ht : t.WellFormed)
    (h : (Interpret.renderText Dialect.html config t).result = .ok text) :
    read text.toList = some (pieces t) := by
  obtain ⟨r, hr, rfl⟩ := Interpret.evaluate_of_renderText h
  rw [(stands_of_evaluate ht hr).text]
  exact read_write (proper_pieces ht)

/-- Brackets, quotes and whole tags in texts and in attributes. -/
def paragraph : Tree :=
  .call "p" [.literal (.scalar (.text "</p><b x='y'>")) none, .symbol "nbsp" none,
      .call "br" [] [("class_", .symbol "clear" none)] none,
      .literal (.sequence [.text "a", .absent, .bool true]) none]
    [("data_note", .call "em" [.literal (.scalar (.text "'>\n")) none]
      [("id", .literal (.scalar (.text "\"q'")) none)] none),
     ("hidden", .literal (.scalar .absent) none)] none

theorem read_renderText_html_paragraph :
    (Interpret.renderText Dialect.html Config.default paragraph).result =
        .ok ("<p data-note='<em id=&#39;&quot;q&#39;&#39;>&#39;&gt;&#10;</em>' hidden>" ++
          "&lt;/p&gt;&lt;b x='y'&gt;&nbsp;<br class='clear' />atrue</p>") ∧
      paragraph.WellFormed ∧
      read ("<p data-note='<em id=&#39;&quot;q&#39;&#39;>&#39;&gt;&#10;</em>' hidden>" ++
        "&lt;/p&gt;&lt;b x='y'&gt;&nbsp;<br class='clear' />atrue</p>").toList =
        some (pieces paragraph) := by
  have hrun : (Interpret.renderText Dialect.html Config.default paragraph).result =
      .ok ("<p data-note='<em id=&#39;&quot;q&#39;&#39;>&#39;&gt;&#10;</em>' hidden>" ++
        "&lt;/p&gt;&lt;b x='y'&gt;&nbsp;<br class='clear' />atrue</p>") :=
    toOption_eq_some.mp (by decide +kernel)
  have hwell : paragraph.WellFormed := by
    simp only [paragraph, Tree.WellFormed, Tree.AllWellFormed, Tree.NamedWellFormed]
    decide
  exact ⟨hrun, hwell, read_renderText_html hwell hrun⟩

end ExprMarkup.Markup
