import ExprMarkup.Error
import ExprMarkup.Json.Printer
import ExprMarkup.Json.Reader

namespace ExprMarkup.Json

theorem hexDigit?_hexDigit : ∀ n < 16, Text.CodeTable.hexDigit? (Text.hexDigit n) = some n := by
  decide

theorem hexDigits_four (n : Nat) : Text.hexDigits 4 n =
    [Text.hexDigit (n / 16 / 16 / 16 % 16), Text.hexDigit (n / 16 / 16 % 16),
      Text.hexDigit (n / 16 % 16), Text.hexDigit (n % 16)] := by
  simp [Text.hexDigits]

/-- An escape of four digits is read as one unit. -/
theorem readUnits_unitEscape {n : Nat} (h : n < 0x10000) (rest : List Char) :
    readUnits (unitEscape n ++ rest) =
      (readUnits rest).map fun found => (n :: found.1, found.2) := by
  have hunit : codeUnit? (Text.hexDigit (n / 16 / 16 / 16 % 16)) (Text.hexDigit (n / 16 / 16 % 16))
      (Text.hexDigit (n / 16 % 16)) (Text.hexDigit (n % 16)) = some n := by
    have hvalue : ((n / 16 / 16 / 16 % 16 * 16 + n / 16 / 16 % 16) * 16 + n / 16 % 16) * 16 + n % 16 =
        n := by omega
    simp [codeUnit?, hexDigit?_hexDigit, Nat.mod_lt, hvalue]
  rw [unitEscape, hexDigits_four]
  simp only [List.cons_append, List.nil_append, readUnits, hunit]
  cases readUnits rest <;> rfl

/-- A character as units of sixteen bits. -/
def units (c : Char) : List Nat :=
  if c.toNat < 0x10000 then [c.toNat]
  else [0xD800 + (c.toNat - 0x10000) / 0x400, 0xDC00 + (c.toNat - 0x10000) % 0x400]

theorem toNat_lt (c : Char) : c.toNat < 0x110000 := by
  have h := c.valid
  simp only [UInt32.isValidChar, Nat.isValidChar] at h
  have hnat : c.toNat = c.val.toNat := rfl
  omega

theorem toNat_not_surrogate (c : Char) : c.toNat < 0xD800 ∨ 0xDFFF < c.toNat := by
  have h := c.valid
  simp only [UInt32.isValidChar, Nat.isValidChar] at h
  have hnat : c.toNat = c.val.toNat := rfl
  omega

/-- A character of its own is read as its code point. -/
theorem readUnits_plain {c : Char} (hquote : c ≠ '"') (hslash : c ≠ '\\') (hcontrol : 0x20 ≤ c.toNat)
    (rest : List Char) :
    readUnits (c :: rest) = (readUnits rest).map fun found => (c.toNat :: found.1, found.2) := by
  have hnot : (c == '\\' || decide (c.toNat < 0x20)) = false := by
    simp [hslash, hcontrol]
  rw [readUnits]
  · simp only [hnot]
    cases readUnits rest <;> rfl
  · exact hquote
  · intro a b d e more h
    exact absurd h hslash
  · intro d more h
    exact absurd h hslash

theorem readUnits_plainEscape {c e : Char} (hu : c ≠ 'u') (he : plainEscape? c = some e)
    (rest : List Char) :
    readUnits ('\\' :: c :: rest) =
      (readUnits rest).map fun found => (e.toNat :: found.1, found.2) := by
  rw [readUnits]
  · rw [he]
    cases readUnits rest <;> rfl
  · intro a b d f more h
    exact absurd h hu

theorem units_small {c : Char} (h : c.toNat < 0x10000) : units c = [c.toNat] := by
  rw [units, if_pos h]

/-- What a character is written as is read as its units. -/
theorem readUnits_escapeChar (c : Char) (rest : List Char) :
    readUnits (escapeChar c ++ rest) =
      (readUnits rest).map fun found => (units c ++ found.1, found.2) := by
  have hshort : ∀ d e, e ≠ 'u' → plainEscape? e = some d → d.toNat < 0x10000 →
      readUnits (['\\', e] ++ rest) =
        (readUnits rest).map fun found => (units d ++ found.1, found.2) := by
    intro d e hu he hd
    rw [units_small hd]
    exact readUnits_plainEscape hu he rest
  unfold escapeChar
  by_cases hquote : c = '"'
  · subst hquote
    exact hshort '"' '"' (by decide) rfl (by decide)
  by_cases hslash : c = '\\'
  · subst hslash
    exact hshort '\\' '\\' (by decide) rfl (by decide)
  by_cases hline : c = '\n'
  · subst hline
    exact hshort '\n' 'n' (by decide) rfl (by decide)
  by_cases hreturn : c = '\r'
  · subst hreturn
    exact hshort '\r' 'r' (by decide) rfl (by decide)
  by_cases htab : c = '\t'
  · subst htab
    exact hshort '\t' 't' (by decide) rfl (by decide)
  by_cases hback : c = '\x08'
  · subst hback
    exact hshort '\x08' 'b' (by decide) rfl (by decide)
  by_cases hfeed : c = '\x0c'
  · subst hfeed
    exact hshort '\x0c' 'f' (by decide) rfl (by decide)
  simp only [hquote, hslash, hline, hreturn, htab, hback, hfeed, Bool.or_self,
    Bool.false_eq_true, if_false, beq_eq_false_iff_ne.mpr, ne_eq, not_false_eq_true]
  split
  · next hplain =>
    rw [Bool.and_eq_true, decide_eq_true_eq, decide_eq_true_eq] at hplain
    rw [units_small (by omega)]
    exact readUnits_plain hquote hslash hplain.1 rest
  · split
    · next hsmall =>
      rw [units_small hsmall]
      exact readUnits_unitEscape hsmall rest
    · next hlarge =>
      have hlt := toNat_lt c
      rw [units, if_neg hlarge, List.append_assoc, readUnits_unitEscape (by omega),
        readUnits_unitEscape (by omega), Option.map_map]
      rfl

theorem joinUnits_units (c : Char) (rest : List Nat) :
    joinUnits (units c ++ rest) = c :: joinUnits rest := by
  have hvalid := toNat_not_surrogate c
  have hlt := toNat_lt c
  unfold units
  split
  · next hsmall =>
    have hhigh : isHighSurrogate c.toNat = false := by simp [isHighSurrogate]; omega
    have hlow : isLowSurrogate c.toNat = false := by simp [isLowSurrogate]; omega
    cases rest <;> simp [joinUnits, unitChar, hhigh, hlow]
  · next hlarge =>
    have hhigh : isHighSurrogate (0xD800 + (c.toNat - 0x10000) / 0x400) = true := by
      simp [isHighSurrogate]; omega
    have hlow : isLowSurrogate (0xDC00 + (c.toNat - 0x10000) % 0x400) = true := by
      simp [isLowSurrogate]; omega
    have hvalue : 0x10000 + (0xD800 + (c.toNat - 0x10000) / 0x400 - 0xD800) * 0x400 +
        (0xDC00 + (c.toNat - 0x10000) % 0x400 - 0xDC00) = c.toNat := by omega
    simp only [List.cons_append, List.nil_append, joinUnits, hhigh, hlow, Bool.and_self, if_true,
      hvalue, Char.ofNat_toNat]

theorem readUnits_printed (text rest : List Char) :
    readUnits (text.flatMap escapeChar ++ '"' :: rest) = some (text.flatMap units, rest) := by
  induction text with
  | nil => rfl
  | cons c more ih =>
    rw [List.flatMap_cons, List.append_assoc, readUnits_escapeChar, ih, List.flatMap_cons]
    rfl

theorem joinUnits_flatMap (text : List Char) : joinUnits (text.flatMap units) = text := by
  induction text with
  | nil => rfl
  | cons c more ih => rw [List.flatMap_cons, joinUnits_units, ih]

/-- A printed text is read back after its opening quote. -/
theorem readText_printed (s : String) (rest : List Char) :
    readText (s.toList.flatMap escapeChar ++ '"' :: rest) = .ok (s, rest) := by
  rw [readText, readUnits_printed]
  simp [joinUnits_flatMap]

theorem isDigit_of_mem_natDigits {n : Nat} {c : Char} (h : c ∈ Decimal.natDigits n) :
    Decimal.isDigit c = true := by
  have hdigit := Nat.isDigit_of_mem_toDigits (by decide) (by decide) h
  simp only [Char.isDigit, Bool.and_eq_true, decide_eq_true_eq] at hdigit
  simp only [Decimal.isDigit, Bool.and_eq_true, decide_eq_true_eq]
  exact hdigit

/-- Only zero begins with a zero. -/
theorem head_natDigits {n : Nat} (h : 0 < n) :
    ∃ c cs, Decimal.natDigits n = c :: cs ∧ c ≠ '0' := by
  induction n using Nat.strongRecOn with
  | ind n ih =>
    unfold Decimal.natDigits
    by_cases hlt : n < 10
    · refine ⟨n.digitChar, [], Nat.toDigits_of_lt_base hlt, ?_⟩
      have hdigits : ∀ m < 10, 0 < m → m.digitChar ≠ '0' := by decide
      exact hdigits n hlt h
    · obtain ⟨c, cs, hcs, hc⟩ := ih (n / 10) (by omega) (by omega)
      refine ⟨c, cs ++ [(n % 10).digitChar], ?_, hc⟩
      rw [Nat.toDigits_of_base_le (by decide) (by omega)]
      unfold Decimal.natDigits at hcs
      rw [hcs]
      rfl

/-- What may follow a number without going on with it. -/
def Ends (rest : List Char) : Prop :=
  ∀ c ∈ rest.head?, Decimal.isDigit c = false ∧ c ≠ '.' ∧ c ≠ 'e' ∧ c ≠ 'E'

theorem spanDigits_append {digits rest : List Char} (hdigits : ∀ c ∈ digits, Decimal.isDigit c = true)
    (hrest : Ends rest) : Decimal.spanDigits (digits ++ rest) = (digits, rest) := by
  rw [Decimal.spanDigits, List.takeWhile_append_of_pos hdigits, List.dropWhile_append_of_pos hdigits]
  cases rest with
  | nil => simp
  | cons c more =>
    have hc := (hrest c rfl).1
    simp [hc]

theorem spanWhole_append {n : Nat} {rest : List Char} (hrest : Ends rest) :
    spanWhole (Decimal.natDigits n ++ rest) = (Decimal.natDigits n, rest) := by
  by_cases hn : n = 0
  · subst hn
    rfl
  · obtain ⟨c, cs, hcs, hc⟩ := head_natDigits (Nat.pos_of_ne_zero hn)
    have hspan := spanDigits_append (fun d hd => isDigit_of_mem_natDigits (n := n) hd) hrest
    rw [hcs] at hspan ⊢
    rw [List.cons_append] at hspan ⊢
    rw [spanWhole]
    · exact hspan
    · intro more h
      exact hc (List.cons.inj h).1

theorem readUnsigned_natDigits {n : Nat} (negative : Bool) {rest : List Char}
    (hlimit : n < Decimal.power 10 Decimal.digitLimit) (hrest : Ends rest) :
    readUnsigned negative (Decimal.natDigits n ++ rest) =
      .ok (.int (if negative then -(n : Int) else n), rest) := by
  have hnil : (Decimal.natDigits n).isEmpty = false := by
    simp [Decimal.natDigits, Nat.toDigits_ne_nil]
  have hfraction : spanFraction rest = ([], rest) := by
    cases rest with
    | nil => rfl
    | cons c more =>
      have hc := (hrest c rfl).2.1
      simp [spanFraction, hc]
  have hexponent : Decimal.spanExponent? rest = none := by
    cases rest with
    | nil => rfl
    | cons c more =>
      obtain ⟨-, -, he, hE⟩ := hrest c rfl
      simp [Decimal.spanExponent?, he, hE]
  have hlength : ¬Decimal.digitLimit < (Decimal.natDigits n).length := by
    rw [Decimal.power, Int.toNat_natCast, Nat.pow_eq] at hlimit
    rw [Nat.not_lt]
    exact (Nat.length_toDigits_le_iff (by decide) (by decide)).mpr hlimit
  have hvalue : Decimal.digitsValue (Decimal.natDigits n) = n := Nat.ofDigitChars_ten_toDigits
  simp only [readUnsigned, spanWhole_append hrest, hnil, hfraction, hexponent, wholeNumber, hlength,
    hvalue, List.isEmpty_nil, if_true, if_false, Bool.false_eq_true, ok_bind]
  rfl

theorem natDigits_eq_cons (n : Nat) :
    ∃ c cs, Decimal.natDigits n = c :: cs ∧ Decimal.isDigit c = true := by
  cases hcs : Decimal.natDigits n with
  | nil => exact absurd hcs Nat.toDigits_ne_nil
  | cons c cs =>
    refine ⟨c, cs, rfl, isDigit_of_mem_natDigits (n := n) ?_⟩
    rw [hcs]
    exact List.mem_cons_self

theorem isPrefixOf?_cons (a b : Char) (as bs : List Char) :
    (a :: as).isPrefixOf? (b :: bs) = if a == b then as.isPrefixOf? bs else none := rfl

theorem readPlain_digit {c : Char} (hc : Decimal.isDigit c = true) (cs : List Char) :
    readPlain (c :: cs) = readUnsigned false (c :: cs) := by
  have hne : ∀ d, Decimal.isDigit d = false → (d == c) = false := by
    intro d hd
    rw [beq_eq_false_iff_ne]
    rintro rfl
    rw [hc] at hd
    cases hd
  have hminus : c ≠ '-' := by
    rintro rfl
    cases hc
  have hnames : (names.findSome? fun e => (e.1.isPrefixOf? (c :: cs)).map fun rest => (e.2, rest)) =
      none := by
    simp [names, isPrefixOf?_cons, hne 'n' rfl, hne 't' rfl, hne 'f' rfl, hne 'N' rfl, hne 'I' rfl,
      hne '-' rfl]
  rw [readPlain, hnames]
  intro rest h
  exact hminus (List.cons.inj h).1

theorem readPlain_minus {c : Char} (hc : Decimal.isDigit c = true) (cs : List Char) :
    readPlain ('-' :: c :: cs) = readUnsigned true (c :: cs) := by
  have hI : ('I' == c) = false := by
    rw [beq_eq_false_iff_ne]
    rintro rfl
    cases hc
  have hnames : (names.findSome? fun e => (e.1.isPrefixOf? ('-' :: c :: cs)).map
      fun rest => (e.2, rest)) = none := by
    simp [names, isPrefixOf?_cons, hI]
  rw [readPlain, hnames]

theorem readPlain_intChars {n : Int} (hlimit : Decimal.withinLimit n = true) {rest : List Char}
    (hrest : Ends rest) : readPlain (Decimal.intChars n ++ rest) = .ok (.int n, rest) := by
  rw [Decimal.withinLimit, decide_eq_true_eq] at hlimit
  obtain ⟨c, cs, hcs, hc⟩ := natDigits_eq_cons n.natAbs
  unfold Decimal.intChars
  split
  · next hneg =>
    have hvalue : -(n.natAbs : Int) = n := by omega
    rw [List.cons_append, hcs, List.cons_append, readPlain_minus hc, ← List.cons_append, ← hcs,
      readUnsigned_natDigits true hlimit hrest, if_pos rfl, hvalue]
  · next hpos =>
    have hvalue : (n.natAbs : Int) = n := by omega
    rw [hcs, List.cons_append, readPlain_digit hc, ← List.cons_append, ← hcs,
      readUnsigned_natDigits false hlimit hrest, if_neg Bool.false_ne_true, hvalue]

end ExprMarkup.Json
