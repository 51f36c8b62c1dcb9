namespace ExprMarkup.Decimal

/-- The finite number `significand * 2 ^ exponent`. -/
structure Binary where
  significand : Nat
  exponent : Int
  /-- The gap below the number is half the gap above it. -/
  narrowBelow : Bool
  deriving DecidableEq

/-- The number with the given bits, its sign dropped; not meant for infinities and NaN. -/
def Binary.ofBits (bits : UInt64) : Binary :=
  let e := ((bits >>> 52) &&& 0x7FF).toNat
  let f := (bits &&& 0xFFFFFFFFFFFFF).toNat
  if e == 0 then ⟨f, -1074, false⟩ else ⟨0x10000000000000 + f, (e : Int) - 1075, f == 0 && 1 < e⟩

/-- The number `digits * 10 ^ exponent`. -/
structure Scaled where
  digits : Nat
  exponent : Int
  deriving DecidableEq

/-- The power of a base; a negative exponent counts as zero. -/
def power (base : Nat) (exponent : Int) : Nat := Nat.pow base exponent.toNat

/-- Compares `a * 10 ^ i` with `n * 2 ^ j`: negative exponents change sides. -/
def compareScaled (a : Nat) (i : Int) (n : Nat) (j : Int) : Ordering :=
  compare (a * power 10 i * power 2 (-j)) (n * power 2 j * power 10 (-i))

/-- The decimal is one of the reals that round to the number: nearest, and ties to an even
significand, so that the ends of the interval belong to it just when the significand is even. -/
def Binary.readsBack (x : Binary) (d : Scaled) : Bool :=
  let below := if x.narrowBelow then 4 * x.significand - 1 else 4 * x.significand - 2
  let above := 4 * x.significand + 2
  let closed := x.significand % 2 == 0
  let low := compareScaled d.digits d.exponent below (x.exponent - 2)
  let high := compareScaled d.digits d.exponent above (x.exponent - 2)
  (low == .gt || (closed && low == .eq)) && (high == .lt || (closed && high == .eq))

/-- The whole part of the number divided by `10 ^ k`. -/
def Binary.floorScaled (x : Binary) (k : Int) : Nat :=
  (x.significand * power 2 x.exponent * power 10 (-k)) / (power 2 (-x.exponent) * power 10 k)

/-- Of two neighbouring grid points that both read back the nearer one, at a tie the even one. -/
def Binary.nearer (x : Binary) (low : Nat) (grid : Int) : Nat :=
  match compareScaled (2 * low + 1) grid (2 * x.significand) x.exponent with
  | .lt => low + 1
  | .gt => low
  | .eq => if low % 2 = 0 then low else low + 1

/-- A point of the grid `10 ^ grid` that reads back: one of the two neighbours of the number. -/
def Binary.onGrid? (x : Binary) (grid : Int) : Option Scaled :=
  let low := x.floorScaled grid
  match x.readsBack ⟨low, grid⟩, x.readsBack ⟨low + 1, grid⟩ with
  | true, true => some ⟨x.nearer low grid, grid⟩
  | true, false => some ⟨low, grid⟩
  | false, true => some ⟨low + 1, grid⟩
  | false, false => none

/-- The least `k` with the number below `10 ^ k`: every finite number is above `10 ^ -400`. -/
def Binary.scale (x : Binary) : Int :=
  ((Nat.toDigits 10 (x.floorScaled (-400))).length : Int) - 400

/-- The number itself, as a decimal. -/
def Binary.exact (x : Binary) : Scaled :=
  ⟨x.significand * power 2 x.exponent * power 5 (-x.exponent), min x.exponent 0⟩

/-- Moves trailing zeros of the digits into the exponent. -/
def Scaled.strip : Nat → Scaled → Scaled
  | 0, d => d
  | fuel + 1, d =>
    if d.digits ≠ 0 ∧ d.digits % 10 = 0 then Scaled.strip fuel ⟨d.digits / 10, d.exponent + 1⟩ else d

/-- The shortest decimal of a number other than zero. Seventeen digits are enough for each; should
none read back, the exact value stands in. -/
def Binary.shortest (x : Binary) : Scaled :=
  let top := x.scale
  let d := ((List.range 17).findSome? fun (n : Nat) => x.onGrid? (top - ((n : Int) + 1))).getD x.exact
  d.strip 1100

end ExprMarkup.Decimal
