import ExprMarkup.Decimal.Shortest

namespace ExprMarkup.Decimal

/-- Integers with more digits than this have no decimal text. -/
def digitLimit : Nat := 4300

def withinLimit (n : Int) : Bool := n.natAbs < power 10 digitLimit

def natDigits (n : Nat) : List Char := Nat.toDigits 10 n

def intChars (n : Int) : List Char :=
  if n < 0 then '-' :: natDigits n.natAbs else natDigits n.natAbs

def intText (n : Int) : String := String.ofList (intChars n)

def zeros (n : Nat) : List Char := List.replicate n '0'

/-- The exponent part: sign, then at least two digits. -/
def exponentChars (e : Int) : List Char :=
  let digits := natDigits e.natAbs
  'e' :: (if e < 0 then '-' else '+') :: (zeros (2 - digits.length) ++ digits)

/-- Lays out the digits of a number other than zero, positionally or, where its first digit has an exponent
below -4 or above 15, with an exponent. With `pointZero` a whole number ends in `.0`. -/
def layout (pointZero : Bool) (d : Scaled) : List Char :=
  let digits := natDigits d.digits
  let lead := (digits.length : Int) - 1 + d.exponent
  if -4 ≤ lead && lead < 16 then
    if lead < 0 then '0' :: '.' :: (zeros (-lead - 1).toNat ++ digits)
    else if 0 ≤ d.exponent then
      digits ++ zeros d.exponent.toNat ++ (if pointZero then ['.', '0'] else [])
    else digits.take (lead.toNat + 1) ++ '.' :: digits.drop (lead.toNat + 1)
  else
    let mantissa := match digits with
      | [] => []
      | [c] => [c]
      | c :: more => c :: '.' :: more
    mantissa ++ exponentChars lead

def isNegative (x : Float) : Bool := x.toBits >>> 63 == 1

/-- Sign, then digits; the special values have names of their own. -/
def floatChars (pointZero : Bool) (x : Float) : List Char :=
  if x.isNaN then ['n', 'a', 'n']
  else
    let body :=
      if x.isInf then ['i', 'n', 'f']
      else
        let b := Binary.ofBits x.toBits
        if b.significand = 0 then (if pointZero then ['0', '.', '0'] else ['0'])
        else layout pointZero b.shortest
    if isNegative x then '-' :: body else body

def floatText (x : Float) : String := String.ofList (floatChars true x)

/-- A complex number: the imaginary part alone if the real part is zero, else both in parentheses. -/
def complexText (re im : Float) : String :=
  let imaginary := floatChars false im
  if re.toBits == 0 then String.ofList (imaginary ++ ['j'])
  else
    let sign := if im.isNaN || !isNegative im then ['+'] else []
    String.ofList ('(' :: floatChars false re ++ sign ++ imaginary ++ ['j', ')'])

end ExprMarkup.Decimal
