import Reflex.Double
import Reflex.Text.Blank

/-! Decimal numerals and their nearest doubles. A numeral is a natural number of
units of a power of ten, so rounding is one exact quotient. -/
namespace Reflex

/-- `digits * 10 ^ exponent`. -/
structure Decimal where
  digits : Nat
  exponent : Int
deriving Repr, DecidableEq

namespace Decimal

/-- The number of decimal digits, one for zero. -/
def width (n : Nat) : Nat := (Nat.toDigits 10 n).length

/-- The exponent of the first digit. -/
def leading (x : Decimal) : Int := x.exponent + width x.digits - 1

/-- The nearest double with the given sign; `none` beyond the largest. A numeral whose first
digit stands far outside the range of doubles is not expanded. -/
def toDouble (negative : Bool) (x : Decimal) : Option Double :=
  if x.digits = 0 ∨ x.leading < -330 then some ⟨negative, 0⟩
  else if 310 < x.leading then none
  else if 0 ≤ x.exponent then Double.ofQuotient negative (x.digits * Nat.pow 10 x.exponent.toNat) 1
  else Double.ofQuotient negative x.digits (Nat.pow 10 x.exponent.natAbs)

/-- A run of digits from the front, with the number they write. -/
def spanDigits (s : List Char) : List Char × List Char := s.span Char.isDigit

/-- A sign from the front: whether it is a minus, and the rest. -/
def spanSign : List Char → Bool × List Char
  | '-' :: rest => (true, rest)
  | '+' :: rest => (false, rest)
  | s => (false, s)

/-- An exponent part, or nothing: `e` in either case, an optional sign, and digits. -/
def readExponent : List Char → Option Int
  | [] => some 0
  | c :: rest =>
    if c = 'e' ∨ c = 'E' then
      let (negative, digits) := spanSign rest
      (Text.numeral digits).map fun n => if negative then -(n : Int) else n
    else none

/-- An unsigned numeral: digits with at most one point and at least one digit, then an
optional exponent. -/
def read (s : List Char) : Option Decimal :=
  let (whole, rest) := spanDigits s
  let (fraction, rest) := match rest with
    | '.' :: rest => spanDigits rest
    | rest => ([], rest)
  do
    let digits ← Text.numeral (whole ++ fraction)
    let exponent ← readExponent rest
    return ⟨digits, exponent - fraction.length⟩

end Decimal

/-- A finite double written with an optional sign and a decimal numeral. -/
def Double.read (s : List Char) : Option Double :=
  let (negative, rest) := Decimal.spanSign s
  (Decimal.read rest).bind (·.toDouble negative)

end Reflex
