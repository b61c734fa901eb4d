import Reflex.Double.Decimal

/-! The shortest decimal text of a double: the fewest digits that read back, the
nearest of these to the exact number, and the even one of two equally near. -/
namespace Reflex.Double

/-- The exponent of the first decimal digit of `m` units, for a positive `m` below one:
the least number of tenfold steps that reach one, at most `fuel` of them. -/
def stepsToOne : Nat → Nat → Nat
  | 0, _ => 0
  | fuel + 1, m => if one ≤ m then 0 else stepsToOne fuel (10 * m) + 1

def leadingExponent (m : Nat) : Int :=
  if one ≤ m then (Decimal.width (m / one) : Int) - 1 else -(stepsToOne 330 m : Int)

/-- The magnitude that a multiple of a power of ten reads back as. -/
def magnitudeOf (x : Decimal) : Option Nat :=
  (x.toDouble false).map (·.magnitude)

/-- The neighbours of `m` units on the grid of multiples of `10 ^ exponent`, when one of
them reads back as `m`; the nearer one if both do. -/
def onGrid (m : Nat) (exponent : Int) : Option Decimal :=
  let (num, den) := if 0 ≤ exponent then (m, one * Nat.pow 10 exponent.toNat)
    else (m * Nat.pow 10 exponent.natAbs, one)
  let below := num / den
  let twice := 2 * (num % den)
  let low : Decimal := ⟨below, exponent⟩
  let high : Decimal := ⟨below + 1, exponent⟩
  match magnitudeOf low == some m && below != 0, magnitudeOf high == some m with
  | true, true =>
    some (if twice < den ∨ twice = den ∧ below % 2 = 0 then low else high)
  | true, false => some low
  | false, true => some high
  | false, false => none

/-- The first grid with a neighbour that reads back, from the coarsest of `fuel` grids. -/
def firstGrid (m : Nat) : Nat → Int → Decimal
  | 0, exponent => ⟨m, exponent⟩
  | fuel + 1, exponent => (onGrid m exponent).getD (firstGrid m fuel (exponent - 1))

def dropZeros : Nat → Decimal → Decimal
  | 0, x => x
  | fuel + 1, x =>
    if x.digits % 10 = 0 then dropZeros fuel ⟨x.digits / 10, x.exponent + 1⟩ else x

/-- The shortest decimal that reads back as the positive magnitude `m`. -/
def shortest (m : Nat) : Decimal := dropZeros 20 (firstGrid m 17 (leadingExponent m))

/-- Where a number stops being written out and gets an exponent. -/
structure Layout where
  least : Int
  greatest : Int

/-- Numbers whose first digit stands from the fifth place after the point to the sixteenth
place before it are written out. -/
def layout : Layout := ⟨-5, 15⟩

def plain (digits : List Char) (leading : Int) : List Char :=
  if leading < 0 then
    '0' :: '.' :: (List.replicate (leading.natAbs - 1) '0' ++ digits)
  else
    let whole := leading.toNat + 1
    let fraction := digits.drop whole
    digits.take whole ++ List.replicate (whole - digits.length) '0' ++ '.' ::
      (if fraction.isEmpty then ['0'] else fraction)

def scientific (digits : List Char) (leading : Int) : List Char :=
  let fraction := digits.drop 1
  digits.take 1 ++ (if fraction.isEmpty then [] else '.' :: fraction) ++
    'e' :: (if leading < 0 then '-' else '+') :: Nat.toDigits 10 leading.natAbs

def render (x : Double) : String :=
  let sign := if x.negative then ['-'] else []
  if x.magnitude = 0 then String.ofList (sign ++ ['0', '.', '0'])
  else
    let short := shortest x.magnitude
    let digits := Nat.toDigits 10 short.digits
    let leading := short.leading
    String.ofList <| sign ++
      if layout.least ≤ leading ∧ leading ≤ layout.greatest then plain digits leading
      else scientific digits leading

end Reflex.Double
