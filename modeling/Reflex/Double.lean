import Reflex.Word

/-! Finite binary64 numbers by sign and magnitude. The magnitude counts units of
2^-1074, the spacing of the smallest numbers, so every finite double has an exact
natural magnitude and comparison is comparison of integers. -/
namespace Reflex

structure Double where
  negative : Bool
  magnitude : Nat
deriving Repr, DecidableEq

namespace Double

/-- Units of 2^-1074 in one. -/
def one : Nat := Nat.pow 2 1074

/-- The first magnitude beyond the largest finite double. -/
def overflow : Nat := Nat.pow 2 2098

def zero : Double := ⟨false, 0⟩

def neg (x : Double) : Double := ⟨!x.negative, x.magnitude⟩

/-- The signed number of units: both zeros have the same. -/
def units (x : Double) : Int := if x.negative then -x.magnitude else x.magnitude

/-- Numeric equality, under which the two zeros agree. -/
def eq (x y : Double) : Bool := x.units == y.units

def lt (x y : Double) : Bool := decide (x.units < y.units)

def le (x y : Double) : Bool := decide (x.units ≤ y.units)

def isZero (x : Double) : Bool := x.magnitude == 0

/-- The quotient of naturals to the nearest natural, a half going to the even one. -/
def nearest (num den : Nat) : Nat :=
  let q := num / den
  let twice := 2 * (num % den)
  if twice < den then q else if den < twice then q + 1 else if q % 2 = 0 then q else q + 1

/-- The spacing of doubles, in units, at a magnitude whose whole part is `n`. -/
def spacing (n : Nat) : Nat := Nat.pow 2 (Nat.log2 n - 52)

/-- The double magnitude nearest to `num / den` units; `none` beyond the largest double. -/
def roundMagnitude (num den : Nat) : Option Nat :=
  let step := spacing (num / den)
  let rounded := nearest num (den * step) * step
  if rounded < overflow then some rounded else none

/-- The double nearest to a quotient, for a positive denominator. -/
def ofQuotient (negative : Bool) (num den : Nat) : Option Double :=
  (roundMagnitude (num * one) den).map (⟨negative, ·⟩)

/-- The double nearest to an integer of at most 64 bits. -/
def ofInt (n : Int) : Double :=
  ⟨decide (n < 0), (roundMagnitude (n.natAbs * one) 1).getD 0⟩

/-- Product of magnitudes, rounded once. -/
def scaleUp (x y : Nat) : Option Nat := roundMagnitude (x * y) one

/-- Quotient of magnitudes, rounded once. -/
def scaleDown (x y : Nat) : Option Nat := roundMagnitude (x * one) y

/-- The interchange encoding in 64 bits. -/
def toBits (x : Double) : Nat :=
  let sign := if x.negative then Word.half64 else 0
  let shift := Nat.log2 x.magnitude - 52
  if x.magnitude < Nat.pow 2 52 then sign + x.magnitude
  else sign + (shift + 1) * Nat.pow 2 52 + (x.magnitude / Nat.pow 2 shift - Nat.pow 2 52)

end Double

end Reflex
