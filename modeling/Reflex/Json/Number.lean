import Reflex.Value
import Reflex.Word

/-! Numbers in JSON text. A number without fraction and exponent that fits 64 bits is
an integer, any other a double. The digits of a double are kept as long as they fit
64 bits; the kept digits are rounded once and then scaled by rounded powers of ten. -/
namespace Reflex.Json

/-- The significand after `n` extended by digits while it stays below 2^64, and how many
digits it took. -/
def extend (n : Nat) : List Char → Nat × Nat
  | [] => (n, 0)
  | c :: rest =>
    let next := 10 * n + ((Text.digitOf c).getD 0)
    if next < Word.size64 then
      let (m, taken) := extend next rest
      (m, taken + 1)
    else (n, 0)

/-- The double for a power of ten, at most the 308th. -/
def powerOfTen (n : Nat) : Nat :=
  ((Decimal.toDouble false ⟨1, n⟩).map (·.magnitude)).getD 0

/-- Scales a magnitude by a power of ten in steps of at most 308 places. -/
def scale : Nat → Nat → Int → Option Nat
  | 0, _, _ => none
  | fuel + 1, m, exponent =>
    if exponent.natAbs ≤ 308 then
      if 0 ≤ exponent then Double.scaleUp m (powerOfTen exponent.natAbs)
      else Double.scaleDown m (powerOfTen exponent.natAbs)
    else if m = 0 then some 0
    else if 0 ≤ exponent then none
    else (Double.scaleDown m (powerOfTen 308)).bind (scale fuel · (exponent + 308))

def doubleOf (negative : Bool) (significand : Nat) (exponent : Int) : Option Double :=
  (scale 8 (Double.ofInt significand).magnitude exponent).map (⟨negative, ·⟩)

/-- The value written by a sign, whole digits, fraction digits and an exponent; `none` for
the last two when they are missing. -/
def number (negative : Bool) (whole : List Char) (fraction : Option (List Char))
    (exponent : Option Int) : Option Value :=
  let (significand, kept) := extend 0 whole
  let dropped : Int := whole.length - kept
  match fraction, exponent with
  | none, none =>
    if dropped = 0 ∧ !negative then some (.int significand)
    else if dropped = 0 ∧ 0 < significand ∧ significand ≤ Word.half64 then
      some (.int (-significand))
    else (doubleOf negative significand dropped).map .double
  | fraction, exponent =>
    let (significand, kept) := extend significand (fraction.getD [])
    (doubleOf negative significand (dropped - kept + exponent.getD 0)).map .double

/-- An exponent part from the front, if there is one: `none` when it has no digits. -/
def spanExponent : List Char → Option (Option Int × List Char)
  | c :: rest =>
    if c = 'e' ∨ c = 'E' then
      let (negative, rest) := Decimal.spanSign rest
      let (digits, rest) := Decimal.spanDigits rest
      (Text.numeral digits).map fun n => (some (if negative then -(n : Int) else n), rest)
    else some (none, c :: rest)
  | [] => some (none, [])

/-- A number from the front, and the rest. -/
def spanNumber (s : List Char) : Option (Value × List Char) := do
  let (negative, s) := match s with
    | '-' :: rest => (true, rest)
    | s => (false, s)
  let (whole, rest) := Decimal.spanDigits s
  guard (!whole.isEmpty && (whole.head? != some '0' || whole.length == 1))
  let (fraction, rest) ← match rest with
    | '.' :: rest =>
      let (digits, rest) := Decimal.spanDigits rest
      if digits.isEmpty then none else some (some digits, rest)
    | rest => some (none, rest)
  let (exponent, rest) ← spanExponent rest
  return (← number negative whole fraction exponent, rest)

end Reflex.Json
