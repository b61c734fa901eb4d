import Reflex.Text.Blank

/-! Days of the proleptic Gregorian calendar, numbered from 1970-01-01. Years are
counted from March inside the conversion, so the leap day ends a year. -/
namespace Reflex

structure Date where
  year : Int
  month : Nat
  day : Nat
deriving Repr, DecidableEq

namespace Date

def isLeap (year : Int) : Bool := year % 4 == 0 && (year % 100 != 0 || year % 400 == 0)

def daysInMonth (year : Int) (month : Nat) : Nat :=
  if month = 2 then (if isLeap year then 29 else 28)
  else if month = 4 ∨ month = 6 ∨ month = 9 ∨ month = 11 then 30
  else 31

/-- The day after the last day of February, as a day number, for year 0. -/
def epochShift : Int := 719468

/-- Days in four hundred years. -/
def cycle : Int := 146097

/-- The day number of a date. -/
def toDay (date : Date) : Int :=
  let year := if date.month ≤ 2 then date.year - 1 else date.year
  let place := if date.month ≤ 2 then date.month + 9 else date.month - 3
  let era := year / 400
  let yearOfEra := year % 400
  let dayOfYear : Int := (153 * place + 2) / 5 + date.day - 1
  era * cycle + (yearOfEra * 365 + yearOfEra / 4 - yearOfEra / 100 + dayOfYear) - epochShift

/-- The date of a day number. -/
def ofDay (day : Int) : Date :=
  let shifted := day + epochShift
  let era := shifted / cycle
  let dayOfEra := (shifted % cycle).toNat
  let yearOfEra := (dayOfEra - dayOfEra / 1460 + dayOfEra / 36524 - dayOfEra / 146096) / 365
  let dayOfYear := dayOfEra - (365 * yearOfEra + yearOfEra / 4 - yearOfEra / 100)
  let place := (5 * dayOfYear + 2) / 153
  let month := if place < 10 then place + 3 else place - 9
  let year : Int := yearOfEra + era * 400
  ⟨if month ≤ 2 then year + 1 else year, month, dayOfYear - (153 * place + 2) / 5 + 1⟩

/-- Dates from the first to the last representable year that the calendar has. -/
def isValid (date : Date) : Bool :=
  decide (-262143 ≤ date.year) && decide (date.year ≤ 262142) &&
    decide (1 ≤ date.month) && decide (date.month ≤ 12) &&
    decide (1 ≤ date.day) && decide (date.day ≤ daysInMonth date.year date.month)

/-- Four digits; years outside 0 to 9999 carry a sign. -/
def renderYear (year : Int) : String :=
  if 0 ≤ year ∧ year ≤ 9999 then Text.padded 4 year.toNat
  else (if year < 0 then "-" else "+") ++ Text.padded 4 year.natAbs

def render (date : Date) : String :=
  renderYear date.year ++ "-" ++ Text.padded 2 date.month ++ "-" ++ Text.padded 2 date.day

end Date

end Reflex
