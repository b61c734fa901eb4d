import Reflex.Proofs.Agenda
import Reflex.Time.OfDay

/-! The calendar tells days apart: the date of a day number gives the number back. A second is
then given by its date and its place in the day. The dates of representable instants are those
that the calendar has. -/
namespace Reflex

namespace Date

/-- The year of an era, which is four hundred years, that holds a day of it. -/
def yearOf (d : Nat) : Nat := (d - d / 1460 + d / 36524 - d / 146096) / 365

/-- The days of an era before a year of it. -/
def yearStart (y : Nat) : Nat := 365 * y + y / 4 - y / 100

/-- Within a century leap days are regular. -/
theorem yearOf_century {c r : Nat} (within : c < 4) (rest : r < 36524) :
    ∃ z, z < 100 ∧ yearOf (36524 * c + r) = 100 * c + z ∧ 365 * z + z / 4 ≤ r ∧
      r < 365 * (z + 1) + (z + 1) / 4 := by
  have leaps : (36524 * c + r) / 1460 = 25 * c + (24 * c + r) / 1460 := by omega
  have century : (36524 * c + r) / 36524 = c := by omega
  have era : (36524 * c + r) / 146096 = 0 := by omega
  have year : yearOf (36524 * c + r) = (36500 * c + (r - (24 * c + r) / 1460)) / 365 := by
    rw [yearOf, leaps, century, era]
    congr 1
    omega
  refine ⟨(r - (24 * c + r) / 1460) / 365, ?_, ?_, ?_, ?_⟩
  · omega
  · omega
  · omega
  · omega

/-- The last day of an era is a leap day in a year that otherwise has none. -/
theorem yearOf_spec {d : Nat} (within : d < 146097) :
    yearOf d < 400 ∧ yearStart (yearOf d) ≤ d ∧ (d < yearStart (yearOf d + 1) ∨ d = 146096) := by
  by_cases last : d = 146096
  · subst last
    decide
  · obtain ⟨z, small, year, low, high⟩ :=
      yearOf_century (c := d / 36524) (r := d % 36524) (by omega) (by omega)
    rw [Nat.div_add_mod] at year
    have quarters : (100 * (d / 36524) + z) / 4 = 25 * (d / 36524) + z / 4 := by omega
    have next : (100 * (d / 36524) + z + 1) / 4 = 25 * (d / 36524) + (z + 1) / 4 := by omega
    have centuries : (100 * (d / 36524) + z) / 100 = d / 36524 := by omega
    rw [year, yearStart, yearStart, quarters, next, centuries]
    omega

/-- The date of a day of a year, in years that begin in March. -/
def ofPlace (era : Int) (y rest : Nat) : Date :=
  let place := (5 * rest + 2) / 153
  let month := if place < 10 then place + 3 else place - 9
  let year : Int := y + era * 400
  ⟨if month ≤ 2 then year + 1 else year, month, rest - (153 * place + 2) / 5 + 1⟩

/-- The days before a day in its year are fewer than the year has. -/
structure Place (y rest : Nat) : Prop where
  year : y < 400
  day : yearStart y + rest < yearStart (y + 1) ∨ y = 399 ∧ rest = 365

variable {y rest : Nat}

theorem Place.rest_le (place : Place y rest) : rest ≤ 365 := by
  have day := place.day
  simp only [yearStart] at day
  omega

/-- A year that begins in March ends with the leap day of the next one. -/
theorem Place.isLeap (place : Place y rest) (era : Int) (last : rest = 365) :
    isLeap (y + era * 400 + 1) = true := by
  have small := place.year
  have day := place.day
  simp only [yearStart] at day
  simp only [Date.isLeap, Bool.and_eq_true, Bool.or_eq_true, beq_iff_eq, bne_iff_ne, ne_eq]
  omega

theorem exists_ofPlace (day : Int) : ∃ era y rest, Place y rest ∧
    day + 719468 = era * 146097 + (yearStart y + rest : Nat) ∧ ofDay day = ofPlace era y rest := by
  have bound : ((day + 719468) % 146097).toNat < 146097 := by omega
  obtain ⟨small, low, high⟩ := yearOf_spec bound
  refine ⟨(day + 719468) / 146097, yearOf ((day + 719468) % 146097).toNat,
    ((day + 719468) % 146097).toNat - yearStart (yearOf ((day + 719468) % 146097).toNat),
    ⟨small, ?_⟩, ?_, rfl⟩
  · rcases high with before | last
    · omega
    · right
      rw [last]
      decide
  · omega

/-- From March to December. -/
theorem ofPlace_early (era : Int) (y : Nat) {rest : Nat} (early : rest < 306) :
    ofPlace era y rest = ⟨y + era * 400, (5 * rest + 2) / 153 + 3,
      rest - (153 * ((5 * rest + 2) / 153) + 2) / 5 + 1⟩ := by
  have place : (5 * rest + 2) / 153 < 10 := by omega
  have month : ¬ (5 * rest + 2) / 153 + 3 ≤ 2 := by omega
  simp only [ofPlace, if_pos place, if_neg month]

/-- January and February. -/
theorem ofPlace_late (era : Int) (y : Nat) {rest : Nat} (late : ¬ rest < 306)
    (within : rest ≤ 365) :
    ofPlace era y rest = ⟨y + era * 400 + 1, (5 * rest + 2) / 153 - 9,
      rest - (153 * ((5 * rest + 2) / 153) + 2) / 5 + 1⟩ := by
  have place : ¬ (5 * rest + 2) / 153 < 10 := by omega
  have month : (5 * rest + 2) / 153 - 9 ≤ 2 := by omega
  simp only [ofPlace, if_neg place, if_pos month]

theorem toDay_ofPlace (era : Int) (place : Place y rest) :
    (ofPlace era y rest).toDay = era * 146097 + (yearStart y + rest) - 719468 := by
  have small := place.year
  have within := place.rest_le
  have years : ((y : Int) + era * 400) / 400 = era := by omega
  have left : ((y : Int) + era * 400) % 400 = y := by omega
  have start : (yearStart y : Int) = y * 365 + (y : Int) / 4 - (y : Int) / 100 := by
    rw [yearStart]
    omega
  rw [start]
  by_cases early : rest < 306
  · have month : ¬ (5 * rest + 2) / 153 + 3 ≤ 2 := by omega
    rw [ofPlace_early era y early]
    simp only [toDay, cycle, epochShift, if_neg month, years, left]
    omega
  · have month : (5 * rest + 2) / 153 - 9 ≤ 2 := by omega
    rw [ofPlace_late era y early within]
    simp only [toDay, cycle, epochShift, if_pos month, Int.add_sub_cancel, years, left]
    omega

theorem toDay_ofDay (day : Int) : (ofDay day).toDay = day := by
  obtain ⟨era, y, rest, place, number, parts⟩ := exists_ofPlace day
  rw [parts, toDay_ofPlace era place]
  omega

theorem ofDay_month (day : Int) : 1 ≤ (ofDay day).month ∧ (ofDay day).month ≤ 12 := by
  obtain ⟨era, y, rest, place, -, parts⟩ := exists_ofPlace day
  have within := place.rest_le
  rw [parts]
  by_cases early : rest < 306
  · rw [ofPlace_early era y early]
    dsimp only
    omega
  · rw [ofPlace_late era y early within]
    dsimp only
    omega

theorem ofDay_day (day : Int) : 1 ≤ (ofDay day).day ∧
    (ofDay day).day ≤ daysInMonth (ofDay day).year (ofDay day).month := by
  obtain ⟨era, y, rest, place, -, parts⟩ := exists_ofPlace day
  have within := place.rest_le
  rw [parts]
  by_cases early : rest < 306
  · have month : ¬ (5 * rest + 2) / 153 + 3 = 2 := by omega
    rw [ofPlace_early era y early]
    simp only [daysInMonth, if_neg month]
    refine ⟨by omega, ?_⟩
    split <;> omega
  · have leap := place.isLeap era
    rw [ofPlace_late era y early within]
    simp only [daysInMonth]
    refine ⟨by omega, ?_⟩
    split
    · split
      · omega
      · rename_i common
        have before : rest ≠ 365 := fun last => common (leap last)
        omega
    · split <;> omega

theorem daysInMonth_le (year : Int) (month : Nat) : daysInMonth year month ≤ 31 := by
  unfold daysInMonth
  repeat' split
  all_goals omega

/-- The days before a year that begins in March, counted from the year 0. -/
def daysBefore (n : Int) : Int := 365 * n + n / 4 - n / 100 + n / 400

theorem daysBefore_le {m n : Int} (le : m ≤ n) : daysBefore m ≤ daysBefore n := by
  simp only [daysBefore]
  omega

/-- A year reaches from March over the end of the year in which it began. -/
theorem daysBefore_lt {m n : Int} (less : m < n) : daysBefore m + 306 ≤ daysBefore n := by
  simp only [daysBefore]
  omega

theorem Place.lt_daysBefore (place : Place y rest) (era : Int) :
    daysBefore (y + era * 400) + rest < daysBefore (y + era * 400 + 1) := by
  have small := place.year
  have day := place.day
  simp only [yearStart] at day
  simp only [daysBefore]
  omega

theorem toDay_newYear (year : Int) :
    (⟨year, 1, 1⟩ : Date).toDay = daysBefore (year - 1) + 306 - epochShift := by
  have early : 1 ≤ 2 := by decide
  simp only [toDay, cycle, daysBefore, if_pos early]
  omega

/-- A year has come from its first of January on. -/
theorem le_year_ofDay {year day : Int} :
    year ≤ (ofDay day).year ↔ (⟨year, 1, 1⟩ : Date).toDay ≤ day := by
  obtain ⟨era, y, rest, place, number, parts⟩ := exists_ofPlace day
  have within := place.rest_le
  have next := place.lt_daysBefore era
  have start : era * 146097 + (yearStart y : Nat) = daysBefore (y + era * 400) := by
    have small := place.year
    simp only [yearStart, daysBefore]
    omega
  rw [parts, toDay_newYear, epochShift]
  by_cases early : rest < 306
  · rw [ofPlace_early era y early]
    dsimp only
    constructor
    · intro come
      have whole := daysBefore_lt (m := year - 1) (n := y + era * 400) (by omega)
      omega
    · intro come
      refine Int.not_lt.mp fun ahead => ?_
      have before := daysBefore_le (m := y + era * 400) (n := year - 1) (by omega)
      omega
  · rw [ofPlace_late era y early within]
    dsimp only
    constructor
    · intro come
      have before := daysBefore_le (m := year - 1) (n := y + era * 400) (by omega)
      omega
    · intro come
      refine Int.not_lt.mp fun ahead => ?_
      have before := daysBefore_le (m := y + era * 400 + 1) (n := year - 1) (by omega)
      omega

/-- The dates of day numbers are dates of the calendar as far as its years reach. -/
theorem isValid_ofDay (day : Int) : (ofDay day).isValid = true ↔
    (⟨-262143, 1, 1⟩ : Date).toDay ≤ day ∧ day < (⟨262143, 1, 1⟩ : Date).toDay := by
  have upper : (ofDay day).year ≤ 262142 ↔ ¬ 262143 ≤ (ofDay day).year := by omega
  simp only [isValid, Bool.and_eq_true, decide_eq_true_eq, ofDay_month day, ofDay_day day,
    and_true, upper, le_year_ofDay, Int.not_le]

end Date

namespace Instant

variable {t u : Instant}

theorem day_eq_of_date (same : t.date = u.date) : t.day = u.day := by
  have numbers := congrArg Date.toDay same
  rwa [date, date, Date.toDay_ofDay, Date.toDay_ofDay] at numbers

theorem eq_of_date (whole : t.Whole) (other : u.Whole) (same : t.date = u.date)
    (place : t.secondOfDay = u.secondOfDay) : t = u := by
  have nanos := whole.nanos
  have otherNanos := other.nanos
  have days := day_eq_of_date same
  simp only [secondOfDay, Instant.day, second_eq] at days place
  rw [eq_iff]
  omega

theorem representable_iff (t : Instant) : t.Representable ↔ t.date.isValid = true := by
  have first : (⟨-262143, 1, 1⟩ : Date).toDay = -96465292 := by decide
  have beyond : (⟨262143, 1, 1⟩ : Date).toDay = 95026237 := by decide
  rw [date, Date.isValid_ofDay, first, beyond, Representable, le_iff, le_iff, day, second_eq]
  dsimp only [earliest, latest]
  omega

theorem secondOfDay_eq (t : Instant) :
    t.secondOfDay = (TimeOfDay.of t).minutes * 60 + t.secondOfMinute := by
  have bound : t.secondOfDay < 86400 := by
    simp only [secondOfDay]
    omega
  simp only [TimeOfDay.minutes, TimeOfDay.of, hour, minute, secondOfMinute, Fin.val_ofNat]
  omega

end Instant

end Reflex
