import Mathlib.Data.Nat.Find
import Reflex.Proofs.Agenda
import Reflex.Schedule

/-! How far apart the seconds are at which a schedule is due. Periods are counted from the start of
a round, and in every window of one period there is a due second. -/
namespace Reflex

/-- How many values the clock field of a unit has. -/
def TimeUnit.fieldSize : TimeUnit → Nat
  | second => 60
  | minute => 60
  | hour => 24

namespace Instant

theorem secondOfMinute_lt (t : Instant) : t.secondOfMinute < 60 := Nat.mod_lt _ (by decide)

theorem minute_lt (t : Instant) : t.minute < 60 := Nat.mod_lt _ (by decide)

theorem second_of_minute (t : Instant) : t.second % 60 = (t.secondOfMinute : Nat) := by
  simp only [secondOfMinute, secondOfDay]
  omega

theorem second_of_hour (t : Instant) :
    t.second % 3600 = (t.minute * 60 + t.secondOfMinute : Nat) := by
  simp only [minute, secondOfMinute, secondOfDay]
  omega

theorem second_of_day (t : Instant) :
    t.second % 86400 = (t.hour * 3600 + (t.minute * 60 + t.secondOfMinute) : Nat) := by
  simp only [hour, minute, secondOfMinute, secondOfDay]
  omega

theorem whole_ofSecond (n : Int) : (ofSecond n).Whole := by
  have second : (ofSecond n).second = n := Int.mul_ediv_cancel n (by decide)
  rw [Whole, truncate, second]

theorem exists_addSeconds {t u : Instant} (whole : t.Whole) (other : u.Whole) (le : t ≤ u) :
    ∃ k, t.addSeconds k = u := by
  have wholes := And.intro whole.nanos other.nanos
  rw [le_iff] at le
  refine ⟨((u.nanos - t.nanos) / 1000000000).toNat, ?_⟩
  rw [eq_iff, addSeconds_nanos]
  omega

end Instant

namespace Schedule

/-- The seconds after which periods are counted anew: as many as the clock field of the unit takes
to come round if it can step by the count, and those of one period if not. -/
def round (s : Schedule) : Nat :=
  if s.isAligned then s.unit.fieldSize * s.unit.seconds else s.periodSeconds

/-- A whole second in the window of one period that starts at an instant. -/
structure InWindow (s : Schedule) (t u : Instant) : Prop where
  whole : u.Whole
  starts : t ≤ u
  ends : u.nanos < t.nanos + s.period.nanos

/-- Two whole seconds at which a schedule is due, and between them it is not. -/
structure Consecutive (s : Schedule) (t u : Instant) : Prop where
  first : t.Whole ∧ s.isDue t = true
  next : u.Whole ∧ s.isDue u = true
  ordered : t < u
  between : ∀ v : Instant, v.Whole → t < v → v < u → s.isDue v = false

variable {s : Schedule} {t u : Instant}

/-! Being due, by the place in a round. -/

theorem dvd_split {n k m r : Nat} (within : r < k) : n * k ∣ m * k + r ↔ r = 0 ∧ n ∣ m := by
  constructor
  · intro divides
    have units : k ∣ r :=
      (Nat.dvd_add_right (Nat.dvd_mul_left k m)).mp (Nat.dvd_trans (Nat.dvd_mul_left k n) divides)
    obtain rfl := Nat.eq_zero_of_dvd_of_lt units within
    exact ⟨rfl, Nat.dvd_of_mul_dvd_mul_right within divides⟩
  · rintro ⟨rfl, divides⟩
    exact Nat.mul_dvd_mul_right divides k

theorem isDue_round (s : Schedule) (t : Instant) :
    s.isDue t = true ↔ (s.periodSeconds : Int) ∣ t.second % s.round := by
  have seconds := t.secondOfMinute_lt
  have minutes := t.minute_lt
  unfold isDue round periodSeconds
  split
  · cases s.unit with
    | second =>
      rw [show ((TimeUnit.second.fieldSize * TimeUnit.second.seconds : Nat) : Int) = 60 from rfl,
        t.second_of_minute, Int.natCast_dvd_natCast, TimeUnit.seconds, Nat.mul_one,
        Nat.dvd_iff_mod_eq_zero, beq_iff_eq]
    | minute =>
      rw [show ((TimeUnit.minute.fieldSize * TimeUnit.minute.seconds : Nat) : Int) = 3600 from rfl,
        t.second_of_hour, Int.natCast_dvd_natCast, TimeUnit.seconds, dvd_split seconds,
        Nat.dvd_iff_mod_eq_zero]
      simp
    | hour =>
      rw [show ((TimeUnit.hour.fieldSize * TimeUnit.hour.seconds : Nat) : Int) = 86400 from rfl,
        t.second_of_day, Int.natCast_dvd_natCast, TimeUnit.seconds, dvd_split (by omega),
        Nat.dvd_iff_mod_eq_zero]
      simp only [Bool.and_eq_true, beq_iff_eq]
      omega
  · rw [beq_iff_eq, Int.dvd_iff_emod_eq_zero, Int.emod_emod]

/-! Windows. -/

theorem period_pos (s : Schedule) : 0 < s.periodSeconds := by
  have unit : 0 < s.unit.seconds := by cases s.unit <;> decide
  exact Nat.mul_pos s.count_pos unit

theorem period_le_round (s : Schedule) : s.periodSeconds ≤ s.round := by
  unfold round
  split
  · rename_i aligned
    have fits : s.count ≤ s.unit.maxStep := of_decide_eq_true aligned
    have steps : s.unit.maxStep ≤ s.unit.fieldSize := by cases s.unit <;> decide
    exact Nat.mul_le_mul_right _ (Nat.le_trans fits steps)
  · exact Nat.le_refl _

/-- Of so many numbers in a row as a period has, one is at the end of a period: the next one of the
same round, or the start of the next round. -/
theorem exists_multiple {p r : Int} (positive : 0 < p) (within : p ≤ r) (n : Int) :
    ∃ m, n ≤ m ∧ m < n + p ∧ p ∣ m % r := by
  have place : n = n % r + r * (n / r) := by rw [Int.add_comm, Int.mul_ediv_add_emod]
  have low : 0 ≤ n % r := Int.emod_nonneg n (by omega)
  have high : n % r < r := Int.emod_lt_of_pos n (by omega)
  have left : 0 ≤ n % r % p := Int.emod_nonneg _ (by omega)
  have short : n % r % p < p := Int.emod_lt_of_pos _ positive
  by_cases already : n % r % p = 0
  · exact ⟨n, by omega, by omega, Int.dvd_of_emod_eq_zero already⟩
  by_cases inside : n % r - n % r % p + p < r
  · refine ⟨n - n % r % p + p, by omega, by omega, ?_⟩
    have moved : n - n % r % p + p = (n % r - n % r % p + p) + r * (n / r) := by omega
    rw [moved, Int.add_mul_emod_self_left, Int.emod_eq_of_lt (by omega) inside]
    exact Int.dvd_add Int.dvd_self_sub_emod (Int.dvd_refl p)
  · refine ⟨n - n % r + r, by omega, by omega, ?_⟩
    have moved : n - n % r + r = r * (n / r + 1) := by
      rw [Int.mul_add, Int.mul_one]
      omega
    rw [moved, Int.mul_emod_right]
    exact Int.dvd_zero p

theorem exists_due (s : Schedule) (n : Int) :
    ∃ m, n ≤ m ∧ m < n + s.periodSeconds ∧ s.isDue (.ofSecond m) = true := by
  have positive : (0 : Int) < s.periodSeconds := by exact_mod_cast s.period_pos
  have within : (s.periodSeconds : Int) ≤ s.round := by exact_mod_cast s.period_le_round
  obtain ⟨m, low, high, divides⟩ := exists_multiple positive within n
  refine ⟨m, low, high, (isDue_round s _).mpr ?_⟩
  have second : (Instant.ofSecond m).second = m := Int.mul_ediv_cancel m (by decide)
  rwa [second]

theorem period_nanos (s : Schedule) : (s.period.nanos : Int) = s.periodSeconds * 1000000000 := by
  simp [period, Span.ofSeconds]

theorem exists_inWindow (s : Schedule) {t : Instant} (whole : t.Whole) :
    ∃ u, s.InWindow t u ∧ s.isDue u = true := by
  obtain ⟨m, low, high, due⟩ := s.exists_due t.second
  have nanos := whole.nanos
  have period := s.period_nanos
  rw [Instant.second_eq] at low high
  have place : (Instant.ofSecond m).nanos = m * 1000000000 := rfl
  refine ⟨.ofSecond m, ⟨Instant.whole_ofSecond m, ?_, ?_⟩, due⟩
  · rw [Instant.le_iff]
    omega
  · omega

/-! Gaps. -/

/-- Otherwise the window that starts a second later would have a due second between the two. -/
theorem Consecutive.gap (next : s.Consecutive t u) : u.nanos ≤ t.nanos + s.period.nanos := by
  obtain ⟨v, ⟨whole, starts, ends⟩, due⟩ :=
    s.exists_inWindow (Instant.whole_addSeconds next.first.1 1)
  have before := next.ordered
  have period := s.period_nanos
  have wholes := And.intro next.first.1.nanos whole.nanos
  rw [Instant.le_iff, Instant.addSeconds_nanos] at starts
  rw [Instant.addSeconds_nanos] at ends
  rw [Instant.lt_iff] at before
  by_contra late
  have after : t < v := by rw [Instant.lt_iff]; omega
  have silent := next.between v whole after (by rw [Instant.lt_iff]; omega)
  rw [due] at silent
  cases silent

/-- Rounds are cut where periods end when the count divides the field, and when it is too large for
the field. -/
theorem period_dvd_round (even : s.unit.maxStep < s.count ∨ s.count ∣ s.unit.fieldSize) :
    s.periodSeconds ∣ s.round := by
  unfold round
  split
  · rename_i aligned
    have fits : s.count ≤ s.unit.maxStep := of_decide_eq_true aligned
    exact Nat.mul_dvd_mul_right (even.resolve_left (Nat.not_lt.mpr fits)) s.unit.seconds
  · exact Nat.dvd_refl _

theorem isDue_even (even : s.unit.maxStep < s.count ∨ s.count ∣ s.unit.fieldSize) (t : Instant) :
    s.isDue t = true ↔ (s.periodSeconds : Int) ∣ t.second := by
  have cut : (s.periodSeconds : Int) ∣ s.round :=
    Int.natCast_dvd_natCast.mpr (period_dvd_round even)
  rw [isDue_round, Int.dvd_iff_emod_eq_zero, Int.emod_emod_of_dvd _ cut, Int.dvd_iff_emod_eq_zero]

theorem Consecutive.even (next : s.Consecutive t u)
    (even : s.unit.maxStep < s.count ∨ s.count ∣ s.unit.fieldSize) :
    u.nanos = t.nanos + s.period.nanos := by
  have apart : (s.periodSeconds : Int) ∣ u.second - t.second :=
    Int.dvd_sub ((isDue_even even u).mp next.next.2) ((isDue_even even t).mp next.first.2)
  have before := next.ordered
  have period := s.period_nanos
  have wholes := And.intro next.first.1.nanos next.next.1.nanos
  rw [Instant.lt_iff] at before
  rw [Instant.second_eq, Instant.second_eq] at apart
  have far := Int.le_of_dvd (by omega) apart
  have near := next.gap
  omega

/-- The next due second is the first one that the seconds that follow reach. -/
theorem exists_consecutive (whole : t.Whole) (due : s.isDue t = true) : ∃ u, s.Consecutive t u := by
  have later : ∃ k, 0 < k ∧ s.isDue (t.addSeconds k) = true := by
    obtain ⟨u, ⟨wholeNext, starts, -⟩, dueNext⟩ :=
      s.exists_inWindow (Instant.whole_addSeconds whole 1)
    rw [Instant.le_iff, Instant.addSeconds_nanos] at starts
    have behind : t ≤ u := by rw [Instant.le_iff]; omega
    obtain ⟨k, rfl⟩ := Instant.exists_addSeconds whole wholeNext behind
    rw [Instant.addSeconds_nanos] at starts
    exact ⟨k, by omega, dueNext⟩
  have least := fun k => Nat.find_min (m := k) later
  have found := Nat.find_spec later
  generalize Nat.find later = n at least found
  refine ⟨t.addSeconds n, ⟨whole, due⟩, ⟨Instant.whole_addSeconds whole n, found.2⟩, ?_, ?_⟩
  · rw [Instant.lt_iff, Instant.addSeconds_nanos]
    omega
  · intro v wholeBetween after before
    obtain ⟨k, rfl⟩ := Instant.exists_addSeconds whole wholeBetween (Int.le_of_lt after)
    rw [Instant.lt_iff, Instant.addSeconds_nanos] at after
    rw [Instant.lt_iff, Instant.addSeconds_nanos, Instant.addSeconds_nanos] at before
    have silent := least k (by omega)
    exact Bool.eq_false_iff.mpr fun dueBetween => silent ⟨by omega, dueBetween⟩

/-- How the due seconds of a schedule lie. -/
structure GapsKept (s : Schedule) : Prop where
  /-- A window of one period that ends in time has a due second in it. -/
  window : ∀ t : Instant, t.Whole → t.Representable →
    (⟨t.nanos + s.period.nanos⟩ : Instant).Representable →
    ∃ u, s.InWindow t u ∧ u.Representable ∧ s.isDue u = true
  follows : ∀ t : Instant, t.Whole → s.isDue t = true → ∃ u, s.Consecutive t u
  gap : ∀ t u, s.Consecutive t u → u.nanos ≤ t.nanos + s.period.nanos
  even : s.unit.maxStep < s.count ∨ s.count ∣ s.unit.fieldSize →
    ∀ t u, s.Consecutive t u → u.nanos = t.nanos + s.period.nanos

/-- Whatever the count and the unit are, there is no gap longer than a period, and there is none
shorter when the count is too large for the clock field or divides it. -/
theorem gaps_kept (s : Schedule) : GapsKept s where
  window t whole early late := by
    obtain ⟨u, window, due⟩ := s.exists_inWindow whole
    have first : Instant.earliest.nanos ≤ t.nanos := early.1
    have last : t.nanos + s.period.nanos ≤ Instant.latest.nanos := late.2
    have starts : t.nanos ≤ u.nanos := window.starts
    have ends := window.ends
    exact ⟨u, window, ⟨Int.le_trans first starts, Int.le_trans (Int.le_of_lt ends) last⟩, due⟩
  follows _ := exists_consecutive
  gap _ _ := Consecutive.gap
  even cut _ _ next := next.even cut

/-! Every seven minutes. The last due second before 1970 is at 23:56, the next one at midnight. -/

def sevens : Schedule := ⟨7, .minute, by decide, by decide⟩

theorem sevens_midnight : sevens.Consecutive (.ofSecond (-240)) (.ofSecond 0) where
  first := ⟨Instant.whole_ofSecond _, rfl⟩
  next := ⟨Instant.whole_ofSecond _, rfl⟩
  ordered := by decide
  between v whole after before := by
    refine Bool.eq_false_iff.mpr fun due => ?_
    have nanos := whole.nanos
    have place := (isDue_round sevens v).mp due
    change 420 ∣ v.nanos / 1000000000 % 3600 at place
    change -240000000000 < v.nanos at after
    change v.nanos < 0 at before
    have hour : v.nanos / 1000000000 / 3600 = -1 := by omega
    omega

theorem gaps_kept_sevens :
    (∃ u, sevens.InWindow (.ofSecond (-239)) u ∧ u.Representable ∧ sevens.isDue u = true) ∧
      sevens.Consecutive (.ofSecond (-240)) (.ofSecond 0) ∧
        (0 : Int) ≤ -240000000000 + sevens.period.nanos :=
  ⟨(gaps_kept sevens).window (.ofSecond (-239)) (Instant.whole_ofSecond _) ⟨by decide, by decide⟩
      ⟨by decide, by decide⟩,
    sevens_midnight, (gaps_kept sevens).gap _ _ sevens_midnight⟩

end Schedule

end Reflex
