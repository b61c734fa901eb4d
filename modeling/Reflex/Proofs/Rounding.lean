import Mathlib.Algebra.Order.Ring.Int
import Reflex.Double

/-! Rounding to the nearest double. What nearest means is said of the grid of doubles alone, a half
going to the even neighbour; so there is one nearest double up to the sign of zero, and a greater
number has no smaller one. -/
namespace Reflex.Double

/-- A number with so many binary digits and zeros after them. -/
def Fits (digits m : Nat) : Prop := ∃ q k, q < 2 ^ digits ∧ m = q * 2 ^ k

/-- A double of the format: its magnitude has 53 binary digits, and it is finite. -/
def Proper (x : Double) : Prop := Fits 53 x.magnitude ∧ x.magnitude < overflow

/-- The last of the 53 digits is zero. -/
def IsEven (x : Double) : Prop := ∃ m, Fits 52 m ∧ x.magnitude = 2 * m

def distance (t : Int) (x : Double) : Nat := (t - x.units).natAbs

/-- No double is nearer to so many units, and if another one is as near, this one is even. -/
structure Nearest (t : Int) (x : Double) : Prop where
  proper : x.Proper
  closest : ∀ y, Proper y → distance t x ≤ distance t y
  even : ∀ y, Proper y → y.units ≠ x.units → distance t y = distance t x → x.IsEven

theorem overflow_pos : 0 < overflow := by decide +kernel

theorem one_pos : 0 < one := by decide +kernel

theorem units_below (m : Nat) : units ⟨true, m⟩ = -m := rfl

theorem units_above (m : Nat) : units ⟨false, m⟩ = m := rfl

theorem magnitude_eq (x : Double) : x.magnitude = x.units.natAbs := by
  unfold units
  split <;> omega

theorem Fits.zero (digits : Nat) : Fits digits 0 := ⟨0, 0, Nat.two_pow_pos _, by simp⟩

theorem Fits.mul_pow {digits m : Nat} (fits : Fits digits m) (k : Nat) :
    Fits digits (m * 2 ^ k) := by
  obtain ⟨q, j, short, rfl⟩ := fits
  exact ⟨q, j + k, short, by rw [Nat.mul_assoc, ← Nat.pow_add]⟩

theorem Fits.pow {digits k : Nat} (some : 0 < digits) : Fits digits (2 ^ k) :=
  ⟨1, k, Nat.one_lt_two_pow some.ne', (Nat.one_mul _).symm⟩

theorem coarser (r k d : Nat) : r * 2 ^ (k + d) = r * 2 ^ d * 2 ^ k := by
  rw [Nat.add_comm, Nat.pow_add, Nat.mul_assoc]

/-- Between two even numbers of the grid there is another number of it. -/
theorem Fits.between {a b : Nat} (low : Fits 52 a) (high : Fits 52 b) (less : a < b) :
    ∃ c, Fits 53 c ∧ 2 * a < c ∧ c < 2 * b := by
  obtain ⟨q, k, short, rfl⟩ := low
  obtain ⟨r, j, shorter, rfl⟩ := high
  -- One step from the number whose spacing is the finer one, towards the other.
  rcases Nat.le_total k j with finer | finer
  · obtain ⟨d, rfl⟩ := Nat.exists_eq_add_of_le finer
    rw [coarser] at less ⊢
    have apart : q < r * 2 ^ d := Nat.lt_of_mul_lt_mul_right less
    refine ⟨(2 * q + 1) * 2 ^ k, ⟨_, k, by omega, rfl⟩, ?_, ?_⟩ <;> rw [← Nat.mul_assoc]
    · exact Nat.mul_lt_mul_of_pos_right (by omega) (Nat.two_pow_pos k)
    · exact Nat.mul_lt_mul_of_pos_right (by omega) (Nat.two_pow_pos k)
  · obtain ⟨d, rfl⟩ := Nat.exists_eq_add_of_le finer
    rw [coarser] at less ⊢
    have apart : q * 2 ^ d < r := Nat.lt_of_mul_lt_mul_right less
    refine ⟨(2 * r - 1) * 2 ^ j, ⟨_, j, by omega, rfl⟩, ?_, ?_⟩ <;> rw [← Nat.mul_assoc]
    · exact Nat.mul_lt_mul_of_pos_right (by omega) (Nat.two_pow_pos j)
    · exact Nat.mul_lt_mul_of_pos_right (by omega) (Nat.two_pow_pos j)

/-- Two even doubles are no neighbours. -/
theorem Proper.between {x y : Double} (low : x.Proper) (high : y.Proper) (even : x.IsEven)
    (evenToo : y.IsEven) (less : x.units < y.units) :
    ∃ z, Proper z ∧ x.units < z.units ∧ z.units < y.units := by
  obtain ⟨a, fits, double⟩ := even
  obtain ⟨b, fitsToo, doubleToo⟩ := evenToo
  have bounded := low.2
  have boundedToo := high.2
  by_cases straddle : x.units < 0 ∧ 0 < y.units
  · exact ⟨zero, ⟨.zero 53, overflow_pos⟩, straddle⟩
  rw [magnitude_eq] at double doubleToo bounded boundedToo
  by_cases negative : x.units < 0
  · obtain ⟨c, fits, above, below⟩ := Fits.between fitsToo fits (by omega)
    refine ⟨⟨true, c⟩, ⟨fits, by dsimp only; omega⟩, ?_⟩
    rw [units_below]
    omega
  · obtain ⟨c, fits, above, below⟩ := Fits.between fits fitsToo (by omega)
    refine ⟨⟨false, c⟩, ⟨fits, by dsimp only; omega⟩, ?_⟩
    rw [units_above]
    omega

/-- Nothing else is as near as the nearest double, unless it is the same number. -/
theorem Nearest.not_lt {t : Int} {x y : Double} (near : Nearest t x) (also : Nearest t y) :
    ¬ x.units < y.units := by
  intro less
  have close := near.closest y also.proper
  have closeToo := also.closest x near.proper
  have same : distance t y = distance t x := Nat.le_antisymm closeToo close
  obtain ⟨z, proper, above, below⟩ := near.proper.between also.proper
    (near.even y also.proper less.ne' same) (also.even x near.proper less.ne same.symm) less
  have nearer := near.closest z proper
  unfold distance at same nearer
  omega

theorem Nearest.unique {t : Int} {x y : Double} (near : Nearest t x) (also : Nearest t y) :
    x.units = y.units :=
  Int.le_antisymm (Int.not_lt.mp (also.not_lt near)) (Int.not_lt.mp (near.not_lt also))

/-- A number that is not less has a nearest double that is not less. -/
theorem Nearest.mono {t u : Int} {x y : Double} (near : Nearest t x) (also : Nearest u y)
    (ordered : t ≤ u) : x.units ≤ y.units := by
  by_contra reversed
  have close := near.closest y also.proper
  have closeToo := also.closest x near.proper
  have same : t = u := by
    unfold distance at close closeToo
    omega
  subst same
  exact reversed (near.unique also).le

/-! Quotients and magnitudes. -/

theorem nearest_cases (num den : Nat) :
    nearest num den = num / den ∧
        (2 * (num % den) < den ∨ 2 * (num % den) = den ∧ num / den % 2 = 0) ∨
      nearest num den = num / den + 1 ∧
        (den < 2 * (num % den) ∨ 2 * (num % den) = den ∧ num / den % 2 = 1) := by
  unfold nearest
  dsimp only
  split
  · exact .inl ⟨rfl, by omega⟩
  split
  · exact .inr ⟨rfl, by omega⟩
  split
  · exact .inl ⟨rfl, by omega⟩
  · exact .inr ⟨rfl, by omega⟩

/-- The nearest natural is at most a half away, and even if it is a half away. -/
theorem nearest_close (num : Nat) {den : Nat} (positive : 0 < den) :
    2 * ((num : Int) - (nearest num den * den : Nat)).natAbs ≤ den ∧
      (2 * ((num : Int) - (nearest num den * den : Nat)).natAbs = den →
        nearest num den % 2 = 0) := by
  have parts := Nat.div_add_mod' num den
  have rest := Nat.mod_lt num positive
  have next : (num / den + 1) * den = num / den * den + den := Nat.succ_mul _ _
  rcases nearest_cases num den with ⟨same, near⟩ | ⟨same, near⟩
  · rw [same]
    omega
  · rw [same, next]
    omega

/-- No multiple is nearer than the nearest one, and only that one is even if another is as near. -/
theorem nearest_closest (num : Nat) {den k : Nat} (positive : 0 < den)
    (other : k ≠ nearest num den) :
    ((num : Int) - (nearest num den * den : Nat)).natAbs ≤ ((num : Int) - (k * den : Nat)).natAbs ∧
      (((num : Int) - (k * den : Nat)).natAbs =
          ((num : Int) - (nearest num den * den : Nat)).natAbs →
        nearest num den % 2 = 0) := by
  have ⟨close, even⟩ := nearest_close num positive
  have step : k * den + den ≤ nearest num den * den ∨ nearest num den * den + den ≤ k * den := by
    rcases Nat.lt_or_gt_of_ne other with less | less
    · exact .inl (Nat.succ_mul _ _ ▸ Nat.mul_le_mul_right den less)
    · exact .inr (Nat.succ_mul _ _ ▸ Nat.mul_le_mul_right den less)
  omega

theorem spacing_pow (num : Nat) : spacing num = 2 ^ (num.log2 - 52) := by
  rw [spacing, Nat.pow_eq]

/-- The spacing is that of numbers with 53 digits, or it is that of the smallest numbers. -/
theorem spacing_bounds (num : Nat) :
    num < 2 ^ 53 * spacing num ∧ (spacing num = 1 ∨ 2 ^ 52 * spacing num ≤ num) := by
  rw [spacing_pow]
  constructor
  · calc num < 2 ^ (num.log2 + 1) := Nat.lt_log2_self
      _ ≤ 2 ^ (53 + (num.log2 - 52)) := Nat.pow_le_pow_right (by decide) (by omega)
      _ = 2 ^ 53 * 2 ^ (num.log2 - 52) := Nat.pow_add 2 _ _
  · rcases Nat.lt_or_ge num.log2 53 with small | large
    · exact .inl (by rw [Nat.sub_eq_zero_of_le (by omega), Nat.pow_zero])
    · have some : num ≠ 0 := by
        rintro rfl
        simp at large
      rw [← Nat.pow_add, Nat.add_sub_of_le (by omega)]
      exact .inr (Nat.log2_self_le some)

/-- The multiple of the spacing that is nearest to a number of units. -/
def rounded (num : Nat) : Nat := nearest num (spacing num) * spacing num

theorem nearest_le (num : Nat) : nearest num (spacing num) ≤ 2 ^ 53 := by
  have positive : 0 < spacing num := spacing_pow num ▸ Nat.two_pow_pos _
  have close := (nearest_close num positive).1
  have below := (spacing_bounds num).1
  by_contra greater
  have far := Nat.mul_le_mul_right (spacing num) (Nat.succ_le_of_lt (Nat.lt_of_not_le greater))
  rw [Nat.succ_mul] at far
  omega

theorem rounded_fits (num : Nat) : Fits 53 (rounded num) := by
  rcases Nat.lt_or_eq_of_le (nearest_le num) with short | full
  · exact ⟨_, _, short, congrArg (_ * ·) (spacing_pow num)⟩
  · rw [rounded, full, spacing_pow]
    exact (Fits.pow (by decide)).mul_pow _

theorem rounded_even {num : Nat} (even : nearest num (spacing num) % 2 = 0) :
    ∃ m, Fits 52 m ∧ rounded num = 2 * m := by
  obtain ⟨q, double⟩ := Nat.dvd_of_mod_eq_zero even
  have bounded := nearest_le num
  rw [rounded, double, Nat.mul_assoc, spacing_pow]
  refine ⟨_, ?_, rfl⟩
  rcases Nat.lt_or_ge q (2 ^ 52) with short | full
  · exact ⟨q, _, short, rfl⟩
  · have same : q = 2 ^ 52 := by omega
    exact same ▸ (Fits.pow (by decide)).mul_pow _

/-- A number that is no multiple of the spacing is below all that need 53 digits with it. -/
theorem Fits.multiple (num : Nat) {m : Nat} (fits : Fits 53 m) :
    (∃ k, m = k * spacing num) ∨ m < 2 ^ 52 * spacing num ∧ 2 ^ 52 * spacing num ≤ num := by
  obtain ⟨q, j, short, rfl⟩ := fits
  rcases Nat.lt_or_ge j (num.log2 - 52) with finer | coarser
  · right
    obtain ⟨-, single | large⟩ := spacing_bounds num
    · rw [spacing_pow, Nat.pow_eq_one] at single
      omega
    refine ⟨?_, large⟩
    calc q * 2 ^ j < 2 ^ 53 * 2 ^ j := Nat.mul_lt_mul_of_pos_right short (Nat.two_pow_pos j)
      _ = 2 ^ 52 * 2 ^ (j + 1) := by rw [← Nat.pow_add, ← Nat.pow_add]; congr 1; omega
      _ ≤ 2 ^ 52 * spacing num := by
        rw [spacing_pow]
        exact Nat.mul_le_mul_left _ (Nat.pow_le_pow_right (by decide) finer)
  · left
    obtain ⟨d, same⟩ := Nat.exists_eq_add_of_le coarser
    exact ⟨q * 2 ^ d, by rw [same, Reflex.Double.coarser, spacing_pow]⟩

/-- No magnitude of the grid is nearer than the rounded one. -/
theorem rounded_closest (num : Nat) {m : Nat} (fits : Fits 53 m) (other : m ≠ rounded num) :
    ((num : Int) - rounded num).natAbs ≤ ((num : Int) - m).natAbs ∧
      (((num : Int) - m).natAbs = ((num : Int) - rounded num).natAbs →
        nearest num (spacing num) % 2 = 0) := by
  have positive : 0 < spacing num := spacing_pow num ▸ Nat.two_pow_pos _
  rcases fits.multiple num with ⟨k, rfl⟩ | ⟨below, large⟩
  · exact nearest_closest num positive fun same => other (congrArg (· * _) same)
  · have closest : ((num : Int) - rounded num).natAbs ≤
        ((num : Int) - (2 ^ 52 * spacing num : Nat)).natAbs := by
      by_cases same : 2 ^ 52 = nearest num (spacing num)
      · rw [same]
        exact le_refl _
      · exact (nearest_closest num positive same).1
    omega

theorem rounded_le {num m : Nat} (fits : Fits 53 m) (below : num ≤ m) : rounded num ≤ m := by
  by_cases same : m = rounded num
  · exact same.ge
  · have closest := (rounded_closest num fits same).1
    omega

/-- A signed number of units is rounded by its magnitude. -/
theorem nearest_rounded {t : Int} (small : rounded t.natAbs < overflow) :
    Nearest t ⟨decide (t < 0), rounded t.natAbs⟩ := by
  have signed : units ⟨decide (t < 0), rounded t.natAbs⟩ =
      if t < 0 then -(rounded t.natAbs : Int) else rounded t.natAbs := by
    simp only [units, decide_eq_true_eq]
  have others : ∀ y : Double, Proper y → y.magnitude ≠ rounded t.natAbs →
      ((t.natAbs : Int) - rounded t.natAbs).natAbs ≤ ((t.natAbs : Int) - y.units.natAbs).natAbs ∧
        (((t.natAbs : Int) - y.units.natAbs).natAbs = ((t.natAbs : Int) - rounded t.natAbs).natAbs →
          nearest t.natAbs (spacing t.natAbs) % 2 = 0) := fun y proper other => by
    rw [← magnitude_eq]
    exact rounded_closest t.natAbs proper.1 other
  refine ⟨⟨rounded_fits _, small⟩, fun y proper => ?_, fun y proper other same => ?_⟩
  · have far := others y proper
    rw [magnitude_eq] at far
    rw [distance, distance, signed]
    split <;> omega
  · have far := others y proper
    rw [magnitude_eq] at far
    rw [distance, distance, signed] at same
    rw [signed] at other
    have none : t.natAbs = 0 → rounded t.natAbs = 0 := fun zero =>
      Nat.le_zero.mp (rounded_le (.zero 53) zero.le)
    refine rounded_even ?_
    split at same <;> split at other <;> omega

/-! Integers. -/

theorem one_pow : ∃ k, one = 2 ^ k := ⟨1074, by decide +kernel⟩

theorem fits_ofInt {n : Nat} (short : n ≤ 2 ^ 53) : Fits 53 (n * one) := by
  obtain ⟨k, pow⟩ := one_pow
  rw [pow]
  rcases Nat.lt_or_eq_of_le short with less | rfl
  · exact ⟨n, k, less, rfl⟩
  · exact (Fits.pow (by decide)).mul_pow k

/-- Integers of 64 bits are not beyond the doubles. -/
theorem rounded_word {n : Nat} (word : n ≤ Word.size64) : rounded (n * one) < overflow := by
  obtain ⟨k, pow⟩ := one_pow
  have fits : Fits 53 (Word.size64 * one) := by
    rw [pow]
    exact (Fits.pow (k := 64) (by decide)).mul_pow k
  calc rounded (n * one) ≤ Word.size64 * one := rounded_le fits (Nat.mul_le_mul_right one word)
    _ < overflow := by decide +kernel

theorem roundMagnitude_one {num : Nat} (small : rounded num < overflow) :
    roundMagnitude num 1 = some (rounded num) := by
  unfold roundMagnitude
  simp only [Nat.div_one, Nat.one_mul]
  exact if_pos small

theorem scale_sign (n : Int) {u : Nat} (positive : 0 < u) :
    (n * u).natAbs = n.natAbs * u ∧ (n * u < 0 ↔ n < 0) := by
  refine ⟨by rw [Int.natAbs_mul, Int.natAbs_natCast], ?_⟩
  rw [← not_le, mul_nonneg_iff_of_pos_right (Int.natCast_pos.mpr positive), not_le]

/-- What an integer is converted to is the nearest double. -/
theorem nearest_ofInt {n : Int} (word : n.natAbs ≤ Word.size64) : Nearest (n * one) (ofInt n) := by
  obtain ⟨scaled, signed⟩ := scale_sign n one_pos
  have small : rounded (n * one).natAbs < overflow := by
    rw [scaled]
    exact rounded_word word
  rw [ofInt, ← scaled, roundMagnitude_one small, Option.getD_some, ← decide_eq_decide.mpr signed]
  exact nearest_rounded small

/-! Integers that rounding makes one. -/

/-- Two integers that are different and have a nearest double in common. -/
def Merged (a b : Int) : Prop := a ≠ b ∧ ∃ x, Nearest (a * one) x ∧ Nearest (b * one) x

theorem Merged.symm {a b : Int} (merged : Merged a b) : Merged b a :=
  ⟨merged.1.symm, merged.2.imp fun _ => And.symm⟩

theorem Nearest.of_units {t : Int} {x y : Double} (near : Nearest t x) (same : y.units = x.units) :
    Nearest t y := by
  have magnitude : y.magnitude = x.magnitude := by rw [magnitude_eq, magnitude_eq, same]
  have alike : distance t y = distance t x := by rw [distance, distance, same]
  have ⟨proper, closest, even⟩ := near
  refine ⟨?_, ?_, ?_⟩
  · rwa [Proper, magnitude]
  · rwa [alike]
  · rwa [alike, same, IsEven, magnitude]

section Words

variable {a b : Int} (word : a.natAbs ≤ Word.size64) (also : b.natAbs ≤ Word.size64)
include word also

theorem units_ofInt_eq : (ofInt a).units = (ofInt b).units ↔ a = b ∨ Merged a b := by
  have near := nearest_ofInt word
  have nearToo := nearest_ofInt also
  constructor
  · intro same
    refine or_iff_not_imp_left.mpr fun different => ?_
    exact ⟨different, ofInt a, near, nearToo.of_units same⟩
  · rintro (rfl | ⟨-, x, first, second⟩)
    · rfl
    · exact (near.unique first).trans (second.unique nearToo)

theorem units_ofInt_le (ordered : a ≤ b) : (ofInt a).units ≤ (ofInt b).units :=
  (nearest_ofInt word).mono (nearest_ofInt also)
    (Int.mul_le_mul_of_nonneg_right ordered (Int.natCast_nonneg _))

theorem units_ofInt_lt (apart : ¬ Merged a b) (less : a < b) :
    (ofInt a).units < (ofInt b).units := by
  refine Int.lt_iff_le_and_ne.mpr ⟨units_ofInt_le word also less.le, fun same => ?_⟩
  rcases (units_ofInt_eq word also).mp same with rfl | merged
  · exact Int.lt_irrefl a less
  · exact apart merged

/-- Integers are ordered as their doubles are, unless they merge. -/
theorem compare_ofInt (apart : ¬ Merged a b) :
    compare (ofInt a).units (ofInt b).units = compare a b := by
  rcases Int.lt_trichotomy a b with less | rfl | greater
  · rw [compare_lt_iff_lt.mpr less, compare_lt_iff_lt.mpr (units_ofInt_lt word also apart less)]
  · rw [compare_eq_iff_eq.mpr rfl, compare_eq_iff_eq.mpr rfl]
  · rw [compare_gt_iff_gt.mpr greater, compare_gt_iff_gt.mpr (units_ofInt_lt also word _ greater)]
    exact fun merged => apart merged.symm

end Words

/-- The double with a number of units, if there is one. -/
def ofUnits (t : Int) : Double := ⟨decide (t < 0), t.natAbs⟩

theorem units_ofUnits (t : Int) : (ofUnits t).units = t := by
  rw [ofUnits, units]
  simp only [decide_eq_true_eq]
  split <;> omega

theorem natAbs_scaled (a b : Int) (u : Nat) : (a * u - b * u).natAbs = (a - b).natAbs * u := by
  rw [← Int.sub_mul, Int.natAbs_mul, Int.natAbs_natCast]

/-- The nearest double is not farther than an integer that is a double. -/
theorem Nearest.within {n c : Int} {x : Double} (near : Nearest (n * one) x)
    (fits : Fits 53 (c.natAbs * one)) (word : c.natAbs ≤ Word.size64) :
    distance (n * one) x ≤ (n - c).natAbs * one := by
  have scaled : (ofUnits (c * one)).magnitude = c.natAbs * one := (scale_sign c one_pos).1
  have bounded : c.natAbs * one < overflow :=
    calc c.natAbs * one ≤ Word.size64 * one := Nat.mul_le_mul_right one word
      _ < overflow := by decide +kernel
  have closest := near.closest (ofUnits (c * one)) (by rw [Proper, scaled]; exact ⟨fits, bounded⟩)
  rwa [distance, distance, units_ofUnits, natAbs_scaled] at closest

/-- Integers of up to 53 digits merge with no others. -/
theorem Merged.large {a b : Int} (merged : Merged a b) : 2 ^ 53 ≤ a.natAbs := by
  obtain ⟨different, x, near, nearToo⟩ := merged
  by_contra small
  have exact : x.units = a * one := by
    have short : a.natAbs ≤ 2 ^ 53 := by omega
    have within := near.within (fits_ofInt short) (short.trans (by decide))
    rw [Int.sub_self, Int.natAbs_zero, Nat.zero_mul, distance] at within
    omega
  -- Within 53 digits there is an integer that is nearer to the other one.
  obtain ⟨c, short, nearer⟩ : ∃ c : Int, c.natAbs ≤ 2 ^ 53 ∧ (b - c).natAbs < (b - a).natAbs :=
    ⟨max (-2 ^ 53) (min b (2 ^ 53)), by omega, by omega⟩
  have within := nearToo.within (fits_ofInt short) (short.trans (by decide))
  rw [distance, exact, natAbs_scaled] at within
  exact Nat.not_lt.mpr (Nat.le_of_mul_le_mul_right within one_pos) nearer

/-- Integers of 64 bits are at most as far from their doubles as from multiples of 2048. -/
theorem Nearest.error {n : Int} {x : Double} (near : Nearest (n * one) x)
    (word : n.natAbs ≤ Word.size64) : distance (n * one) x ≤ 1024 * one := by
  have bounded : ((n + 1024) / 2048).natAbs ≤ 2 ^ 53 := by
    have size : Word.size64 = 2048 * 2 ^ 53 := rfl
    omega
  have fits : Fits 53 (((n + 1024) / 2048 * 2048).natAbs * one) := by
    rw [Int.natAbs_mul, Nat.mul_right_comm]
    exact (fits_ofInt bounded).mul_pow 11
  have multiple : ((n + 1024) / 2048 * 2048).natAbs ≤ Word.size64 := by
    rw [Int.natAbs_mul]
    exact Nat.mul_le_mul_right 2048 bounded
  exact (near.within fits multiple).trans (Nat.mul_le_mul_right one (by omega))

theorem Merged.close {a b : Int} (word : a.natAbs ≤ Word.size64) (also : b.natAbs ≤ Word.size64)
    (merged : Merged a b) : (a - b).natAbs ≤ 2048 := by
  obtain ⟨-, x, near, nearToo⟩ := merged
  have error := near.error word
  have errorToo := nearToo.error also
  have apart := natAbs_scaled a b one
  unfold distance at error errorToo
  refine Nat.le_of_mul_le_mul_right (c := one) ?_ one_pos
  omega

end Reflex.Double
