import Reflex.Proofs.Equality
import Reflex.Proofs.Rounding
import Reflex.Proofs.Verdicts

/-! Comparisons of integers. They are made with the nearest doubles, so they go by the integers
unless these merge: integers with a double in common are taken for one number, though strict
equality tells them apart. -/
namespace Reflex
open Double

/-- An integer of 64 bits, with or without a sign. -/
def IsWord (n : Int) : Prop := -(Word.half64 : Int) ≤ n ∧ n < Word.size64

instance : DecidablePred IsWord := fun _ => inferInstanceAs (Decidable (_ ∧ _))

theorem IsWord.natAbs_le {n : Int} (word : IsWord n) : n.natAbs ≤ Word.size64 := by
  obtain ⟨low, high⟩ := word
  have half : Word.half64 ≤ Word.size64 := by decide
  omega

/-- What equality and the four orders make of how two integers are ordered. -/
theorem ordering_tests (s t : Int) : (compare s t).isEq = (s == t) ∧
    (compare s t).isGT = decide (t < s) ∧ (compare s t).isGE = decide (t ≤ s) ∧
      (compare s t).isLT = decide (s < t) ∧ (compare s t).isLE = decide (s ≤ t) := by
  rcases Int.lt_trichotomy s t with less | rfl | greater
  · rw [compare_lt_iff_lt.mpr less]
    simp; omega
  · rw [compare_eq_iff_eq.mpr rfl]
    simp
  · rw [compare_gt_iff_gt.mpr greater]
    simp; omega

namespace Check

/-- What a comparison makes of how two numbers are ordered, for those that are made with numbers. -/
def order? (c : Check) : Option (Ordering → Bool) :=
  match c.primary with
  | equal | deepEqual => some Ordering.isEq
  | greaterThan => some Ordering.isGT
  | greaterOrEqual => some Ordering.isGE
  | lessThan => some Ordering.isLT
  | lessOrEqual => some Ordering.isLE
  | _ => none

theorem matcher_order {c : Check} {test : Ordering → Bool} (orders : c.order? = some test)
    (a b : Int) : ∃ m, c.matcher (.int b) = .ok m ∧
      m.holds (.int a) = test (compare (ofInt a).units (ofInt b).units) := by
  obtain ⟨eq, gt, ge, lt, le⟩ := ordering_tests (ofInt a).units (ofInt b).units
  rw [← matcher_primary]
  unfold order? at orders
  generalize c.primary = d at orders ⊢
  cases d with
  | equal | deepEqual =>
    cases orders
    exact ⟨_, rfl, eq.symm⟩
  | greaterThan =>
    cases orders
    exact ⟨_, rfl, gt.symm⟩
  | greaterOrEqual =>
    cases orders
    exact ⟨_, rfl, ge.symm⟩
  | lessThan =>
    cases orders
    exact ⟨_, rfl, lt.symm⟩
  | lessOrEqual =>
    cases orders
    exact ⟨_, rfl, le.symm⟩
  | _ => cases orders

/-- A comparison of integers is decided by how their doubles are ordered. -/
theorem apply_order {c : Check} {test : Ordering → Bool} (orders : c.order? = some test)
    (a b : Int) {σ : Type} (s : σ) : (c.apply (.of (.int a)) (.int b)).map (·.evaluate s) =
      .ok (test (compare (ofInt a).units (ofInt b).units)) := by
  obtain ⟨m, made, decided⟩ := matcher_order orders a b
  rw [apply_evaluate, made, ← decided]
  exact congrArg Except.ok (Bool.xor_false _)

end Check

theorem Value.deepEqual_int (a b : Int) :
    (int a).deepEqual (int b) = true ↔ (ofInt a).units = (ofInt b).units := beq_iff_eq

theorem Value.identical_int (a b : Int) : (int a).identical (int b) = true ↔ a = b := by
  simp [identical]

/-- How two integers of 64 bits are compared. -/
structure IntegersKept (a b : Int) : Prop where
  /-- By the integers, unless they merge. -/
  apart : ¬ Merged a b → ∀ c test, Check.order? c = some test → ∀ {σ : Type} (s : σ),
    (c.apply (.of (.int a)) (.int b)).map (·.evaluate s) = .ok (test (compare a b))
  /-- As if they were the same. -/
  merged : Merged a b → ∀ c test, Check.order? c = some test → ∀ {σ : Type} (s : σ),
    (c.apply (.of (.int a)) (.int b)).map (·.evaluate s) = .ok (test .eq)
  /-- Both of them have more than 53 digits, and they are close to each other. -/
  large : Merged a b → 2 ^ 53 ≤ a.natAbs ∧ 2 ^ 53 ≤ b.natAbs ∧ (a - b).natAbs ≤ 2048
  variableIs : ∀ v name, View.value v name = .int a →
    ((Condition.variableIs name (.int b)).holds v = true ↔ a = b ∨ Merged a b)
  deviceIs : ∀ v device feature, View.feature v device feature = .int a →
    ((Condition.deviceIs device feature (.int b)).holds v = true ↔ a = b ∨ Merged a b)
  /-- A write is a change unless the integers are the same, whether they merge or not. -/
  strict : ∀ d name now, Device.get d name = .int a →
    ((d.setAttribute name (.int b) now).2.changed = true ↔ a ≠ b)

theorem integers_kept {a b : Int} (word : IsWord a) (also : IsWord b) : IntegersKept a b := by
  have equal := units_ofInt_eq word.natAbs_le also.natAbs_le
  refine ⟨?_, ?_, ?_, ?_, ?_, ?_⟩
  · intro apart c test orders σ s
    rw [Check.apply_order orders, compare_ofInt word.natAbs_le also.natAbs_le apart]
  · intro merged c test orders σ s
    rw [Check.apply_order orders, compare_eq_iff_eq.mpr (equal.mpr (.inr merged))]
  · intro merged
    exact ⟨merged.large, merged.symm.large, merged.close word.natAbs_le also.natAbs_le⟩
  · intro v name stored
    rw [Condition.holds, Expectation.ofVariable, Expectation.evaluate_reading, Matcher.holds,
      stored, Value.deepEqual_int, equal]
  · intro v device feature stored
    rw [Condition.holds, Expectation.ofFeature, Expectation.evaluate_reading, Matcher.holds,
      stored, Value.deepEqual_int, equal]
  · intro d name now stored
    have changes :
        (d.setAttribute name (.int b) now).2.changed = !(d.get name).identical (.int b) := rfl
    rw [changes, stored, Bool.not_eq_true', ← Bool.not_eq_true, Value.identical_int]

/-- The last integer before those that may merge is told from all others. -/
theorem integers_kept_last : IsWord 9007199254740991 ∧ IsWord 9007199254740993 ∧
    ¬ Merged 9007199254740991 9007199254740993 ∧
      (Check.lt.apply (.of (.int 9007199254740991) : Expectation Unit)
        (.int 9007199254740993)).map (·.evaluate ()) = .ok true := by
  have kept : IntegersKept 9007199254740991 9007199254740993 :=
    integers_kept (by decide) (by decide)
  have apart : ¬ Merged 9007199254740991 9007199254740993 := fun merged =>
    absurd (kept.large merged).1 (by decide)
  exact ⟨by decide, by decide, apart, kept.apart apart .lt _ rfl ()⟩

/-- The first two neighbours that merge. Comparisons take the greater one for the other, though a
write of one over the other is a change. -/
theorem neighbours_merge :
    let outcome (c : Check) := (c.apply (.of (.int 9007199254740993) : Expectation Unit)
      (.int 9007199254740992)).map (·.evaluate ())
    IsWord 9007199254740993 ∧ IsWord 9007199254740992 ∧
      outcome .equal = .ok true ∧ outcome .deepEqual = .ok true ∧
        outcome .greaterThan = .ok false ∧ outcome .lessOrEqual = .ok true ∧
          (Value.int 9007199254740993).identical (.int 9007199254740992) = false := by
  decide +kernel

end Reflex
