import Reflex.Agenda

/-! What an agenda gives out: the timers that are due, in the order of their deadlines and
then of their arming, and the seconds between two ticks. -/
namespace Reflex

namespace Instant

/-- Without a fraction of a second. -/
def Whole (t : Instant) : Prop := t.truncate = t

theorem le_iff {x y : Instant} : x ≤ y ↔ x.nanos ≤ y.nanos := Iff.rfl

theorem lt_iff {x y : Instant} : x < y ↔ x.nanos < y.nanos := Iff.rfl

theorem eq_iff {x y : Instant} : x = y ↔ x.nanos = y.nanos := by
  cases x
  cases y
  simp

theorem truncate_nanos (t : Instant) : t.truncate.nanos = t.nanos / 1000000000 * 1000000000 := rfl

theorem addSeconds_nanos (t : Instant) (n : Nat) :
    (t.addSeconds n).nanos = t.nanos + n * 1000000000 := rfl

theorem second_eq (t : Instant) : t.second = t.nanos / 1000000000 := rfl

theorem truncate_le (t : Instant) : t.truncate ≤ t := by
  rw [le_iff, truncate_nanos]
  omega

theorem whole_truncate (t : Instant) : t.truncate.Whole := by
  rw [Whole, eq_iff, truncate_nanos, truncate_nanos]
  omega

theorem Whole.nanos {t : Instant} (whole : t.Whole) : t.nanos / 1000000000 * 1000000000 = t.nanos :=
  eq_iff.mp whole

theorem truncate_mono {x y : Instant} (le : x ≤ y) : x.truncate ≤ y.truncate := by
  rw [le_iff] at le
  simp only [le_iff, truncate_nanos]
  omega

theorem whole_addSeconds {t : Instant} (whole : t.Whole) (n : Nat) : (t.addSeconds n).Whole := by
  have nanos := whole.nanos
  rw [Whole, eq_iff, truncate_nanos, addSeconds_nanos]
  omega

theorem addSeconds_zero (t : Instant) : t.addSeconds 0 = t := by
  rw [eq_iff, addSeconds_nanos]
  omega

theorem addSeconds_addSeconds (t : Instant) (m n : Nat) :
    (t.addSeconds m).addSeconds n = t.addSeconds (m + n) := by
  simp only [eq_iff, addSeconds_nanos]
  omega

theorem lt_add {t : Instant} {d : Span} (early : t < latest) (positive : 0 < d.nanos) :
    t < t.add d := by
  unfold add
  split
  · rw [lt_iff]
    change _ < t.nanos + (d.nanos : Int)
    omega
  · exact early

theorem add_le_add {t u : Instant} {d e : Span} (le : t ≤ u) (longer : d.nanos ≤ e.nanos) :
    t.add d ≤ u.add e := by
  rw [le_iff] at le
  rw [add_eq, add_eq, le_iff]
  dsimp only
  omega

end Instant

namespace Timer

variable {κ : Type}

/-- Due earlier, or at the same time and armed earlier. -/
def Before (x y : Timer κ) : Prop :=
  x.deadline < y.deadline ∨ x.deadline = y.deadline ∧ x.id < y.id

theorem Before.trans {x y z : Timer κ} (first : x.Before y) (second : y.Before z) : x.Before z := by
  simp only [Before, Instant.lt_iff, Instant.eq_iff] at *
  omega

end Timer

namespace Agenda

variable {κ : Type} {x y : Timer κ} {timers : List (Timer κ)} {a : Agenda κ} {t now last : Instant}

theorem insertByDeadline_perm (x : Timer κ) (timers : List (Timer κ)) :
    (insertByDeadline x timers).Perm (x :: timers) := by
  induction timers with
  | nil => exact .refl _
  | cons y rest ih =>
    unfold insertByDeadline
    split
    · exact .refl _
    · exact (ih.cons y).trans (.swap x y rest)

theorem sortByDeadline_perm (timers : List (Timer κ)) : (sortByDeadline timers).Perm timers := by
  induction timers with
  | nil => exact .refl _
  | cons x rest ih => exact (insertByDeadline_perm x _).trans (ih.cons x)

theorem mem_dueTimers : x ∈ a.dueTimers t ↔ x ∈ a.timers ∧ x.deadline ≤ t := by
  rw [dueTimers, (sortByDeadline_perm _).mem_iff, List.mem_filter, decide_eq_true_iff]

theorem mem_takeDue : x ∈ (a.takeDue t).timers ↔ x ∈ a.timers ∧ t < x.deadline := by
  change x ∈ List.filter _ _ ↔ _
  rw [List.mem_filter, Bool.not_eq_true', decide_eq_false_iff_not, Instant.le_iff, Instant.lt_iff,
    Int.not_le]

theorem insertByDeadline_before (sorted : timers.Pairwise Timer.Before)
    (oldest : ∀ y ∈ timers, x.id < y.id) : (insertByDeadline x timers).Pairwise Timer.Before := by
  induction timers with
  | nil => exact List.pairwise_singleton _ x
  | cons y rest ih =>
    obtain ⟨first, others⟩ := List.pairwise_cons.mp sorted
    obtain ⟨older, oldest⟩ := List.forall_mem_cons.mp oldest
    unfold insertByDeadline
    split
    · rename_i earlier
      have before : x.Before y := by
        simp only [Timer.Before, Instant.lt_iff, Instant.eq_iff, Instant.le_iff] at *
        omega
      refine List.pairwise_cons.mpr ⟨?_, sorted⟩
      intro z member
      rcases List.mem_cons.mp member with rfl | later
      · exact before
      · exact before.trans (first z later)
    · rename_i later
      refine List.pairwise_cons.mpr ⟨?_, ih others oldest⟩
      intro z member
      rcases List.mem_cons.mp ((insertByDeadline_perm x rest).mem_iff.mp member) with rfl | rest
      · left
        rw [Instant.lt_iff]
        rw [Instant.le_iff] at later
        omega
      · exact first z rest

theorem sortByDeadline_before (armed : timers.Pairwise fun x y => x.id < y.id) :
    (sortByDeadline timers).Pairwise Timer.Before := by
  induction timers with
  | nil => exact .nil
  | cons x rest ih =>
    obtain ⟨first, others⟩ := List.pairwise_cons.mp armed
    refine insertByDeadline_before (ih others) ?_
    intro y member
    exact first y ((sortByDeadline_perm rest).mem_iff.mp member)

theorem dueTimers_before (armed : a.timers.Pairwise fun x y => x.id < y.id) :
    (a.dueTimers t).Pairwise Timer.Before :=
  sortByDeadline_before (armed.filter _)

/-! Taking what is due at one instant and then what is due at a later one takes the same
timers, in the same order, as taking all at once. -/

theorem insertByDeadline_front {early late : List (Timer κ)}
    (after : ∀ y ∈ late, x.deadline < y.deadline) :
    insertByDeadline x (early ++ late) = insertByDeadline x early ++ late := by
  induction early with
  | nil =>
    cases late with
    | nil => rfl
    | cons y rest =>
      have first := after y List.mem_cons_self
      rw [Instant.lt_iff] at first
      have le : x.deadline ≤ y.deadline := Instant.le_iff.mpr (by omega)
      change insertByDeadline x (y :: rest) = [x] ++ y :: rest
      rw [insertByDeadline, if_pos le]
      rfl
  | cons y rest ih =>
    rw [List.cons_append]
    unfold insertByDeadline
    split
    · rfl
    · rw [ih]
      rfl

theorem insertByDeadline_back {early late : List (Timer κ)}
    (before : ∀ y ∈ early, y.deadline < x.deadline) :
    insertByDeadline x (early ++ late) = early ++ insertByDeadline x late := by
  induction early with
  | nil => rfl
  | cons y rest ih =>
    obtain ⟨first, others⟩ := List.forall_mem_cons.mp before
    have late : ¬ x.deadline ≤ y.deadline := by
      rw [Instant.lt_iff] at first
      rw [Instant.le_iff]
      omega
    rw [List.cons_append, insertByDeadline, if_neg late, ih others]
    rfl

theorem sortByDeadline_cons (x : Timer κ) (timers : List (Timer κ)) :
    sortByDeadline (x :: timers) = insertByDeadline x (sortByDeadline timers) := rfl

theorem mem_sorted_filter {p : Timer κ → Bool} :
    x ∈ sortByDeadline (timers.filter p) ↔ x ∈ timers ∧ p x = true := by
  rw [(sortByDeadline_perm _).mem_iff, List.mem_filter]

section Splitting

variable {r : Instant} (le : r ≤ t)
include le

/-- Induction over the timers in the order of arming: one that is due early goes before all
that are due late, and one that is due late after all that are due early. -/
theorem sortByDeadline_split (timers : List (Timer κ)) :
    sortByDeadline (timers.filter fun x => decide (x.deadline ≤ t)) =
      sortByDeadline (timers.filter fun x => decide (x.deadline ≤ r)) ++
        sortByDeadline ((timers.filter fun x => !decide (x.deadline ≤ r)).filter
          fun x => decide (x.deadline ≤ t)) := by
  rw [Instant.le_iff] at le
  induction timers with
  | nil => rfl
  | cons x rest ih =>
    by_cases early : x.deadline ≤ r
    · have due : x.deadline ≤ t := by
        rw [Instant.le_iff] at early ⊢
        omega
      simp only [List.filter_cons, decide_eq_true early, decide_eq_true due, if_true,
        Bool.not_true, Bool.false_eq_true, if_false]
      rw [sortByDeadline_cons, sortByDeadline_cons, ih]
      refine insertByDeadline_front fun y member => ?_
      obtain ⟨kept, -⟩ := mem_sorted_filter.mp member
      have late := (List.mem_filter.mp kept).2
      rw [Bool.not_eq_true', decide_eq_false_iff_not] at late
      rw [Instant.le_iff] at early late
      rw [Instant.lt_iff]
      omega
    by_cases due : x.deadline ≤ t
    · simp only [List.filter_cons, decide_eq_false early, decide_eq_true due, if_true,
        Bool.not_false, Bool.false_eq_true, if_false]
      rw [sortByDeadline_cons, sortByDeadline_cons, ih]
      refine insertByDeadline_back fun y member => ?_
      obtain ⟨-, before⟩ := mem_sorted_filter.mp member
      rw [decide_eq_true_iff, Instant.le_iff] at before
      rw [Instant.le_iff] at early
      rw [Instant.lt_iff]
      omega
    · simp only [List.filter_cons, decide_eq_false early, decide_eq_false due, if_true,
        Bool.not_false, Bool.false_eq_true, if_false]
      exact ih

theorem dueTimers_split (a : Agenda κ) :
    a.dueTimers t = a.dueTimers r ++ (a.takeDue r).dueTimers t :=
  sortByDeadline_split le a.timers

theorem takeDue_takeDue (a : Agenda κ) : (a.takeDue r).takeDue t = a.takeDue t := by
  have same : ∀ x : Timer κ,
      ((!decide (x.deadline ≤ t)) && !decide (x.deadline ≤ r)) = !decide (x.deadline ≤ t) := by
    intro x
    by_cases early : x.deadline ≤ r
    · have due : x.deadline ≤ t := by
        rw [Instant.le_iff] at early le ⊢
        omega
      simp only [decide_eq_true due, Bool.not_true, Bool.false_and]
    · simp only [decide_eq_false early, Bool.not_false, Bool.and_true]
  change ({ a with timers := (a.timers.filter _).filter _ } : Agenda κ) = _
  rw [List.filter_filter, takeDue]
  simp only [same]

end Splitting

/-! The seconds that a tick evaluates. -/

theorem plan_first (fresh : a.lastTick = none) : a.plan now = ⟨now, 1, none⟩ := by
  rw [plan, fresh]

/-- Nothing within the same second, the present second alone, or every second since. -/
theorem plan_next (now : Instant) (followed : a.lastTick = some last) :
    now = last ∧ (a.plan now).count = 0 ∨
    now ≠ last ∧ (a.plan now).first = now ∧ (a.plan now).count = 1 ∧
      (last < now → a.maxCatchUp < (now.second - last.second).toNat) ∨
    last < now ∧ (a.plan now).first = last.addSeconds 1 ∧
      (a.plan now).count = (now.second - last.second).toNat ∧
      (a.plan now).count ≤ a.maxCatchUp := by
  unfold plan
  rw [followed]
  dsimp only
  split
  · rename_i same
    exact .inl ⟨same, rfl⟩
  split
  · rename_i other back
    refine .inr (.inl ⟨other, rfl, rfl, ?_⟩)
    intro forward
    rw [Instant.lt_iff] at back forward
    omega
  split
  · rename_i other _ jump
    exact .inr (.inl ⟨other, rfl, rfl, fun _ => jump⟩)
  · rename_i other back jump
    refine .inr (.inr ⟨?_, rfl, rfl, Nat.le_of_not_lt jump⟩)
    rw [Instant.lt_iff] at back ⊢
    rw [Instant.eq_iff] at other
    omega

/-- A plan reports nothing but a clock that went back or jumped. -/
theorem plan_report {m : Mark} (reported : (a.plan now).report = some m) :
    (∃ last, m = .clockBack last now) ∨ ∃ gap, m = .clockJump gap a.maxCatchUp := by
  unfold plan at reported
  split at reported
  · cases reported
  split at reported
  · cases reported
  split at reported
  · cases reported
    exact .inl ⟨_, rfl⟩
  dsimp only at reported
  split at reported
  · cases reported
    exact .inr ⟨_, rfl⟩
  · cases reported

theorem plan_same (followed : a.lastTick = some now) : (a.plan now).count = 0 := by
  rw [plan, followed]
  simp only [if_true]

theorem plan_whole (wholeLast : ∀ last, a.lastTick = some last → last.Whole) (whole : now.Whole)
    (nonempty : 0 < (a.plan now).count) : (a.plan now).first.Whole := by
  cases followed : a.lastTick with
  | none =>
    rw [plan_first followed]
    exact whole
  | some last =>
    rcases plan_next now followed with ⟨-, empty⟩ | ⟨-, first, -⟩ | ⟨-, first, -⟩
    · omega
    · rw [first]
      exact whole
    · rw [first]
      exact Instant.whole_addSeconds (wholeLast last followed) 1

/-- The last of the planned seconds is the present one. -/
theorem plan_last (wholeLast : ∀ last, a.lastTick = some last → last.Whole) (whole : now.Whole)
    (nonempty : 0 < (a.plan now).count) :
    (a.plan now).first.addSeconds (a.plan now).count = now.addSeconds 1 := by
  cases followed : a.lastTick with
  | none => rw [plan_first followed]
  | some last =>
    rcases plan_next now followed with
      ⟨-, empty⟩ | ⟨-, first, count, -⟩ | ⟨forward, first, count, -⟩
    · omega
    · rw [first, count]
    · have wholeLast := (wholeLast last followed).nanos
      have whole := whole.nanos
      rw [first, count, Instant.addSeconds_addSeconds, Instant.eq_iff]
      simp only [Instant.addSeconds_nanos, Instant.second_eq]
      rw [Instant.lt_iff] at forward
      omega

/-- Within the longest gap that is made up for, a tick plans every second after the latest. -/
theorem plan_gap (followed : a.lastTick = some last) (wholeLast : last.Whole) (whole : now.Whole)
    (forward : last ≤ now) (near : now.second - last.second ≤ a.maxCatchUp) :
    (a.plan now).report = none ∧ (a.plan now).count = (now.second - last.second).toNat ∧
      (0 < (a.plan now).count → (a.plan now).first = last.addSeconds 1) := by
  have lastNanos := wholeLast.nanos
  have nanos := whole.nanos
  simp only [Instant.second_eq] at near ⊢
  rw [Instant.le_iff] at forward
  unfold plan
  rw [followed]
  dsimp only
  split
  · rename_i same
    rw [same]
    refine ⟨rfl, ?_, fun none => absurd none (Nat.lt_irrefl 0)⟩
    change 0 = _
    omega
  split
  · rename_i back
    rw [Instant.lt_iff] at back
    omega
  split
  · rename_i jump
    simp only [Instant.second_eq] at jump
    omega
  · exact ⟨rfl, rfl, fun _ => rfl⟩

/-- The planned seconds come after the latest tick unless the clock went back. -/
theorem plan_after (followed : a.lastTick = some last) (forward : last ≤ now)
    (nonempty : 0 < (a.plan now).count) : last < (a.plan now).first := by
  rw [Instant.le_iff] at forward
  rw [Instant.lt_iff]
  rcases plan_next now followed with ⟨-, empty⟩ | ⟨other, first, -⟩ | ⟨-, first, -⟩
  · omega
  · rw [first]
    rw [ne_eq, Instant.eq_iff] at other
    omega
  · rw [first, Instant.addSeconds_nanos]
    omega

/-- Within the longest gap that is made up for, no second is left out. -/
theorem plan_covers (followed : a.lastTick = some last) (wholeLast : last.Whole) (whole : now.Whole)
    (near : now.second - last.second ≤ a.maxCatchUp) {s : Instant} (wholeSecond : s.Whole)
    (late : last < s) (due : s ≤ now) :
    (a.plan now).first ≤ s ∧ s < (a.plan now).first.addSeconds (a.plan now).count := by
  have lastNanos := wholeLast.nanos
  have nanos := whole.nanos
  have secondNanos := wholeSecond.nanos
  rw [Instant.lt_iff] at late
  rw [Instant.le_iff] at due
  simp only [Instant.le_iff, Instant.lt_iff]
  rcases plan_next now followed with
    ⟨same, -⟩ | ⟨-, -, -, jump⟩ | ⟨-, first, count, -⟩
  · rw [same] at due
    omega
  · have far := jump (Instant.lt_iff.mpr (by omega))
    omega
  · simp only [first, count, Instant.addSeconds_nanos, Instant.second_eq]
    omega

end Agenda

end Reflex
