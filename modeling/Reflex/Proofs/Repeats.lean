import Mathlib.Data.List.Nodup
import Reflex.Proofs.Agenda
import Reflex.Proofs.Courses
import Reflex.Proofs.Sessions

/-! Which seconds are evaluated more than once, whatever the clock does. A tick plans seconds
after the latest reading, or the present one alone if the clock went back; so a second is
evaluated again only if a clock that was in it or past it was set back to it or before it. -/
namespace Reflex
open History

variable {σ : Type}

namespace History

/-- The clock was read in a second or past it, and later in an earlier second, which is that one
or lies before it. The latest reading comes first. -/
def SetBack (t : Instant) (J : History) : Prop :=
  ∃ after before, [after, before].Sublist (readings J) ∧ after.truncate < before.truncate ∧
    after.truncate ≤ t ∧ t ≤ before.truncate

/-- The clock never showed an earlier second than before. -/
def Onward (J : History) : Prop :=
  (readings J).Pairwise fun after before => before.truncate ≤ after.truncate

instance (J : History) : Decidable (Onward J) := inferInstanceAs (Decidable (List.Pairwise _ _))

theorem Onward.not_setBack {J : History} (onward : Onward J) (t : Instant) : ¬ SetBack t J := by
  rintro ⟨after, before, sub, back, -⟩
  have ahead := List.rel_of_pairwise_cons (onward.sublist sub) (List.mem_singleton.mpr rfl)
  rw [Instant.lt_iff] at back
  rw [Instant.le_iff] at ahead
  omega

theorem SetBack.mono {J J' : History} {t : Instant} (back : SetBack t J)
    (sub : (readings J).Sublist (readings J')) : SetBack t J' := by
  obtain ⟨after, before, within, rest⟩ := back
  exact ⟨after, before, within.trans sub, rest⟩

end History

/-- The seconds that a course has left. -/
def Course.pending (c : Course) : List Instant := (List.range c.left).map c.next.addSeconds

/-- The course of a tick that would begin now. -/
def World.upcoming (w : World σ) : Course := ⟨w.clock, w.plan.count, w.plan.first, w.plan.count⟩

/-- The seconds that were evaluated, and those that ticks in progress have left. -/
def destined (J : History) (cs : List Course) : List Instant :=
  seconds J ++ cs.flatMap Course.pending

theorem Course.pending_nodup (c : Course) : c.pending.Nodup := by
  apply List.Nodup.map _ List.nodup_range
  intro m n same
  rw [Instant.eq_iff] at same
  simp only [Instant.addSeconds_nanos] at same
  omega

theorem Course.pending_succ (reading next : Instant) (planned left : Nat) :
    Course.pending ⟨reading, planned, next, left + 1⟩ =
      next :: Course.pending ⟨reading, planned, next.addSeconds 1, left⟩ := by
  simp only [Course.pending, List.range_succ_eq_map, List.map_cons, List.map_map,
    Instant.addSeconds_zero]
  congr 1
  apply List.map_congr_left
  intro n _
  simp [Instant.addSeconds_addSeconds, Nat.add_comm]

/-- What a tick plans, and where it lies. -/
theorem Agenda.plan_mem {κ : Type} {a : Agenda κ} {now last t : Instant} {reading : Instant}
    (followed : a.lastTick = some last) (wholeLast : last.Whole) (whole : now.Whole)
    (planned : t ∈ Course.pending ⟨reading, (a.plan now).count, (a.plan now).first,
      (a.plan now).count⟩) :
    t.Whole ∧ t ≤ now ∧ (last < t ∨ t = now ∧ now < last) := by
  obtain ⟨n, below, rfl⟩ := List.mem_map.mp planned
  have below : n < (a.plan now).count := List.mem_range.mp below
  have lastNanos := wholeLast.nanos
  have nanos := whole.nanos
  rcases plan_next now followed with
    ⟨-, empty⟩ | ⟨other, first, count, -⟩ | ⟨forward, first, count, -⟩
  · omega
  · obtain rfl : n = 0 := by omega
    rw [first, Instant.addSeconds_zero]
    refine ⟨whole, Int.le_refl _, ?_⟩
    simp only [ne_eq, Instant.lt_iff, Instant.eq_iff, true_and] at other ⊢
    omega
  · rw [first]
    refine ⟨Instant.whole_addSeconds (Instant.whole_addSeconds wholeLast 1) n, ?_, .inl ?_⟩
    · rw [count] at below
      simp only [Instant.second_eq, Instant.le_iff, Instant.addSeconds_nanos] at below ⊢
      omega
    · simp only [Instant.lt_iff, Instant.addSeconds_nanos]
      omega

/-- Every second lies up to some reading, and one that is evaluated again was passed by a clock
that went back. -/
structure Recounted (w : World σ) (cs : List Course) : Prop where
  followed : w.agenda.lastTick = (readings w.journal).head?.map Instant.truncate
  whole : ∀ t ∈ destined w.journal cs, t.Whole
  reached : ∀ t ∈ destined w.journal cs, ∃ r ∈ readings w.journal, t ≤ r.truncate
  again : ∀ t, 1 < (destined w.journal cs).count t → SetBack t w.journal

namespace Recounted

variable {w w' : World σ} {cs cs' : List Course}

theorem start (clock : Instant) (devices : List Device) (memory : σ) :
    Recounted (.start clock devices memory) [] where
  followed := rfl
  whole _ none := nomatch none
  reached _ none := nomatch none
  again _ many := nomatch many

/-- The same seconds, evaluated or left, and the same readings. -/
theorem of_perm (so : Recounted w cs)
    (perm : (destined w'.journal cs').Perm (destined w.journal cs))
    (same : readings w'.journal = readings w.journal)
    (lastTick : w'.agenda.lastTick = w.agenda.lastTick) : Recounted w' cs' := by
  constructor
  · rw [lastTick, same, so.followed]
  · exact fun t member => so.whole t (perm.mem_iff.mp member)
  · rw [same]
    exact fun t member => so.reached t (perm.mem_iff.mp member)
  · intro t many
    rw [perm.count_eq] at many
    exact (so.again t many).mono (by rw [same])

theorem calm (so : Recounted w cs) (calm : w.Calm w') : Recounted w' cs :=
  so.of_perm (by rw [destined, destined, calm.seconds]) calm.readings calm.lastTick

theorem second {reading next : Instant} {planned left : Nat}
    (so : Recounted w (⟨reading, planned, next, left + 1⟩ :: cs)) :
    Recounted ((w.marked (.second next)).taking next)
      (⟨reading, planned, next.addSeconds 1, left⟩ :: cs) := by
  refine so.of_perm ?_ rfl rfl
  change (next :: seconds w.journal ++ _).Perm (seconds w.journal ++ _)
  rw [List.flatMap_cons, List.flatMap_cons, Course.pending_succ]
  exact List.perm_middle.symm

theorem finish {reading next : Instant} {planned : Nat}
    (so : Recounted w (⟨reading, planned, next, 0⟩ :: cs)) :
    Recounted (w.marked (.tickEnded planned)) cs :=
  so.of_perm (.refl _) rfl rfl

/-- A second after the latest reading that is already accounted for lies up to an earlier
reading. -/
theorem passed (so : Recounted w cs) {latest t : Instant}
    (known : (readings w.journal).head? = some latest) (ahead : latest.truncate < t)
    (member : t ∈ destined w.journal cs) : SetBack t w.journal := by
  obtain ⟨r, read, bound⟩ := so.reached t member
  cases list : readings w.journal with
  | nil => simp [list] at known
  | cons first rest =>
    obtain rfl : first = latest := by simpa [list] using known
    rw [Instant.lt_iff] at ahead
    rw [Instant.le_iff] at bound
    have older : r ∈ rest := by
      rw [list] at read
      rcases List.mem_cons.mp read with rfl | older
      · omega
      · exact older
    refine ⟨first, r, ?_, ?_, ?_, bound⟩
    · rw [list]
      exact List.cons_sublist_cons.mpr (List.singleton_sublist.mpr older)
    · rw [Instant.lt_iff]
      omega
    · rw [Instant.le_iff]
      omega

/-- The seconds that a tick plans are accounted for already only if the clock went back. -/
theorem planned (so : Recounted w cs) : ∀ t ∈ w.upcoming.pending, t.Whole ∧
    t ≤ w.clock.truncate ∧ (t ∈ destined w.journal cs → SetBack t w.beginning.journal) := by
  intro t member
  have followed := so.followed
  have known : readings w.beginning.journal = w.clock :: readings w.journal := rfl
  cases list : readings w.journal with
  | nil =>
    rw [list] at followed
    have first : w.plan = ⟨w.clock.truncate, 1, none⟩ := Agenda.plan_first followed
    rw [World.upcoming, first] at member
    obtain rfl : t = w.clock.truncate := by
      simpa [Course.pending, Instant.addSeconds_zero] using member
    refine ⟨Instant.whole_truncate _, Int.le_refl _, fun old => ?_⟩
    obtain ⟨r, read, -⟩ := so.reached _ old
    simp [list] at read
  | cons latest rest =>
    rw [list] at followed
    obtain ⟨whole, bound, place⟩ := Agenda.plan_mem followed latest.whole_truncate
      w.clock.whole_truncate member
    refine ⟨whole, bound, fun old => ?_⟩
    rcases place with ahead | ⟨rfl, back⟩
    · have passed := so.passed (by rw [list]; rfl) ahead old
      exact passed.mono (by rw [known]; exact List.sublist_cons_self _ _)
    · refine ⟨w.clock, latest, ?_, back, Int.le_refl _, Int.le_of_lt back⟩
      rw [known, list]
      simp

theorem begin (so : Recounted w cs) : Recounted w.beginning (w.upcoming :: cs) := by
  have planned := so.planned
  have known : readings w.beginning.journal = w.clock :: readings w.journal := rfl
  have perm : (destined w.beginning.journal (w.upcoming :: cs)).Perm
      (w.upcoming.pending ++ destined w.journal cs) := by
    change (seconds w.journal ++ _).Perm _
    rw [List.flatMap_cons, destined]
    exact List.perm_append_comm_assoc ..
  constructor
  · rfl
  · intro t member
    rcases List.mem_append.mp (perm.mem_iff.mp member) with new | old
    · exact (planned t new).1
    · exact so.whole t old
  · intro t member
    rw [known]
    rcases List.mem_append.mp (perm.mem_iff.mp member) with new | old
    · exact ⟨w.clock, .head _, (planned t new).2.1⟩
    · obtain ⟨r, read, bound⟩ := so.reached t old
      exact ⟨r, .tail _ read, bound⟩
  · intro t many
    rw [perm.count_eq, List.count_append] at many
    have single := List.nodup_iff_count_le_one.mp w.upcoming.pending_nodup t
    by_cases more : 1 < (destined w.journal cs).count t
    · exact (so.again t more).mono (by rw [known]; exact List.sublist_cons_self _ _)
    · have new : t ∈ w.upcoming.pending := List.count_pos_iff.mp (by omega)
      have old : t ∈ destined w.journal cs := List.count_pos_iff.mp (by omega)
      exact (planned t new).2.2 old

theorem turn {w w' : World σ} {cs cs' : List Course} (turn : Turn w cs w' cs')
    (so : Recounted w cs) : Recounted w' cs' := by
  cases turn with
  | calm calm => exact so.calm calm
  | begin => exact so.begin
  | second => exact so.second
  | finish => exact so.finish

end Recounted

theorem Reached.recounted {rule : Rule} {m : Moment σ} (reached : Reached rule m) :
    Recounted m.world (Frames.courses m.frames) :=
  reached.invariant (P := fun m => Recounted m.world (Frames.courses m.frames)) Recounted.start
    fun _ so step => .turn step.turn so

/-- A second that is evaluated again was passed by a clock that went back. -/
theorem Session.again {rule : Rule} (allowed : rule.Open) {e : Bool} {w : World σ}
    (session : Session rule e w) {t : Instant} (many : 1 < (seconds w.journal).count t) :
    SetBack t w.journal := by
  obtain ⟨-, fs, reached, -⟩ := session.reached allowed
  apply reached.recounted.again
  rw [destined, List.count_append]
  exact Nat.lt_add_right _ many

theorem Session.whole {rule : Rule} (allowed : rule.Open) {e : Bool} {w : World σ}
    (session : Session rule e w) {t : Instant} (member : t ∈ seconds w.journal) : t.Whole := by
  obtain ⟨-, fs, reached, -⟩ := session.reached allowed
  exact reached.recounted.whole t (List.mem_append_left _ member)

end Reflex
