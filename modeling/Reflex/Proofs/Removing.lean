import Reflex.Proofs.Rounds

/-! Removing periodic jobs. A removed job is not taken for a second any more, but in a second
whose due jobs were taken before it is still started. -/
namespace Reflex
open Act Engine History

variable {σ : Type}

namespace History

/-- How often a job was started. -/
def runsOf (job : Nat) (J : History) : Nat := (jobRuns J).countP fun x => decide (x.1 = job)

/-- How often a job is still to be started in seconds being evaluated. -/
def awaited (job : Nat) (rs : List Round) : Nat := (rs.map (Round.left job)).sum

/-- The jobs that were removed while they were registered. -/
def dismissed (J : History) : List Nat := J.filterMap fun
  | .jobRemoved job true => some job
  | _ => none

/-- No job starts that was removed while it was registered. -/
def StartsUnremoved (earlier : History) : Mark → Prop
  | .jobStarted job _ => job ∉ dismissed earlier
  | _ => True

instance (earlier : History) (m : Mark) : Decidable (StartsUnremoved earlier m) :=
  decidable_of_iff (∀ x ∈ jobRuns [m], x.1 ∉ dismissed earlier) <| by
    cases m <;> simp [StartsUnremoved, jobRuns]

variable {J later earlier : History} {job : Nat} {t : Instant} {m : Mark}

theorem due_nodup (numbers : Everywhere Numbers J) (t : Instant) : (due t J).Nodup := by
  have ordered := (registered_ordered numbers).sublist
    (List.filter_sublist (p := fun x => x.2.isDue t))
  apply List.Pairwise.imp Nat.ne_of_lt
  exact List.pairwise_map.mpr ordered

theorem not_mem_due (gone : job ∉ (registered J).map (·.1)) : job ∉ due t J := by
  intro member
  obtain ⟨x, listed, rfl⟩ := List.mem_map.mp member
  exact gone (List.mem_map_of_mem (List.mem_filter.mp listed).1)

/-- A second that is being evaluated has each job at most once. -/
theorem rounds_nodup (numbers : Everywhere Numbers J) :
    ∀ r ∈ rounds J, (r.due.getD []).Nodup := by
  induction J with
  | nil => exact fun _ none => nomatch none
  | cons m earlier ih =>
    have before := ih numbers.tail
    have changed : ∀ f : Round → Round, (∀ r ∈ rounds earlier, ((f r).due.getD []).Nodup) →
        ∀ r ∈ (rounds earlier).modifyHead f, (r.due.getD []).Nodup := by
      intro f new
      cases known : rounds earlier with
      | nil => simp
      | cons k ks =>
        rw [known] at new before
        simp only [List.modifyHead_cons, List.forall_mem_cons] at new before ⊢
        exact ⟨new.1, before.2⟩
    cases m with
    | second u => exact List.forall_mem_cons.mpr ⟨List.nodup_nil, before⟩
    | announced topic => exact changed _ before
    | served u => exact changed _ fun _ _ => due_nodup numbers.tail u
    | jobStarted n u =>
      apply changed
      intro r member
      have nodup := before r member
      unfold Round.start
      cases known : r.due with
      | none => exact List.nodup_nil
      | some jobs =>
        rw [known] at nodup
        exact nodup.sublist (List.tail_sublist jobs)
    | secondEnded u => exact fun r member => before r (List.mem_of_mem_tail member)
    | _ => exact before

/-- From then on a job that is not registered any more is only started in seconds that had taken
it before. -/
theorem runsOf_later (inTurn : Everywhere InTurn (later ++ J))
    (numbers : Everywhere Numbers (later ++ J))
    (known : job < (enlisted J).length) (gone : job ∉ (registered J).map (·.1)) :
    job < (enlisted (later ++ J)).length ∧ job ∉ (registered (later ++ J)).map (·.1) ∧
      runsOf job later + awaited job (rounds (later ++ J)) = awaited job (rounds J) := by
  induction later with
  | nil => exact ⟨known, gone, Nat.zero_add _⟩
  | cons m before ih =>
    obtain ⟨known, gone, so⟩ := ih inTurn.tail numbers.tail
    have turn : InTurn (before ++ J) m := inTurn.head
    cases m with
    | jobRegistered n s =>
      have number : n = (enlisted (before ++ J)).length := numbers.head
      refine ⟨?_, ?_, so⟩
      · change job < (enlisted (before ++ J) ++ [(n, s)]).length
        rw [List.length_append]
        exact Nat.lt_add_right _ known
      · change job ∉ (registered (before ++ J) ++ [(n, s)]).map (·.1)
        rw [List.map_append, List.mem_append]
        rintro (old | new)
        · exact gone old
        · rw [List.mem_singleton.mp new, number] at known
          exact Nat.lt_irrefl _ known
    | jobRemoved n found =>
      refine ⟨known, ?_, so⟩
      intro member
      obtain ⟨x, listed, rfl⟩ := List.mem_map.mp member
      exact gone (List.mem_map_of_mem (List.mem_filter.mp listed).1)
    | second u =>
      refine ⟨known, gone, ?_⟩
      simpa [rounds, runsOf, jobRuns, awaited, Round.left] using so
    | announced topic =>
      obtain ⟨u, rest, ks, shown⟩ := turn.announced
      refine ⟨known, gone, ?_⟩
      simpa [rounds, runsOf, jobRuns, awaited, shown, Round.publish, Round.left] using so
    | served u =>
      obtain ⟨ks, shown⟩ := turn.served
      have unlisted : (due u (before ++ J)).count job = 0 :=
        List.count_eq_zero.mpr (not_mem_due gone)
      refine ⟨known, gone, ?_⟩
      simpa [rounds, runsOf, jobRuns, awaited, shown, Round.take, Round.left, unlisted] using so
    | jobStarted n u =>
      obtain ⟨rest, ks, shown⟩ := turn.jobStarted
      refine ⟨known, gone, ?_⟩
      rw [← so]
      change ((n, u) :: jobRuns before).countP _ +
        awaited job ((rounds (before ++ J)).modifyHead _) = _
      simp only [shown, awaited, List.countP_cons, List.modifyHead_cons, Round.start, List.map_cons,
        List.sum_cons, Round.left, Option.map_some, List.tail_cons, Option.getD_some,
        List.count_cons, decide_eq_true_eq, beq_iff_eq, runsOf]
      omega
    | secondEnded u =>
      obtain ⟨ks, shown⟩ := turn.secondEnded
      refine ⟨known, gone, ?_⟩
      simpa [rounds, runsOf, jobRuns, awaited, shown, Round.left] using so
    | _ => exact ⟨known, gone, so⟩

end History

/-- What a history tells of each call to remove a job: it finds the job exactly if that was
registered and not removed before; and after the call the job is started only in seconds whose
due jobs were taken before it with that job among them, once in each of them. -/
structure RemovalsKept (between : Bool) (J : History) : Prop where
  found : ∀ later job found earlier, J = later ++ .jobRemoved job found :: earlier →
    (found = true ↔ (∃ s, .jobRegistered job s ∈ earlier) ∧ .jobRemoved job true ∉ earlier)
  stops : ∀ later job found earlier s, J = later ++ .jobRemoved job found :: earlier →
    .jobRegistered job s ∈ earlier → runsOf job later ≤ awaited job (rounds earlier)
  escapes : between = true → ∀ later job found earlier s,
    J = later ++ .jobRemoved job found :: earlier → .jobRegistered job s ∈ earlier →
    runsOf job later = awaited job (rounds earlier)
  single : ∀ later job found earlier, J = later ++ .jobRemoved job found :: earlier →
    ∀ r ∈ rounds earlier, r.left job ≤ 1

/-- Wherever it is called from, removing a job stops it, except in a second that has taken it. -/
theorem removal_kept {between : Bool} {w : World σ} (session : Session Rule.free between w) :
    RemovalsKept between w.journal ∧
      ∀ (call : Call σ) (job : Nat) (before : World σ), ∃ found after,
        perform call (.remove job) before = (.ok found, after) ∧
        after.journal = .jobRemoved job found :: before.journal := by
  obtain ⟨ks, all, reached, came⟩ := session.roster
  have told := reached.told
  have after : ∀ later job found earlier s, w.journal = later ++ .jobRemoved job found :: earlier →
      .jobRegistered job s ∈ earlier →
      runsOf job later + awaited job (rounds w.journal) = awaited job (rounds earlier) := by
    intro later job found earlier s split listed
    have numbers := told.numbers
    have inTurn := told.inTurn
    rw [split] at numbers inTurn ⊢
    have known := enlisted_lt numbers.before.tail (mem_enlisted.mpr listed)
    refine (runsOf_later inTurn numbers ?_ ?_).2.2
    · exact known
    · change job ∉ ((registered earlier).filter _).map _
      simp
  refine ⟨⟨?_, ?_, ?_, ?_⟩, ?_⟩
  · intro later job found earlier split
    have numbers := told.numbers
    have finds := told.finds
    rw [split] at numbers finds
    have member : ∀ s, (job, s) ∈ registered earlier ↔
        .jobRegistered job s ∈ earlier ∧ .jobRemoved job true ∉ earlier :=
      fun s => mem_registered numbers.before.tail finds.before.tail
    have listed : job ∈ (registered earlier).map (·.1) ↔ ∃ s, (job, s) ∈ registered earlier := by
      simp
    rw [show found = true ↔ _ from finds.split, listed]
    simp only [member, exists_and_right]
  · intro later job found earlier s split listed
    exact Nat.le_of_add_right_le (Nat.le_of_eq (after later job found earlier s split listed))
  · intro ended later job found earlier s split listed
    have none : rounds w.journal = [] := by
      rw [← told.rounds, (came ended).1]
      rfl
    have total := after later job found earlier s split listed
    rw [none] at total
    exact total
  · intro later job found earlier split r member
    have numbers := told.numbers
    rw [split] at numbers
    exact List.nodup_iff_count_le_one.mp (rounds_nodup numbers.before.tail r member) job
  · exact fun call job before => ⟨_, _, remove_run job before, rfl⟩

/-- Two jobs are due in every second, and the first removes the other in the first second. -/
def eviction : Program Unit :=
  .every Schedule.secondly (.request (.remove 1) fun _ => .done true) fun _ =>
    .every Schedule.secondly (.done true) fun _ =>
      .request .tick fun _ =>
        .request (.setClock ⟨1000000000⟩) fun _ => .perform .tick

def evictionWorld : World Unit := (run 3 eviction (.start ⟨0⟩ [] ())).2

theorem eviction_session : Session Rule.free true evictionWorld :=
  .run_ended (.start ⟨0⟩ [] ()) eviction.within_free (by decide +kernel)

theorem removal_kept_eviction :
    Session Rule.free true evictionWorld ∧
      (jobRuns evictionWorld.journal).reverse =
        [(0, ⟨0⟩), (1, ⟨0⟩), (0, ⟨1000000000⟩)] ∧
      RemovalsKept true evictionWorld.journal :=
  ⟨eviction_session, by decide +kernel, (removal_kept eviction_session).1⟩

/-- The removal finds the job, which is started nevertheless in the same second. -/
theorem eviction_starts_removed :
    Session Rule.free true evictionWorld ∧ dismissed evictionWorld.journal = [1] ∧
      ¬ Everywhere StartsUnremoved evictionWorld.journal :=
  ⟨eviction_session, by decide +kernel, by decide +kernel⟩

end Reflex
