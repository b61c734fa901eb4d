import Reflex.Proofs.Duties
import Reflex.Proofs.Sessions

/-! What a journal tells of periodic jobs: which are registered, and how far the evaluation of
each second has come. A second is published on its topics, then the jobs that are due are taken
and started in the order of their registration. -/
namespace Reflex
open Act Engine

variable {σ : Type} {rule : Rule}

/-- A second being evaluated: the topics that are left to publish, and the due jobs that are left
to start, once they are taken. -/
structure Round where
  second : Instant
  topics : List String
  due : Option (List Nat)

namespace Round

def publish (r : Round) : Round := { r with topics := r.topics.tail }

def take (jobs : List Nat) (r : Round) : Round := { r with due := some jobs }

def start (r : Round) : Round := { r with due := r.due.map List.tail }

/-- How often a job is still to be started. -/
def left (job : Nat) (r : Round) : Nat := (r.due.getD []).count job

def leftAt (job : Nat) (t : Instant) (r : Round) : Nat := if r.second = t then r.left job else 0

/-- The jobs that are due were not taken. -/
def isUnserved (t : Instant) (r : Round) : Bool := decide (r.second = t) && r.due.isNone

end Round

namespace History

/-- The jobs ever registered, with their schedules, in order. -/
def enlisted : History → List (Nat × Schedule)
  | [] => []
  | .jobRegistered job s :: earlier => enlisted earlier ++ [(job, s)]
  | _ :: earlier => enlisted earlier

/-- The jobs that are registered, with their schedules, in the order of their registration. -/
def registered : History → List (Nat × Schedule)
  | [] => []
  | .jobRegistered job s :: earlier => registered earlier ++ [(job, s)]
  | .jobRemoved job _ :: earlier => (registered earlier).filter (·.1 != job)
  | _ :: earlier => registered earlier

/-- The registered jobs that are due in a second, in the order of their registration. -/
def due (t : Instant) (J : History) : List Nat := ((registered J).filter (·.2.isDue t)).map (·.1)

/-- The seconds being evaluated, the latest first. -/
def rounds : History → List Round
  | [] => []
  | .second t :: earlier => ⟨t, t.topics, none⟩ :: rounds earlier
  | .announced _ :: earlier => (rounds earlier).modifyHead Round.publish
  | .served t :: earlier => (rounds earlier).modifyHead (Round.take (due t earlier))
  | .jobStarted _ _ :: earlier => (rounds earlier).modifyHead Round.start
  | .secondEnded _ :: earlier => (rounds earlier).tail
  | _ :: earlier => rounds earlier

/-- The seconds whose due jobs were taken. -/
def servings (J : History) : List Instant := J.filterMap fun
  | .served t => some t
  | _ => none

/-- The jobs that are to run, each with its second: those that were registered and due when the
due jobs of the second were taken. -/
def services : History → List (Nat × Instant)
  | [] => []
  | .served t :: earlier => (due t earlier).map (·, t) ++ services earlier
  | _ :: earlier => services earlier

/-- A second is published on its topics in order, its due jobs are taken when no topic is left,
they are started in order, and it ends when none is left. -/
def InTurn (earlier : History) : Mark → Prop
  | .announced topic => ∃ t rest, (rounds earlier).head? = some ⟨t, topic :: rest, none⟩
  | .served t => (rounds earlier).head? = some ⟨t, [], none⟩
  | .jobStarted job t => ∃ rest, (rounds earlier).head? = some ⟨t, [], some (job :: rest)⟩
  | .secondEnded t => (rounds earlier).head? = some ⟨t, [], some []⟩
  | _ => True

/-- The timers due in a second are taken as soon as it is begun, and what is announced is the
publication of the second with its time. -/
def AtOnce (earlier : History) (m : Mark) : Prop :=
  match earlier with
  | .second t :: _ => ∃ timers, m = .timersTaken t timers
  | .announced topic :: before =>
    ∃ r ∈ (rounds before).head?, m = .emitted topic [Tick.payload r.second]
  | _ => True

/-- Nothing is about to follow at once. -/
def Quiescent : History → Prop
  | .second _ :: _ => False
  | .announced _ :: _ => False
  | _ => True

/-- Jobs are numbered in the order of their registration. -/
def Numbers (earlier : History) : Mark → Prop
  | .jobRegistered job _ => job = (enlisted earlier).length
  | _ => True

/-- A removal finds the job if it is registered. -/
def Finds (earlier : History) : Mark → Prop
  | .jobRemoved job found => found = true ↔ job ∈ (registered earlier).map (·.1)
  | _ => True

variable {J later earlier : History} {job : Nat} {s : Schedule} {t : Instant} {m : Mark}

/-! Marks that tell nothing of jobs. -/

theorem enlisted_append (quiet : ∀ m ∈ later, m.isWork = false) :
    enlisted (later ++ J) = enlisted J := by
  apply append_of_silent _ quiet
  rintro (_ | _) J first <;> first | rfl | cases first

theorem registered_append (quiet : ∀ m ∈ later, m.isWork = false) :
    registered (later ++ J) = registered J := by
  apply append_of_silent _ quiet
  rintro (_ | _) J first <;> first | rfl | cases first

theorem rounds_append (quiet : ∀ m ∈ later, m.isWork = false) :
    rounds (later ++ J) = rounds J := by
  apply append_of_silent _ quiet
  rintro (_ | _) J first <;> first | rfl | cases first

theorem quiescent_append (quiescent : Quiescent J) (quiet : ∀ m ∈ later, m.isWork = false) :
    Quiescent (later ++ J) := by
  cases later with
  | nil => exact quiescent
  | cons m rest =>
    have first := quiet m (.head _)
    cases m <;> trivial

theorem atOnce_quiescent (quiescent : Quiescent J) (m : Mark) : AtOnce J m := by
  unfold AtOnce
  split
  · exact quiescent.elim
  · exact quiescent.elim
  · trivial

theorem atOnce_append (all : Everywhere AtOnce J) (quiescent : Quiescent J)
    (quiet : ∀ m ∈ later, m.isWork = false) : Everywhere AtOnce (later ++ J) := by
  induction later with
  | nil => exact all
  | cons m rest ih =>
    obtain ⟨first, others⟩ := List.forall_mem_cons.mp quiet
    exact .cons (atOnce_quiescent (quiescent_append quiescent others) m) (ih others)

/-! Registration. -/

theorem mem_enlisted : (job, s) ∈ enlisted J ↔ .jobRegistered job s ∈ J := by
  induction J with
  | nil => simp [enlisted]
  | cons m earlier ih => cases m <;> simp [enlisted, ih, or_comm, eq_comm]

theorem enlisted_numbers (numbers : Everywhere Numbers J) :
    (enlisted J).map (·.1) = List.range (enlisted J).length := by
  induction J with
  | nil => rfl
  | cons m earlier ih =>
    have before := ih numbers.tail
    cases m with
    | jobRegistered job s =>
      obtain rfl : job = (enlisted earlier).length := numbers.head
      simp [enlisted, before, List.range_succ]
    | _ => exact before

theorem registered_sublist : (registered J).Sublist (enlisted J) := by
  induction J with
  | nil => exact .slnil
  | cons m earlier ih =>
    cases m with
    | jobRegistered job s => exact ih.append (.refl _)
    | jobRemoved job found => exact List.filter_sublist.trans ih
    | _ => exact ih

/-- Numbers increase with the order of registration. -/
theorem registered_ordered (numbers : Everywhere Numbers J) :
    (registered J).Pairwise (·.1 < ·.1) := by
  have ordered : ((enlisted J).map (·.1)).Pairwise (· < ·) := by
    rw [enlisted_numbers numbers]
    exact List.pairwise_lt_range
  exact (List.pairwise_map.mp ordered).sublist registered_sublist

theorem enlisted_lt (numbers : Everywhere Numbers J) (member : (job, s) ∈ enlisted J) :
    job < (enlisted J).length := by
  have listed : job ∈ (enlisted J).map (·.1) := List.mem_map_of_mem member
  rw [enlisted_numbers numbers] at listed
  exact List.mem_range.mp listed

/-- What was removed had been registered. -/
theorem enlisted_of_removed (finds : Everywhere Finds J) (gone : .jobRemoved job true ∈ J) :
    ∃ s, (job, s) ∈ enlisted J := by
  induction J with
  | nil => cases gone
  | cons m earlier ih =>
    have kept : ∀ {s}, (job, s) ∈ enlisted earlier → (job, s) ∈ enlisted (m :: earlier) :=
      fun member => mem_enlisted.mpr (.tail _ (mem_enlisted.mp member))
    rcases List.mem_cons.mp gone with rfl | before
    · obtain ⟨⟨_, s⟩, member, rfl⟩ := List.mem_map.mp (finds.head.mp rfl)
      exact ⟨s, kept (registered_sublist.subset member)⟩
    · obtain ⟨s, member⟩ := ih finds.tail before
      exact ⟨s, kept member⟩

/-- A job is registered once it was registered, until it is removed. -/
theorem mem_registered (numbers : Everywhere Numbers J) (finds : Everywhere Finds J) :
    (job, s) ∈ registered J ↔ .jobRegistered job s ∈ J ∧ .jobRemoved job true ∉ J := by
  induction J with
  | nil => simp [registered]
  | cons m earlier ih =>
    have before := ih numbers.tail finds.tail
    cases m with
    | jobRegistered n u =>
      have fresh : .jobRemoved n true ∉ earlier := by
        intro gone
        obtain ⟨v, member⟩ := enlisted_of_removed finds.tail gone
        exact Nat.lt_irrefl _ (numbers.head ▸ enlisted_lt numbers.tail member)
      simp only [registered, List.mem_append, before, Prod.mk.injEq, List.mem_cons,
        List.not_mem_nil, or_false, Mark.jobRegistered.injEq, reduceCtorEq, false_or]
      constructor
      · rintro (⟨old, kept⟩ | ⟨rfl, rfl⟩)
        · exact ⟨.inr old, kept⟩
        · exact ⟨.inl ⟨rfl, rfl⟩, fresh⟩
      · rintro ⟨new | old, kept⟩
        · exact .inr new
        · exact .inl ⟨old, kept⟩
    | jobRemoved n found =>
      simp only [registered, List.mem_filter, before, bne_iff_ne, ne_eq, List.mem_cons,
        Mark.jobRemoved.injEq, reduceCtorEq, false_or, not_or, not_and, and_assoc]
      refine and_congr_right fun old => ⟨?_, ?_⟩
      · rintro ⟨kept, other⟩
        exact ⟨fun same => absurd same other, kept⟩
      · rintro ⟨other, kept⟩
        refine ⟨kept, fun same => ?_⟩
        subst same
        have there : (job, s) ∈ registered earlier := before.mpr ⟨old, kept⟩
        exact other rfl (finds.head.mpr (List.mem_map_of_mem there)).symm
    | _ => simpa [registered] using before

/-! How far the latest second is when something is done in it. -/

theorem InTurn.announced {topic : String} (turn : InTurn J (.announced topic)) :
    ∃ u rest ks, rounds J = ⟨u, topic :: rest, none⟩ :: ks := by
  obtain ⟨u, rest, top⟩ := turn
  exact ⟨u, rest, List.head?_eq_some_iff.mp top⟩

theorem InTurn.served (turn : InTurn J (.served t)) : ∃ ks, rounds J = ⟨t, [], none⟩ :: ks :=
  List.head?_eq_some_iff.mp turn

theorem InTurn.jobStarted (turn : InTurn J (.jobStarted job t)) :
    ∃ rest ks, rounds J = ⟨t, [], some (job :: rest)⟩ :: ks := by
  obtain ⟨rest, top⟩ := turn
  exact ⟨rest, List.head?_eq_some_iff.mp top⟩

theorem InTurn.secondEnded (turn : InTurn J (.secondEnded t)) :
    ∃ ks, rounds J = ⟨t, [], some []⟩ :: ks :=
  List.head?_eq_some_iff.mp turn

/-! Starts. -/

theorem left_take (jobs : List Nat) (t u : Instant) (job : Nat) :
    Round.leftAt job t ⟨u, [], some jobs⟩ = (jobs.map (·, u)).count (job, t) := by
  have paired : ∀ jobs : List Nat, (jobs.map (·, u)).count (job, t) =
      if u = t then jobs.count job else 0 := by
    intro jobs
    induction jobs with
    | nil => simp
    | cons n rest ih =>
      simp only [List.map_cons, List.count_cons, ih, beq_iff_eq, Prod.mk.injEq]
      by_cases same : u = t <;> simp [same]
  rw [paired]
  rfl

/-- Every job that is to run in a second has started or is left to start. -/
theorem starts_add_left (inTurn : Everywhere InTurn J) (job : Nat) (t : Instant) :
    (jobRuns J).count (job, t) + ((rounds J).map (Round.leftAt job t)).sum =
      (services J).count (job, t) := by
  induction J with
  | nil => rfl
  | cons m earlier ih =>
    have before := ih inTurn.tail
    have turn := inTurn.head
    cases m with
    | second u => simpa [rounds, services, jobRuns, Round.leftAt, Round.left] using before
    | announced topic =>
      obtain ⟨u, rest, ks, known⟩ := turn.announced
      simpa [rounds, services, jobRuns, known, Round.publish, Round.leftAt, Round.left] using before
    | served u =>
      obtain ⟨ks, known⟩ := turn.served
      have unserved : Round.leftAt job t ⟨u, [], none⟩ = 0 := by simp [Round.leftAt, Round.left]
      have taken := left_take (due u earlier) t u job
      simp only [known, List.map_cons, List.sum_cons, unserved] at before
      simp only [rounds, services, known, List.modifyHead_cons, Round.take, List.map_cons,
        List.sum_cons, taken, List.count_append, ← before]
      change (jobRuns earlier).count (job, t) + _ = _
      omega
    | jobStarted n u =>
      obtain ⟨rest, ks, known⟩ := turn.jobStarted
      have first := left_take (n :: rest) t u job
      have others := left_take rest t u job
      rw [List.map_cons, List.count_cons] at first
      simp only [known, List.map_cons, List.sum_cons] at before
      simp only [rounds, services, known, List.modifyHead_cons, Round.start, List.map_cons,
        List.sum_cons, Option.map_some, List.tail_cons, ← before]
      change ((n, u) :: jobRuns earlier).count (job, t) + _ = _
      rw [List.count_cons]
      omega
    | secondEnded u =>
      obtain ⟨ks, known⟩ := turn.secondEnded
      simpa [rounds, services, jobRuns, known, Round.leftAt, Round.left] using before
    | _ => exact before

/-- Every evaluated second has had its due jobs taken or is still to have them taken. -/
theorem servings_add_unserved (inTurn : Everywhere InTurn J) (t : Instant) :
    (servings J).count t + (rounds J).countP (Round.isUnserved t) = (seconds J).count t := by
  induction J with
  | nil => rfl
  | cons m earlier ih =>
    have before := ih inTurn.tail
    have turn := inTurn.head
    cases m with
    | second u =>
      change (servings earlier).count t + (⟨u, u.topics, none⟩ :: rounds earlier).countP _ =
        (u :: seconds earlier).count t
      rw [List.countP_cons, List.count_cons, ← before]
      simp [Round.isUnserved, Nat.add_assoc]
    | announced topic =>
      obtain ⟨u, rest, ks, known⟩ := turn.announced
      simpa [rounds, servings, seconds, known, List.countP_cons, Round.publish,
        Round.isUnserved] using before
    | served u =>
      obtain ⟨ks, known⟩ := turn.served
      change (u :: servings earlier).count t +
        ((rounds earlier).modifyHead _).countP _ = (seconds earlier).count t
      simp only [known, List.countP_cons] at before
      simp only [known, List.modifyHead_cons, List.countP_cons, List.count_cons, ← before]
      simp [Round.isUnserved, Round.take]
      omega
    | jobStarted n u =>
      obtain ⟨rest, ks, known⟩ := turn.jobStarted
      simpa [rounds, servings, seconds, known, List.countP_cons, Round.start,
        Round.isUnserved] using before
    | secondEnded u =>
      obtain ⟨ks, known⟩ := turn.secondEnded
      simpa [rounds, servings, seconds, known, List.countP_cons, Round.isUnserved] using before
    | _ => exact before

/-- Until another second begins or this one ends, the jobs that were taken start in order. -/
theorem starts_in_order {mid : History} (inTurn : Everywhere InTurn (mid ++ .served t :: earlier))
    (alone : ∀ m ∈ mid, (∀ u, m ≠ .second u) ∧ ∀ u, m ≠ .secondEnded u) :
    ∃ rest, (rounds (mid ++ .served t :: earlier)).head? = some ⟨t, [], some rest⟩ ∧
      (jobRuns mid).reverse ++ rest.map (·, t) = (due t earlier).map (·, t) := by
  induction mid with
  | nil =>
    obtain ⟨ks, known⟩ := List.head?_eq_some_iff.mp inTurn.head
    exact ⟨due t earlier, by simp [rounds, known, Round.take], rfl⟩
  | cons m before ih =>
    obtain ⟨own, others⟩ := List.forall_mem_cons.mp alone
    obtain ⟨rest, top, so⟩ := ih inTurn.tail others
    obtain ⟨ks, known⟩ := List.head?_eq_some_iff.mp top
    have turn : InTurn (before ++ .served t :: earlier) m := inTurn.head
    cases m with
    | second u => exact absurd rfl (own.1 u)
    | secondEnded u => exact absurd rfl (own.2 u)
    | announced topic =>
      obtain ⟨u, topics, first⟩ := turn
      rw [top] at first
      cases first
    | served u =>
      have first : _ = some (⟨u, [], none⟩ : Round) := turn
      rw [top] at first
      cases first
    | jobStarted n u =>
      obtain ⟨others, first⟩ := turn
      rw [top] at first
      cases first
      refine ⟨others, by simp [rounds, known, Round.start], ?_⟩
      rw [← so]
      change ((n, t) :: jobRuns before).reverse ++ _ = _
      simp
    | _ => exact ⟨rest, top, so⟩

end History

open History

/-! The journal of a roster. -/

/-- A job's number and schedule. -/
def Job.entry (j : Job (Reaction σ)) : Nat × Schedule := (j.id, j.schedule)

def Watch.round (k : Watch σ) : Round := ⟨k.second, k.topics, k.due.map (·.map Job.id)⟩

/-- The journal tells which jobs are registered and how far the seconds have come. -/
structure Roster.Told (m : Roster σ) : Prop where
  nextJob : m.world.agenda.nextJob = (enlisted m.world.journal).length
  jobs : m.world.agenda.jobs.map Job.entry = registered m.world.journal
  rounds : m.watches.map Watch.round = rounds m.world.journal
  numbers : Everywhere Numbers m.world.journal
  finds : Everywhere Finds m.world.journal
  inTurn : Everywhere InTurn m.world.journal
  atOnce : Everywhere AtOnce m.world.journal
  quiescent : Quiescent m.world.journal

namespace Roster.Told

variable {w w' : World σ} {k : Watch σ} {ks : Watches σ} {all : List (Job (Reaction σ))}
  {t : Instant}

theorem start (clock : Instant) (devices : List Device) (memory : σ) :
    Told ⟨.start clock devices memory, [], []⟩ where
  nextJob := rfl
  jobs := rfl
  rounds := rfl
  numbers := .nil
  finds := .nil
  inTurn := .nil
  atOnce := .nil
  quiescent := trivial

theorem idle (told : Told ⟨w, ks, all⟩) (idles : w.Idles w') : Told ⟨w', ks, all⟩ := by
  obtain ⟨later, journal, quiet⟩ := idles.journal
  have trivially : ∀ {P : History → Mark → Prop}, (∀ J m, m.isWork = false → P J m) →
      Everywhere P w.journal → Everywhere P w'.journal := by
    intro P holds all
    rw [journal]
    exact all.append fun m member J => holds J m (quiet m member)
  constructor
  · simpa only [idles.nextJob, journal, enlisted_append quiet] using told.nextJob
  · simpa only [idles.jobs, journal, registered_append quiet] using told.jobs
  · simpa only [journal, rounds_append quiet] using told.rounds
  · exact trivially (by rintro J (_ | _) first <;> trivial) told.numbers
  · exact trivially (by rintro J (_ | _) first <;> trivial) told.finds
  · exact trivially (by rintro J (_ | _) first <;> trivial) told.inTurn
  · simpa only [journal] using atOnce_append told.atOnce told.quiescent quiet
  · simpa only [journal] using quiescent_append told.quiescent quiet

theorem enlist (told : Told ⟨w, ks, all⟩) (s : Schedule) (task : Reaction σ) :
    Told ⟨w.enlisting s task, ks, all ++ [⟨w.agenda.nextJob, s, task⟩]⟩ where
  nextJob := by
    change w.agenda.nextJob + 1 = (enlisted w.journal ++ [_]).length
    simpa using told.nextJob
  jobs := by
    change (w.agenda.jobs ++ [_]).map Job.entry = registered w.journal ++ [_]
    rw [← told.jobs, List.map_append]
    rfl
  rounds := told.rounds
  numbers := .cons told.nextJob told.numbers
  finds := .cons trivial told.finds
  inTurn := .cons trivial told.inTurn
  atOnce := .cons (atOnce_quiescent told.quiescent _) told.atOnce
  quiescent := trivial

theorem dismiss (told : Told ⟨w, ks, all⟩) (id : Nat) : Told ⟨w.dismissing id, ks, all⟩ where
  nextJob := told.nextJob
  jobs := by
    change (w.agenda.jobs.filter _).map Job.entry = (registered w.journal).filter _
    rw [← told.jobs, List.filter_map]
    rfl
  rounds := told.rounds
  numbers := .cons trivial told.numbers
  finds := by
    apply Everywhere.cons _ told.finds
    change w.agenda.hasJob id = true ↔ id ∈ (registered w.journal).map (·.1)
    rw [← told.jobs]
    simp [Agenda.hasJob, Job.entry]
  inTurn := .cons trivial told.inTurn
  atOnce := .cons (atOnce_quiescent told.quiescent _) told.atOnce
  quiescent := trivial

theorem second (told : Told ⟨w, ks, all⟩) (t : Instant) :
    Told ⟨((w.dated (some t)).marked (.second t)).taking t, ⟨t, t.topics, none⟩ :: ks, all⟩ where
  nextJob := told.nextJob
  jobs := told.jobs
  rounds := by
    change _ :: ks.map Watch.round = _ :: History.rounds w.journal
    rw [← told.rounds]
    rfl
  numbers := .cons trivial (.cons trivial told.numbers)
  finds := .cons trivial (.cons trivial told.finds)
  inTurn := .cons trivial (.cons trivial told.inTurn)
  atOnce := .cons ⟨_, rfl⟩ (.cons (atOnce_quiescent told.quiescent _) told.atOnce)
  quiescent := trivial

/-- The latest of the seconds being evaluated. -/
theorem top (told : Told ⟨w, k :: ks, all⟩) :
    History.rounds w.journal = k.round :: ks.map Watch.round := told.rounds.symm

theorem announce {topic : String} {rest : List String}
    (told : Told ⟨w, ⟨t, topic :: rest, none⟩ :: ks, all⟩) :
    Told ⟨w.announcing topic t, ⟨t, rest, none⟩ :: ks, all⟩ := by
  have top : History.rounds w.journal = ⟨t, topic :: rest, none⟩ :: ks.map Watch.round := told.top
  constructor
  · exact told.nextJob
  · exact told.jobs
  · change _ = (History.rounds w.journal).modifyHead _
    rw [top]
    rfl
  · exact .cons trivial (.cons trivial told.numbers)
  · exact .cons trivial (.cons trivial told.finds)
  · exact .cons trivial (.cons ⟨t, rest, by rw [top]; rfl⟩ told.inTurn)
  · have published : AtOnce (.announced topic :: w.journal) (.emitted topic [Tick.payload t]) := by
      refine ⟨⟨t, topic :: rest, none⟩, ?_, rfl⟩
      rw [top]
      exact Option.mem_some_self _
    exact .cons published (.cons (atOnce_quiescent told.quiescent _) told.atOnce)
  · trivial

theorem due_eq (told : Told ⟨w, ks, all⟩) (t : Instant) :
    (w.agenda.dueJobs t).map Job.id = due t w.journal := by
  have jobs : w.agenda.jobs.map Job.entry = registered w.journal := told.jobs
  rw [due, ← jobs, List.filter_map, List.map_map]
  rfl

theorem take (told : Told ⟨w, ⟨t, [], none⟩ :: ks, all⟩) :
    Told ⟨w.marked (.served t), ⟨t, [], some (w.agenda.dueJobs t)⟩ :: ks, all⟩ where
  nextJob := told.nextJob
  jobs := told.jobs
  rounds := by
    change _ = (History.rounds w.journal).modifyHead _
    rw [told.top, ← told.due_eq]
    rfl
  numbers := .cons trivial told.numbers
  finds := .cons trivial told.finds
  inTurn := .cons (by rw [InTurn, told.top]; rfl) told.inTurn
  atOnce := .cons (atOnce_quiescent told.quiescent _) told.atOnce
  quiescent := trivial

theorem fire {j : Job (Reaction σ)} {rest : List (Job (Reaction σ))}
    (told : Told ⟨w, ⟨t, [], some (j :: rest)⟩ :: ks, all⟩) :
    Told ⟨w.marked (.jobStarted j.id t), ⟨t, [], some rest⟩ :: ks, all⟩ where
  nextJob := told.nextJob
  jobs := told.jobs
  rounds := by
    change _ = (History.rounds w.journal).modifyHead _
    rw [told.top]
    rfl
  numbers := .cons trivial told.numbers
  finds := .cons trivial told.finds
  inTurn := .cons ⟨rest.map Job.id, by rw [told.top]; rfl⟩ told.inTurn
  atOnce := .cons (atOnce_quiescent told.quiescent _) told.atOnce
  quiescent := trivial

theorem close (told : Told ⟨w, ⟨t, [], some []⟩ :: ks, all⟩) :
    Told ⟨(w.dated ks.current).marked (.secondEnded t), ks, all⟩ where
  nextJob := told.nextJob
  jobs := told.jobs
  rounds := by
    change _ = (History.rounds w.journal).tail
    rw [told.top]
    rfl
  numbers := .cons trivial told.numbers
  finds := .cons trivial told.finds
  inTurn := .cons (by change (History.rounds w.journal).head? = _; rw [told.top]; rfl) told.inTurn
  atOnce := .cons (atOnce_quiescent told.quiescent _) told.atOnce
  quiescent := trivial

end Roster.Told

theorem Roster.Next.told {m m' : Roster σ} (next : Next m m') (told : m.Told) : m'.Told := by
  cases next with
  | idle idles => exact told.idle idles
  | enlist => exact told.enlist _ _
  | dismiss => exact told.dismiss _
  | second => exact told.second _
  | announce => exact told.announce
  | take => exact told.take
  | start => exact told.fire
  | close => exact told.close

theorem Roster.Reached.told {m : Roster σ} (reached : m.Reached) : m.Told := by
  obtain ⟨clock, devices, memory, path⟩ := reached
  induction path with
  | refl => exact .start clock devices memory
  | tail _ next ih => exact next.told ih

end Reflex
