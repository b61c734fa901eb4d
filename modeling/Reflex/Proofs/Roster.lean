import Mathlib.Algebra.GroupWithZero.Nat
import Mathlib.Data.List.Nodup
import Reflex.Proofs.Alterations
import Reflex.Proofs.History

/-! The jobs of the scheduler. Jobs are numbered as they are registered, and no number is given
twice. Evaluating a second publishes its topics, takes the jobs that are due in it and starts
each of them once, with that second as the tick time. -/
namespace Reflex
open Engine

variable {σ : Type}

def Schedule.secondly : Schedule := ⟨1, .second, minutely.count_pos, minutely.count_lt⟩

def Schedule.hourly : Schedule := ⟨1, .hour, minutely.count_pos, minutely.count_lt⟩

theorem Schedule.minutely_due {t : Instant} :
    minutely.isDue t = true ↔ t.secondOfMinute = 0 := by
  simp [isDue, isAligned, minutely, TimeUnit.maxStep, Nat.mod_one]

theorem Schedule.hourly_due {t : Instant} :
    hourly.isDue t = true ↔ t.secondOfMinute = 0 ∧ t.minute = 0 := by
  simp [isDue, isAligned, hourly, TimeUnit.maxStep, Nat.mod_one]

/-- The topics of a second: its own, and those of the minute and the hour if it is one at which
something that is done every minute or every hour is due. -/
def Instant.topics (t : Instant) : List String :=
  secondTopic :: ((if Schedule.minutely.isDue t then [minuteTopic] else []) ++
    if Schedule.hourly.isDue t then [hourTopic] else [])

/-- Marks of jobs and of the seconds in which they start. -/
def Mark.isWork : Mark → Bool
  | jobRegistered _ _ | jobRemoved _ _ | jobStarted _ _ => true
  | second _ | announced _ | served _ | secondEnded _ => true
  | _ => false

namespace History

variable {J later : History}

/-- The jobs that were started, each with its second. -/
def jobRuns (J : History) : List (Nat × Instant) := J.filterMap fun
  | .jobStarted job t => some (job, t)
  | _ => none

theorem jobRuns_append (quiet : ∀ m ∈ later, m.isWork = false) :
    jobRuns (later ++ J) = jobRuns J := by
  apply append_of_silent _ quiet
  rintro (_ | _) J first <;> first | rfl | cases first

theorem seconds_behind (quiet : ∀ m ∈ later, m.isWork = false) :
    seconds (later ++ J) = seconds J := by
  apply append_of_silent _ quiet
  rintro (_ | _) J first <;> first | rfl | cases first

end History

/-- A second being evaluated: the topics that it was not published on, and the due jobs that
have not started, once they are taken. -/
structure Watch (σ : Type) where
  second : Instant
  topics : List String
  due : Option (List (Job (Reaction σ)))

/-- The seconds being evaluated, the latest first. -/
abbrev Watches (σ : Type) := List (Watch σ)

def Watches.current (ks : Watches σ) : Option Instant := ks.head?.map Watch.second

/-- A world with the seconds being evaluated in it and every job ever registered. -/
structure Roster (σ : Type) where
  world : World σ
  watches : Watches σ
  enrolled : List (Job (Reaction σ))

namespace World

def dated (w : World σ) (t : Option Instant) : World σ :=
  { w with agenda := { w.agenda with current := t } }

/-- The scheduler publishes a second, up to the moment when its subscribers are called. -/
def announcing (w : World σ) (topic : String) (t : Instant) : World σ :=
  (w.marked (.announced topic)).marked (.emitted topic [Tick.payload t])

/-- Nothing happens to jobs and to the second being evaluated. -/
structure Idles (w w' : World σ) : Prop where
  jobs : w'.agenda.jobs = w.agenda.jobs
  nextJob : w'.agenda.nextJob = w.agenda.nextJob
  current : w'.agenda.current = w.agenda.current
  journal : w.Without Mark.isWork w'

namespace Idles

variable {w w' last : World σ}

theorem of_same (agenda : w'.agenda = w.agenda) (journal : w'.journal = w.journal) :
    w.Idles w' :=
  ⟨by rw [agenda], by rw [agenda], by rw [agenda], .of_same journal⟩

theorem refl (w : World σ) : w.Idles w := of_same rfl rfl

theorem trans (first : w.Idles w') (rest : w'.Idles last) : w.Idles last where
  jobs := rest.jobs.trans first.jobs
  nextJob := rest.nextJob.trans first.nextJob
  current := rest.current.trans first.current
  journal := first.journal.trans rest.journal

theorem marked (w : World σ) {m : Mark} (quiet : m.isWork = false) : w.Idles (w.marked m) :=
  ⟨rfl, rfl, rfl, .marked w quiet⟩

theorem arming (w : World σ) (d : Span) (task : Reaction σ) : w.Idles (w.arming d task) :=
  ⟨rfl, rfl, rfl, .of_mark rfl rfl⟩

theorem cancelling (w : World σ) (id : Nat) : w.Idles (w.cancelling id) :=
  ⟨rfl, rfl, rfl, .of_mark rfl rfl⟩

theorem taking (w : World σ) (t : Instant) : w.Idles (w.taking t) :=
  ⟨rfl, rfl, rfl, .of_mark rfl rfl⟩

theorem absorbs : Absorbs (Idles : World σ → World σ → Prop) where
  refl := refl
  trans := trans
  store _ _ _ := of_same rfl rfl
  arm w d name := arming w d (.expiry name)
  cancel := cancelling
  written w _ := marked w rfl

theorem writing (w : World σ) (name : String) (value : Value) (ttl : Option Span) :
    w.Idles (w.writing name value ttl) :=
  absorbs.writing w name value ttl

theorem lapsing (w : World σ) (name : String) : w.Idles (w.lapsing name) :=
  absorbs.lapsing (fun w => marked w rfl) w

theorem equipping (w : World σ) (d : Device) : w.Idles (w.equipping d) :=
  ⟨rfl, rfl, rfl, .of_mark rfl rfl⟩

theorem adjusting (w : World σ) (d : Device) (device feature : String) (value : Value) :
    w.Idles (w.adjusting d device feature value) := by
  have tuned : w.Idles (w.tuning d device feature value) := ⟨rfl, rfl, rfl, .of_mark rfl rfl⟩
  unfold World.adjusting
  split
  · exact tuned.trans (.marked _ rfl)
  · exact tuned

/-- A tick begins, and tells of the clock. -/
theorem beginning (w : World σ) : w.Idles (w.beginning.noting w.plan.report) := by
  have began : w.Idles w.beginning := ⟨rfl, rfl, rfl, .of_mark rfl rfl⟩
  cases reported : w.plan.report with
  | none => exact began
  | some m =>
    apply began.trans
    rcases Agenda.plan_report reported with ⟨_, rfl⟩ | ⟨_, rfl⟩
    · exact marked _ rfl
    · exact marked _ rfl

theorem begun (id : Nat) (w : World σ) : w.Idles (Evaluation.begun id w) :=
  ⟨rfl, rfl, rfl, .of_mark rfl rfl⟩

theorem closed (id : Nat) (outcome : Except Interrupt Nat) (w : World σ) :
    w.Idles (Evaluation.closed id outcome w) := by
  match outcome with
  | .ok _ | .error (.failed _) => exact ⟨rfl, rfl, rfl, .of_mark rfl rfl⟩
  | .error .exhausted => exact refl w

end Idles

end World

namespace Roster

/-- What happens to jobs, one step at a time. -/
inductive Next : Roster σ → Roster σ → Prop
  | idle {w w' : World σ} {ks : Watches σ} {all : List (Job (Reaction σ))} : w.Idles w' →
      Next ⟨w, ks, all⟩ ⟨w', ks, all⟩
  | enlist {w : World σ} {ks : Watches σ} {all : List (Job (Reaction σ))} {s : Schedule}
      {task : Reaction σ} :
      Next ⟨w, ks, all⟩ ⟨w.enlisting s task, ks, all ++ [⟨w.agenda.nextJob, s, task⟩]⟩
  | dismiss {w : World σ} {ks : Watches σ} {all : List (Job (Reaction σ))} {id : Nat} :
      Next ⟨w, ks, all⟩ ⟨w.dismissing id, ks, all⟩
  | second {w : World σ} {ks : Watches σ} {all : List (Job (Reaction σ))} {t : Instant} :
      Next ⟨w, ks, all⟩
        ⟨((w.dated (some t)).marked (.second t)).taking t, ⟨t, t.topics, none⟩ :: ks, all⟩
  | announce {w : World σ} {ks : Watches σ} {all : List (Job (Reaction σ))} {t : Instant}
      {topic : String} {rest : List String} :
      Next ⟨w, ⟨t, topic :: rest, none⟩ :: ks, all⟩
        ⟨w.announcing topic t, ⟨t, rest, none⟩ :: ks, all⟩
  | take {w : World σ} {ks : Watches σ} {all : List (Job (Reaction σ))} {t : Instant} :
      Next ⟨w, ⟨t, [], none⟩ :: ks, all⟩
        ⟨w.marked (.served t), ⟨t, [], some (w.agenda.dueJobs t)⟩ :: ks, all⟩
  | start {w : World σ} {ks : Watches σ} {all : List (Job (Reaction σ))} {t : Instant}
      {j : Job (Reaction σ)} {rest : List (Job (Reaction σ))} :
      Next ⟨w, ⟨t, [], some (j :: rest)⟩ :: ks, all⟩
        ⟨w.marked (.jobStarted j.id t), ⟨t, [], some rest⟩ :: ks, all⟩
  | close {w : World σ} {ks : Watches σ} {all : List (Job (Reaction σ))} {t : Instant} :
      Next ⟨w, ⟨t, [], some []⟩ :: ks, all⟩
        ⟨(w.dated ks.current).marked (.secondEnded t), ks, all⟩

abbrev Path : Roster σ → Roster σ → Prop := Relation.ReflTransGen Next

def Reached (m : Roster σ) : Prop :=
  ∃ clock devices memory, Path ⟨.start clock devices memory, [], []⟩ m

end Roster

open History

namespace Watch

/-- How often a job may still be started in a second while it is being evaluated. -/
def expects (job : Nat) (t : Instant) (k : Watch σ) : Nat :=
  if k.second = t then
    match k.due with
    | none => 1
    | some due => (due.map Job.id).count job
  else 0

variable {job : Nat} {s t : Instant} {topics : List String}

theorem expects_second : expects job t (⟨s, topics, none⟩ : Watch σ) = [s].count t := by
  simp [expects, List.count_singleton]

/-- Each of the jobs that are taken is there once. -/
theorem expects_take {due : List (Job (Reaction σ))} (unique : (due.map Job.id).Nodup) :
    expects job t ⟨s, topics, some due⟩ ≤ expects job t (⟨s, topics, none⟩ : Watch σ) := by
  simp only [expects]
  split
  · exact List.nodup_iff_count_le_one.mp unique job
  · exact Nat.le_refl 0

theorem expects_start {j : Job (Reaction σ)} {rest : List (Job (Reaction σ))} :
    expects job t ⟨s, topics, some (j :: rest)⟩ =
      [(j.id, s)].count (job, t) + expects job t ⟨s, topics, some rest⟩ := by
  simp only [expects, List.map_cons, List.count_cons, beq_iff_eq, Prod.mk.injEq]
  by_cases same : s = t <;> simp [same, Nat.add_comm]

theorem expects_close : expects job t (⟨s, topics, some []⟩ : Watch σ) = 0 := by
  simp [expects]

end Watch

namespace Roster

/-- Jobs bear the numbers of their registration, those that a second has left are due in it, and
a job is started in a second at most as often as the second is evaluated. -/
structure Sound (m : Roster σ) : Prop where
  current : m.world.agenda.current = m.watches.current
  numbered : m.enrolled.map Job.id = List.range m.world.agenda.nextJob
  jobs : m.world.agenda.jobs.Sublist m.enrolled
  pending : ∀ k ∈ m.watches, ∀ due ∈ k.due,
    due.Sublist m.enrolled ∧ ∀ j ∈ due, j.schedule.isDue k.second = true
  started : ∀ x ∈ jobRuns m.world.journal,
    ∃ j ∈ m.enrolled, j.id = x.1 ∧ j.schedule.isDue x.2 = true
  once : ∀ job t, (jobRuns m.world.journal).count (job, t) +
    (m.watches.map (Watch.expects job t)).sum ≤ (seconds m.world.journal).count t

namespace Sound

variable {w w' : World σ} {k : Watch σ} {ks : Watches σ} {all : List (Job (Reaction σ))}

theorem start (clock : Instant) (devices : List Device) (memory : σ) :
    Sound ⟨.start clock devices memory, [], []⟩ where
  current := rfl
  numbered := rfl
  jobs := .slnil
  pending _ none := nomatch none
  started _ none := nomatch none
  once _ _ := Nat.le_refl 0

/-- A number stands for one job. -/
theorem unique {m : Roster σ} (sound : m.Sound) : (m.enrolled.map Job.id).Nodup := by
  rw [sound.numbered]
  exact List.nodup_range

theorem idle (sound : Sound ⟨w, ks, all⟩) (idles : w.Idles w') : Sound ⟨w', ks, all⟩ := by
  obtain ⟨later, journal, quiet⟩ := idles.journal
  have runs : jobRuns w'.journal = jobRuns w.journal := by rw [journal, jobRuns_append quiet]
  have evaluated : seconds w'.journal = seconds w.journal := by
    rw [journal, seconds_behind quiet]
  constructor
  · exact idles.current.trans sound.current
  · simpa only [idles.nextJob] using sound.numbered
  · simpa only [idles.jobs] using sound.jobs
  · exact sound.pending
  · simpa only [runs] using sound.started
  · simpa only [runs, evaluated] using sound.once

theorem enlist (sound : Sound ⟨w, ks, all⟩) (s : Schedule) (task : Reaction σ) :
    Sound ⟨w.enlisting s task, ks, all ++ [⟨w.agenda.nextJob, s, task⟩]⟩ := by
  have numbered : all.map Job.id = List.range w.agenda.nextJob := sound.numbered
  constructor
  · exact sound.current
  · change (all ++ [_]).map Job.id = List.range (w.agenda.nextJob + 1)
    simp [List.range_succ, numbered]
  · exact sound.jobs.append (.refl _)
  · intro k member due known
    obtain ⟨sub, isDue⟩ := sound.pending k member due known
    exact ⟨sub.trans (List.sublist_append_left _ _), isDue⟩
  · intro x member
    obtain ⟨j, enrolled, same⟩ := sound.started x member
    exact ⟨j, List.mem_append_left _ enrolled, same⟩
  · exact sound.once

theorem dismiss (sound : Sound ⟨w, ks, all⟩) (id : Nat) : Sound ⟨w.dismissing id, ks, all⟩ :=
  { sound with jobs := List.filter_sublist.trans sound.jobs }

theorem second (sound : Sound ⟨w, ks, all⟩) (t : Instant) :
    Sound ⟨((w.dated (some t)).marked (.second t)).taking t, ⟨t, t.topics, none⟩ :: ks, all⟩ := by
  constructor
  · rfl
  · exact sound.numbered
  · exact sound.jobs
  · simpa using sound.pending
  · exact sound.started
  · intro job s
    have before := sound.once job s
    change (jobRuns w.journal).count (job, s) + _ ≤ ([t] ++ seconds w.journal).count s
    rw [List.map_cons, List.sum_cons, Watch.expects_second, List.count_append]
    dsimp only at before
    omega

theorem announce {t : Instant} {topic : String} {rest : List String}
    (sound : Sound ⟨w, ⟨t, topic :: rest, none⟩ :: ks, all⟩) :
    Sound ⟨w.announcing topic t, ⟨t, rest, none⟩ :: ks, all⟩ := by
  constructor
  · exact sound.current
  · exact sound.numbered
  · exact sound.jobs
  · simpa using sound.pending
  · exact sound.started
  · exact sound.once

theorem take {t : Instant} (sound : Sound ⟨w, ⟨t, [], none⟩ :: ks, all⟩) :
    Sound ⟨w.marked (.served t), ⟨t, [], some (w.agenda.dueJobs t)⟩ :: ks, all⟩ := by
  have sub : (w.agenda.dueJobs t).Sublist all := List.filter_sublist.trans sound.jobs
  constructor
  · exact sound.current
  · exact sound.numbered
  · exact sound.jobs
  · rintro k (_ | ⟨_, member⟩) due known
    · cases known
      exact ⟨sub, fun j taken => (List.mem_filter.mp taken).2⟩
    · exact sound.pending k (.tail _ member) due known
  · exact sound.started
  · intro job s
    have before := sound.once job s
    have taken : Watch.expects job s ⟨t, [], some (w.agenda.dueJobs t)⟩ ≤
        Watch.expects job s (⟨t, [], none⟩ : Watch σ) :=
      Watch.expects_take (sound.unique.sublist (sub.map _))
    change (jobRuns w.journal).count (job, s) + _ ≤ (seconds w.journal).count s
    simp only [List.map_cons, List.sum_cons] at before ⊢
    omega

theorem fire {t : Instant} {j : Job (Reaction σ)} {rest : List (Job (Reaction σ))}
    (sound : Sound ⟨w, ⟨t, [], some (j :: rest)⟩ :: ks, all⟩) :
    Sound ⟨w.marked (.jobStarted j.id t), ⟨t, [], some rest⟩ :: ks, all⟩ := by
  obtain ⟨sub, isDue⟩ := sound.pending _ (.head _) _ rfl
  obtain ⟨due, others⟩ := List.forall_mem_cons.mp isDue
  constructor
  · exact sound.current
  · exact sound.numbered
  · exact sound.jobs
  · rintro k (_ | ⟨_, member⟩) due known
    · cases known
      exact ⟨(List.sublist_cons_self _ _).trans sub, others⟩
    · exact sound.pending k (.tail _ member) due known
  · rintro x (_ | ⟨_, member⟩)
    · exact ⟨j, sub.subset (.head _), rfl, due⟩
    · exact sound.started x member
  · intro job s
    have before := sound.once job s
    change ([(j.id, t)] ++ jobRuns w.journal).count (job, s) + _ ≤ (seconds w.journal).count s
    simp only [List.map_cons, List.sum_cons, Watch.expects_start] at before ⊢
    rw [List.count_append]
    omega

theorem close {t : Instant} (sound : Sound ⟨w, ⟨t, [], some []⟩ :: ks, all⟩) :
    Sound ⟨(w.dated ks.current).marked (.secondEnded t), ks, all⟩ := by
  constructor
  · rfl
  · exact sound.numbered
  · exact sound.jobs
  · exact fun k member => sound.pending k (.tail _ member)
  · exact sound.started
  · intro job s
    have before := sound.once job s
    simp only [List.map_cons, List.sum_cons, Watch.expects_close, Nat.zero_add] at before
    exact before

end Sound

theorem Next.sound {m m' : Roster σ} (next : Next m m') (sound : m.Sound) : m'.Sound := by
  cases next with
  | idle idles => exact sound.idle idles
  | enlist => exact sound.enlist _ _
  | dismiss => exact sound.dismiss _
  | second => exact sound.second _
  | announce => exact sound.announce
  | take => exact sound.take
  | start => exact sound.fire
  | close => exact sound.close

theorem Reached.sound {m : Roster σ} (reached : m.Reached) : m.Sound := by
  obtain ⟨clock, devices, memory, path⟩ := reached
  induction path with
  | refl => exact .start clock devices memory
  | tail _ next ih => exact next.sound ih

end Roster

/-- A job was registered in a history that leads to the world, whether or not it was removed. -/
def World.Enrolls (w : World σ) (j : Job (Reaction σ)) : Prop :=
  ∃ ks all, Roster.Reached ⟨w, ks, all⟩ ∧ j ∈ all

/-- A job only starts in seconds in which it is due. -/
theorem World.Enrolls.due {w : World σ} {j : Job (Reaction σ)} (enrolls : w.Enrolls j) {t : Instant}
    (ran : (j.id, t) ∈ jobRuns w.journal) : j.schedule.isDue t = true := by
  obtain ⟨ks, all, reached, enrolled⟩ := enrolls
  obtain ⟨other, member, same, due⟩ := reached.sound.started _ ran
  rw [List.inj_on_of_nodup_map reached.sound.unique enrolled member same.symm]
  exact due

end Reflex
