import Reflex.Proofs.Calendar
import Reflex.Proofs.Duties
import Reflex.Proofs.Leftovers
import Reflex.Proofs.Repeats

/-! Triggers for a time of day. The job of such a trigger starts on the minute, and asserts in
the one minute of the day that it is for. It asserts once a day as long as the clock is not set
back; a clock that is set back to that minute makes it assert again. -/
namespace Reflex
open Act Engine History

variable {σ α : Type}

namespace History

variable {J : History} {job : Nat} {time : TimeOfDay} {t : Instant}

/-- The seconds in which a job was started that fall in a minute of the day. -/
def strikes (job : Nat) (time : TimeOfDay) (J : History) : List Instant :=
  ((jobRuns J).filter fun x => decide (x.1 = job ∧ TimeOfDay.of x.2 = time)).map (·.2)

theorem mem_strikes : t ∈ strikes job time J ↔ (job, t) ∈ jobRuns J ∧ TimeOfDay.of t = time := by
  simp only [strikes, List.mem_map, List.mem_filter, decide_eq_true_iff, Prod.exists]
  constructor
  · rintro ⟨n, u, ⟨ran, rfl, now⟩, rfl⟩
    exact ⟨ran, now⟩
  · rintro ⟨ran, now⟩
    exact ⟨job, t, ⟨ran, rfl, now⟩, rfl⟩

theorem count_strikes : (strikes job time J).count t ≤ (jobRuns J).count (job, t) := by
  rw [strikes]
  induction jobRuns J with
  | nil => exact Nat.le_refl 0
  | cons x rest ih =>
    obtain ⟨n, u⟩ := x
    simp only [List.filter_cons, List.count_cons, decide_eq_true_eq, beq_iff_eq, Prod.mk.injEq]
    split
    · rename_i struck
      simp only [List.map_cons, List.count_cons, beq_iff_eq, struck.1, true_and]
      omega
    · omega

end History

namespace Engine

theorem interpret_performed (call : Call σ) {r : Reply} (q : Request r) (w : World σ) :
    interpret call (.perform q) w = (do discard (perform call q); return true : Act σ Bool) w := by
  change (attempt (perform call q) >>= fun answer => interpret call _) w = _
  rcases ran : perform call q w with ⟨outcome, next⟩
  match outcome, ran with
  | .ok a, ran => rw [bind_ok (attempt_ok ran), bind_ok (discard_ok ran)]; rfl
  | .error (.failed cause), ran =>
    rw [bind_ok (attempt_failed ran), bind_error (discard_error ran)]
    rfl
  | .error .exhausted, ran =>
    rw [bind_error (attempt_exhausted ran), bind_error (discard_error ran)]

theorem reporting_bind {report : Failure → Mark} {x y : Act σ α} {f : Unit → Act σ Unit}
    {w : World σ} (same : x w = y w) :
    (reporting report x >>= f) w = (reporting report y >>= f) w := by
  simp only [reporting, bind_run, attempt, same]

theorem runJobs_append (call : Call σ) (t : Instant) (front back : List (Job (Reaction σ))) :
    runJobs call t (front ++ back) =
      (runJobs call t front >>= fun _ => runJobs call t back) := by
  induction front with
  | nil => rfl
  | cons j rest ih => simp only [List.cons_append, runJobs, ih, bind_assoc]

/-- A job's turn comes in a second: the second was opened, its timers and subscribers were run,
and then the due jobs before the job. -/
def HasTurn (call : Call σ) (t : Instant) (j : Job (Reaction σ)) (back : List (Job (Reaction σ)))
    (w w' : World σ) : Prop :=
  ∃ mid front, (do fireTimers call t; notifyAll call t : Act σ Unit) (w.opening t) = (.ok (), mid) ∧
    mid.agenda.dueJobs t = front ++ j :: back ∧ runJobs call t front mid = (.ok (), w')

section Turns

variable {call : Call σ} {t : Instant} {j : Job (Reaction σ)} {back : List (Job (Reaction σ))}
  {w w' : World σ}

/-- What is left of the second is to start the job, to run it and to go on. -/
theorem HasTurn.runSecond (turn : HasTurn call t j back w w') :
    Engine.runSecond call t w = (do
      reporting (.jobFailed j.id j.schedule) (call (j.task.program []))
      runJobs call t back
      setCurrent w.agenda.current : Act σ Unit) (w'.marked (.jobStarted j.id t)) := by
  obtain ⟨mid, front, opened, due, ran⟩ := turn
  rw [runSecond_run, ← bind_assoc, bind_ok opened, bind_ok (get_run mid), due, runJobs_append,
    bind_assoc, bind_ok ran, runJobs, bind_assoc, bind_ok (mark_run _ w'), bind_assoc]

/-- The second is the tick time then. -/
theorem HasTurn.tickTime (calls : ∀ p w, Works (call p) w) (turn : HasTurn call t j back w w') :
    w'.tickTime = t := by
  obtain ⟨mid, front, opened, -, ran⟩ := turn
  have published : Attends (do fireTimers call t; publishSecond call t : Act σ Unit) (w.opening t)
      [⟨t, t.topics, none⟩] [⟨t, [], none⟩] :=
    .bind (fireTimers_attends calls t) fun _ _ _ => publishSecond_attends calls t
  simp only [notifyAll, ← bind_assoc] at opened
  obtain ⟨_, last, told, marked⟩ := of_bind_ok opened
  cases marked
  have known : last.agenda.current = some t := published.current rfl told
  have started : Attends (runJobs call t front) (last.marked (.served t)) [⟨t, [], some front⟩]
      [⟨t, [], some []⟩] := runJobs_attends calls t front
  rw [World.tickTime, started.current known ran]
  rfl

end Turns

end Engine

/-- The job of a scenario's trigger for a time of day. -/
def Job.daily (job : Nat) (time : TimeOfDay) (id : Nat) : Job (Reaction σ) :=
  ⟨job, .minutely, .trigger (.at time) id⟩

/-- Whether a job is this one; jobs with other code cannot be compared. -/
def Job.isDaily (job : Nat) (time : TimeOfDay) (id : Nat) (j : Job (Reaction σ)) : Bool :=
  match j.task with
  | .trigger t scenario =>
    decide (j.id = job ∧ j.schedule = .minutely ∧ t = .at time ∧ scenario = id)
  | _ => false

theorem Job.isDaily_iff {job : Nat} {time : TimeOfDay} {id : Nat} {j : Job (Reaction σ)} :
    j.isDaily job time id = true ↔ j = .daily job time id := by
  obtain ⟨n, s, task⟩ := j
  cases task with
  | trigger => simp [isDaily, daily]
  | _ => simp [isDaily, daily]

instance (job : Nat) (time : TimeOfDay) (id : Nat) (jobs : List (Job (Reaction σ))) :
    Decidable (Job.daily job time id ∈ jobs) :=
  decidable_of_iff (jobs.any (Job.isDaily job time id) = true) (by simp [Job.isDaily_iff])

/-- What the job of such a trigger does in a second: it asserts the scenario in the minute of the
trigger, and fails once there is no runtime. -/
def Engine.strike (depth id : Nat) (time : TimeOfDay) (t : Instant) : Act σ Bool := do
  if (← get).registry.isNone then fail .dropped
  else if TimeOfDay.of t = time then
    discard (Engine.assert (exec depth) id (some (Tick.payload t)))
    return true
  else return true

theorem Engine.daily_run {depth job id : Nat} {time : TimeOfDay} {t : Instant} {w : World σ}
    (now : w.tickTime = t) :
    exec (depth + 1) ((Job.daily job time id : Job (Reaction σ)).task.program []) w =
      strike depth id time t w := by
  have told : w.view.tickTime = t := now
  change interpret (exec depth) (.look _) w = _
  rw [interpret, bind_ok (get_run w), told, strike, bind_ok (get_run w)]
  change interpret (exec depth) (if w.registry.isNone then _ else _) w = _
  split
  · rfl
  split
  · exact interpret_performed _ _ _
  · rfl

/-- What the trigger for a time of day has done, by its job, in the history of a world. -/
structure DailyKept (w : World σ) (job id : Nat) (time : TimeOfDay) : Prop where
  /-- In every second in which it is the job's turn, that second is the tick time, and the
  scenario is asserted if it falls in the minute of the trigger. -/
  turn : ∀ depth t back (v v' : World σ),
    HasTurn (exec (depth + 1)) t (.daily job time id) back v v' →
    v'.tickTime = t ∧ Engine.runSecond (exec (depth + 1)) t v = (do
      reporting (.jobFailed job .minutely) (strike depth id time t)
      runJobs (exec (depth + 1)) t back
      setCurrent v.agenda.current : Act σ Unit) (v'.marked (.jobStarted job t))
  minute : ∀ t ∈ strikes job time w.journal, t.secondOfMinute = 0
  single : ∀ t ∈ strikes job time w.journal, ∀ u ∈ strikes job time w.journal,
    t.date = u.date → t = u
  again : ∀ t, 1 < (strikes job time w.journal).count t → SetBack t w.journal
  daily : Onward w.journal → ((strikes job time w.journal).map Instant.date).Nodup

/-- A trigger for a time of day asserts its scenario in one second of a day, and only once
unless the clock was in that second or past it and was then set back to it or before it. -/
theorem daily_kept {e : Bool} {w : World σ} {job id : Nat} {time : TimeOfDay}
    (session : Session Rule.free e w) (enrolls : w.Enrolls (.daily job time id)) :
    DailyKept w job id time := by
  have minute : ∀ t ∈ strikes job time w.journal, t.secondOfMinute = 0 := by
    intro t struck
    exact Schedule.minutely_due.mp (enrolls.due (mem_strikes.mp struck).1)
  have evaluated : ∀ t, (strikes job time w.journal).count t ≤ (seconds w.journal).count t :=
    fun t => Nat.le_trans count_strikes (session.jobRuns_le job t)
  have whole : ∀ t ∈ strikes job time w.journal, t.Whole := by
    intro t struck
    apply session.whole Rule.free_open
    rw [← List.count_pos_iff] at struck ⊢
    exact Nat.lt_of_lt_of_le struck (evaluated t)
  have single : ∀ t ∈ strikes job time w.journal, ∀ u ∈ strikes job time w.journal,
      t.date = u.date → t = u := by
    intro t struck u other same
    apply Instant.eq_of_date (whole t struck) (whole u other) same
    rw [t.secondOfDay_eq, u.secondOfDay_eq, minute t struck, minute u other,
      (mem_strikes.mp struck).2, (mem_strikes.mp other).2]
  have again : ∀ t, 1 < (strikes job time w.journal).count t → SetBack t w.journal :=
    fun t many => session.again Rule.free_open (Nat.lt_of_lt_of_le many (evaluated t))
  constructor
  · intro depth t back v v' turn
    have now : v'.tickTime = t := turn.tickTime (exec_works _)
    refine ⟨now, ?_⟩
    rw [turn.runSecond]
    exact reporting_bind (daily_run now)
  · exact minute
  · exact single
  · exact again
  · intro onward
    apply List.Nodup.map_on single
    rw [List.nodup_iff_count_le_one]
    intro t
    apply Nat.le_of_not_lt
    exact fun many => onward.not_setBack t (again t many)

/-! A clock that is set back, and one that is not. -/

def eightSharp : Instant := .ofSecond 1792137600

/-- A scenario is to be asserted at eight. The clock shows eight, a second more, and then a last
reading. -/
def mornings (last : Instant) : Program Unit :=
  .request (.createScenario "wake" ⟨none, false⟩) fun _ =>
    .request (.invokeTrigger 0 "at" [.text "08:00"]) fun _ =>
      .fallback 0 (fun _ => .done true) <|
        .request .tick fun _ =>
          .request (.setClock (eightSharp.addSeconds 1)) fun _ =>
            .request .tick fun _ =>
              .request (.setClock last) fun _ => .perform .tick

def clockedHouse : World Unit := (World.start eightSharp [] ()).completed [Component.timer]

def morningHouse (last : Instant) : World Unit := (run 4 (mornings last) clockedHouse).2

def nextMorning : Instant := eightSharp.addSeconds 86400

theorem clockedHouse_session : Session Rule.free true clockedHouse := by
  have built : buildIn 1 [Component.timer] (.start eightSharp [] ()) = (.ok (), clockedHouse) := rfl
  exact .build (.start eightSharp [] ()) (fun c _ => c.within_free) built

theorem morningHouse_session {last : Instant}
    (came : ended (run 4 (mornings last) clockedHouse).1 = true) :
    Session Rule.free true (morningHouse last) :=
  .run_ended clockedHouse_session (mornings last).within_free came

theorem setBack_session : Session Rule.free true (morningHouse eightSharp) :=
  morningHouse_session (by decide +kernel)

theorem setBack_enrolls : (morningHouse eightSharp).Enrolls (.daily 0 ⟨8, 0⟩ 0) :=
  setBack_session.enrolls (by decide +kernel)

theorem nextMorning_session : Session Rule.free true (morningHouse nextMorning) :=
  morningHouse_session (by decide +kernel)

theorem nextMorning_enrolls : (morningHouse nextMorning).Enrolls (.daily 0 ⟨8, 0⟩ 0) :=
  nextMorning_session.enrolls (by decide +kernel)

/-- When the clock is set back to eight, the trigger asserts its scenario a second time on that
day, and the entry of the scenario runs again. -/
theorem setBack_strikes_twice :
    Session Rule.free true (morningHouse eightSharp) ∧
      (morningHouse eightSharp).Enrolls (.daily 0 ⟨8, 0⟩ 0) ∧
      readings (morningHouse eightSharp).journal =
        [eightSharp, eightSharp.addSeconds 1, eightSharp] ∧
      strikes 0 ⟨8, 0⟩ (morningHouse eightSharp).journal = [eightSharp, eightSharp] ∧
      (morningHouse eightSharp).journal.countP (fun m => m matches .entryRan 0 0) = 2 ∧
      ¬ ((strikes 0 ⟨8, 0⟩ (morningHouse eightSharp).journal).map Instant.date).Nodup :=
  ⟨setBack_session, setBack_enrolls, by decide +kernel, by decide +kernel, by decide +kernel,
    by decide +kernel⟩

/-- Set back, the clock accounts for the second assert of a day; going on to the next morning, it
brings one assert a day. -/
theorem daily_kept_mornings :
    (Session Rule.free true (morningHouse eightSharp) ∧
        (morningHouse eightSharp).Enrolls (.daily 0 ⟨8, 0⟩ 0) ∧
        DailyKept (morningHouse eightSharp) 0 0 ⟨8, 0⟩ ∧
        SetBack eightSharp (morningHouse eightSharp).journal) ∧
      (Session Rule.free true (morningHouse nextMorning) ∧
        (morningHouse nextMorning).Enrolls (.daily 0 ⟨8, 0⟩ 0) ∧
        Onward (morningHouse nextMorning).journal ∧
        strikes 0 ⟨8, 0⟩ (morningHouse nextMorning).journal = [nextMorning, eightSharp] ∧
        ((strikes 0 ⟨8, 0⟩ (morningHouse nextMorning).journal).map Instant.date).Nodup) := by
  have back := daily_kept setBack_session setBack_enrolls
  have forth := daily_kept nextMorning_session nextMorning_enrolls
  have onward : Onward (morningHouse nextMorning).journal := by decide +kernel
  refine ⟨⟨setBack_session, setBack_enrolls, back, ?_⟩, nextMorning_session, nextMorning_enrolls,
    onward, by decide +kernel, forth.daily onward⟩
  exact back.again eightSharp (by decide +kernel)

end Reflex
