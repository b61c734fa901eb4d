import Reflex.Proofs.Manners
import Reflex.Proofs.Splitting

/-! Running code is a path of rosters: jobs are registered, removed and started in no other way
than by its steps, whatever the code does. -/
namespace Reflex
open Act Engine Evaluation History

variable {σ α β : Type} {rule : Rule}

/-- Steps lead on from a world whose tick time is that of the seconds being evaluated there, and
end among given ones if the run does. -/
def Engaged (before after : Watches σ) : Link σ := fun w e w' =>
  ∀ all, w.agenda.current = before.current →
    ∃ ks all', Roster.Path ⟨w, before, all⟩ ⟨w', ks, all'⟩ ∧
      (e = true → ks = after ∧ w'.agenda.current = after.current)

namespace Engaged

variable {before middle after ks : Watches σ} {w w' last : World σ} {e : Bool}

theorem chain (first : Engaged before middle w true w') (rest : Engaged middle after w' e last) :
    Engaged before after w e last := by
  intro all known
  obtain ⟨_, all', path, came⟩ := first all known
  obtain ⟨rfl, current⟩ := came rfl
  obtain ⟨ks, enrolled, further, ended⟩ := rest all' current
  exact ⟨ks, enrolled, path.trans further, ended⟩

theorem cut (engaged : Engaged before middle w e w') : Engaged before after w false w' := by
  intro all known
  obtain ⟨ks, all', path, -⟩ := engaged all known
  exact ⟨ks, all', path, fun came => nomatch came⟩

theorem step (next : ∀ all, Roster.Next ⟨w, before, all⟩ ⟨w', after, all⟩)
    (current : w.agenda.current = before.current → w'.agenda.current = after.current) :
    Engaged before after w e w' := by
  intro all known
  exact ⟨after, all, .single (next all), fun _ => ⟨rfl, current known⟩⟩

theorem idle (idles : w.Idles w') : Engaged ks ks w e w' := by
  intro all known
  exact ⟨ks, all, .single (.idle idles), fun _ => ⟨rfl, idles.current.trans known⟩⟩

/-- A run followed by something that has no bearing on jobs, however it ended. -/
theorem idled (engaged : Engaged before after w e w') (idles : w'.Idles last) :
    Engaged before after w e last := by
  intro all known
  obtain ⟨ks, all', path, came⟩ := engaged all known
  refine ⟨ks, all', path.tail (.idle idles), fun ended => ?_⟩
  obtain ⟨same, current⟩ := came ended
  exact ⟨same, idles.current.trans current⟩

end Engaged

/-! Runs of code that leave the seconds being evaluated as they find them, however they end. -/

/-- A step from a world does its work within the seconds being evaluated there. -/
def Act.Works (x : Act σ α) (w : World σ) : Prop :=
  ∀ ks, Engaged ks ks w (ended (x w).1) (x w).2

/-- Some seconds in progress account for the one that is the tick time. -/
theorem World.current_watched (w : World σ) : ∃ ks : Watches σ, w.agenda.current = ks.current := by
  cases known : w.agenda.current with
  | none => exact ⟨[], rfl⟩
  | some t => exact ⟨[⟨t, [], none⟩], rfl⟩

namespace Act.Works

variable {x : Act σ α} {f : α → Act σ β} {w next : World σ}

theorem of_idle {outcome : Except Interrupt α} (ran : x w = (outcome, next))
    (idles : w.Idles next) : Works x w := by
  intro ks
  simp only [ran]
  exact .idle idles

theorem still (unchanged : (x w).2 = w) : Works x w := by
  intro ks
  rw [unchanged]
  exact .idle (.refl w)

theorem bind (first : Works x w) (rest : ∀ a next, x w = (.ok a, next) → Works (f a) next) :
    Works (x >>= f) w := by
  intro ks
  have engaged := first ks
  rcases ran : x w with ⟨outcome, next⟩
  rw [ran] at engaged
  cases outcome with
  | ok a =>
    rw [bind_ok ran]
    exact engaged.chain (rest a next ran ks)
  | error i =>
    rw [bind_error ran]
    exact engaged

theorem composes : Manner.Composes (σ := σ) fun _ x w => Works x w where
  still := still
  bind := bind
  around := by
    intro α β x y w v next outcome ran before after same works ks
    have engaged := ((Engaged.idle before.idles).chain (works ks)).idled after.idles
    rw [ran, same]
    exact engaged

end Act.Works

/-- A step that never fails, between given seconds being evaluated. -/
structure Attends (x : Act σ α) (w : World σ) (before after : Watches σ) : Prop where
  unfailing : ∀ cause, (x w).1 ≠ .error (.failed cause)
  engaged : Engaged before after w (ended (x w).1) (x w).2

namespace Attends

variable {x : Act σ α} {f : α → Act σ β} {w next : World σ} {before middle after ks : Watches σ}

theorem of_run {a : α} (ran : x w = (.ok a, next)) (engaged : Engaged before after w true next) :
    Attends x w before after := by
  constructor <;> simp only [ran]
  · simp
  · exact engaged

theorem pure (a : α) : Attends (pure a : Act σ α) w ks ks :=
  of_run (pure_run a w) (.idle (.refl w))

theorem bind (first : Attends x w before middle)
    (rest : ∀ a next, x w = (.ok a, next) → Attends (f a) next middle after) :
    Attends (x >>= f) w before after := by
  obtain ⟨unfailing, engaged⟩ := first
  rcases ran : x w with ⟨outcome, next⟩
  rw [ran] at unfailing engaged
  match outcome, ran, unfailing, engaged with
  | .ok a, ran, _, engaged =>
    have tail := rest a next ran
    constructor <;> rw [bind_ok ran]
    · exact tail.unfailing
    · exact engaged.chain tail.engaged
  | .error (.failed cause), _, unfailing, _ => exact absurd rfl (unfailing cause)
  | .error .exhausted, ran, _, engaged =>
    constructor <;> rw [bind_error ran]
    · simp
    · exact engaged.cut

/-- A run that is a run from further along. -/
theorem behind {y : Act σ α} (same : x w = y next) (engaged : Engaged before middle w true next)
    (rest : Attends y next middle after) : Attends x w before after := by
  constructor <;> rw [same]
  · exact rest.unfailing
  · exact engaged.chain rest.engaged

theorem current (attends : Attends x w before after) (known : w.agenda.current = before.current)
    {a : α} (ran : x w = (.ok a, next)) : next.agenda.current = after.current := by
  obtain ⟨_, _, -, came⟩ := attends.engaged [] known
  rw [ran] at came
  exact (came rfl).2

theorem reporting {report : Failure → Mark} (quiet : ∀ cause, (report cause).isWork = false)
    (works : Works x w) : Attends (reporting report x) w ks ks := by
  have engaged := works ks
  rcases ran : x w with ⟨outcome, next⟩
  rw [ran] at engaged
  match outcome, ran, engaged with
  | .ok a, ran, engaged =>
    exact of_run (by rw [Act.reporting, bind_ok (attempt_ok ran)]; rfl) engaged
  | .error (.failed cause), ran, engaged =>
    have reported : Act.reporting report x w = (.ok (), next.marked (report cause)) := by
      rw [Act.reporting, bind_ok (attempt_failed ran)]
      rfl
    exact of_run reported (engaged.chain (.idle (.marked _ (quiet cause))))
  | .error .exhausted, ran, engaged =>
    have stopped : Act.reporting report x w = (.error .exhausted, next) := by
      rw [Act.reporting, bind_error (attempt_exhausted ran)]
    constructor <;> rw [stopped]
    · simp
    · exact engaged

end Attends

namespace Engine

/-! Operations that run no code. -/

section Plain

variable {w : World σ}

theorem every_works (s : Schedule) (task : Reaction σ) : Works (every s task) w := by
  intro ks all known
  rw [every_run]
  exact ⟨ks, _, .single .enlist, fun _ => ⟨rfl, known⟩⟩

theorem remove_works (id : Nat) : Works (remove id) w := by
  intro ks all known
  rw [remove_run]
  exact ⟨ks, _, .single .dismiss, fun _ => ⟨rfl, known⟩⟩

theorem refresh_works : Works refresh w := by
  apply Works.composes.bind_still (registry_still w)
  intro ids _
  exact .of_idle (modify_run _ w) (.of_same rfl rfl)

theorem setTestMode_works (id : Nat) (enabled : Bool) : Works (setTestMode id enabled) w := by
  apply Works.composes.bind_still (discard_still (registry_still w))
  intro _ _
  apply Works.composes.bind_still (discard_still (scenario_still id w))
  intro _ _
  exact .bind (.of_idle (modifyScenario_run _ _ w) (.of_same rfl rfl)) fun _ _ _ => refresh_works

theorem createScenario_works (description : String) (options : Options) :
    Works (createScenario description options) w := by
  rcases createScenario_cases description options w with ⟨_, failed⟩ | ⟨ids, -, -, ran⟩
  · exact .of_idle failed (.refl w)
  · exact .of_idle ran (.of_same rfl rfl)

theorem clearScenarios_works : Works clearScenarios w := by
  apply Works.composes.bind_still (registry_still w)
  intro ids _
  exact .of_idle (modify_run _ w) (.of_same rfl rfl)

theorem openBlock_works (id : Nat) : Works (openBlock id) w := by
  rcases openBlock_cases id w with ⟨_, failed⟩ | ran
  · exact .of_idle failed (.refl w)
  · exact .of_idle ran (.of_same rfl rfl)

theorem closeBlock_works (id : Nat) (c : Callback σ) : Works (closeBlock id c) w := by
  rcases closeBlock_cases id c w with ⟨_, failed⟩ | ⟨b, -, ran⟩
  · exact .of_idle failed (.refl w)
  · exact .of_idle ran (.of_same rfl rfl)

end Plain

section Ticks

variable {call : Call σ} (calls : ∀ p w, Works (call p) w) {w : World σ}
include calls

theorem runTimers_attends (batch : List (Timer (Reaction σ))) {ks : Watches σ} :
    Attends (runTimers call batch) w ks ks := by
  induction batch generalizing w with
  | nil => exact .pure ()
  | cons x rest ih =>
    apply Attends.behind (bind_ok (mark_run _ w)) (.idle (.marked w rfl))
    exact .bind (.reporting (fun _ => rfl) (calls _ _)) fun _ _ _ => ih

theorem fireTimers_attends (t : Instant) {ks : Watches σ} :
    Attends (fireTimers call t) w ks ks :=
  .behind (fireTimers_run call t w) (.idle (.taking w t)) (runTimers_attends calls _)

theorem notify_attends (topic : String) (t : Instant) {rest : List String} {ks : Watches σ} :
    Attends (notify call topic [Tick.payload t]) w (⟨t, topic :: rest, none⟩ :: ks)
      (⟨t, rest, none⟩ :: ks) := by
  have announced : notify call topic [Tick.payload t] w =
      reporting (.topicFailed topic) (deliver call [Tick.payload t] (w.bus.subscribers topic))
        (w.announcing topic t) := rfl
  apply Attends.behind announced (.step (fun _ => .announce) id)
  exact .reporting (fun _ => rfl) (deliver_manner Works.composes calls _ _)

theorem publishSecond_attends (t : Instant) {ks : Watches σ} :
    Attends (publishSecond call t) w (⟨t, t.topics, none⟩ :: ks) (⟨t, [], none⟩ :: ks) := by
  apply Attends.bind (notify_attends calls secondTopic t)
  intro _ w _
  by_cases minute : t.secondOfMinute = 0
  · rw [if_pos minute, if_pos (Schedule.minutely_due.mpr minute)]
    apply Attends.bind (notify_attends calls minuteTopic t)
    intro _ w _
    by_cases hour : t.minute = 0
    · rw [if_pos hour, if_pos (Schedule.hourly_due.mpr ⟨minute, hour⟩)]
      exact notify_attends calls hourTopic t
    · rw [if_neg hour, if_neg fun due => hour (Schedule.hourly_due.mp due).2]
      exact .pure _
  · rw [if_neg minute, if_neg fun due => minute (Schedule.minutely_due.mp due),
      if_neg fun due => minute (Schedule.hourly_due.mp due).1]
    exact .pure _

theorem runJobs_attends (t : Instant) (jobs : List (Job (Reaction σ))) {ks : Watches σ} :
    Attends (runJobs call t jobs) w (⟨t, [], some jobs⟩ :: ks) (⟨t, [], some []⟩ :: ks) := by
  induction jobs generalizing w with
  | nil => exact .pure ()
  | cons j rest ih =>
    apply Attends.behind (bind_ok (mark_run _ w)) (.step (fun _ => .start) id)
    exact .bind (.reporting (fun _ => rfl) (calls _ _)) fun _ _ _ => ih

omit calls in
theorem evaluateSecond_run (t : Instant) (w : World σ) :
    evaluateSecond call t w = (do
      fireTimers call t
      publishSecond call t
      mark (.served t)
      runJobs call t ((← get).agenda.dueJobs t)
      setCurrent w.agenda.current
      mark (.secondEnded t) : Act σ Unit) (w.opening t) := by
  have opened : evaluateSecond call t w = ((do
      fireTimers call t
      notifyAll call t
      runJobs call t ((← get).agenda.dueJobs t)
      setCurrent w.agenda.current : Act σ Unit) >>= fun _ => mark (.secondEnded t))
        (w.opening t) := rfl
  rw [opened]
  simp only [notifyAll, bind_assoc]

theorem evaluateSecond_attends (t : Instant) {ks : Watches σ}
    (known : w.agenda.current = ks.current) : Attends (evaluateSecond call t) w ks ks := by
  apply Attends.behind ((evaluateSecond_run t w).trans (fireTimers_bind call t _ _))
    (.step (fun _ => .second) fun _ => rfl)
  apply Attends.bind (runTimers_attends calls _)
  intro _ w' _
  apply Attends.bind (publishSecond_attends calls t)
  intro _ w' _
  apply Attends.behind (bind_ok (mark_run _ w')) (.step (fun _ => .take) id)
  apply Attends.behind (bind_ok (get_run _)) (.idle (.refl _))
  apply Attends.bind (runJobs_attends calls t _)
  intro _ w' _
  rw [known]
  exact .of_run (bind_ok (modify_run _ w')) (.step (fun _ => .close) fun _ => rfl)

theorem runSeconds_attends (t : Instant) (n : Nat) {ks : Watches σ}
    (known : w.agenda.current = ks.current) : Attends (runSeconds call t n) w ks ks := by
  induction n generalizing t w with
  | zero => exact .pure ()
  | succ n ih =>
    have first := evaluateSecond_attends calls t known
    exact .bind first fun _ _ ran => ih _ (first.current known ran)

theorem tick_works : Works (tick call) w := by
  intro ks all known
  have ticked : Attends (tick call) w ks ks := by
    have began := World.Idles.beginning w
    apply Attends.behind (tick_run call w) (.idle began)
    apply Attends.bind (runSeconds_attends calls _ _ (began.current.trans known))
    intro _ w' _
    apply Attends.bind (fireTimers_attends calls _)
    intro _ w' _
    exact .of_run (bind_ok (mark_run _ w')) (.idle (.marked w' rfl))
  exact ticked.engaged all known

end Ticks

theorem works_covers : Manner.Covers (σ := σ) fun _ x w => Works x w where
  toComposes := Works.composes
  every s task _ := every_works s task
  remove id _ := remove_works id
  createScenario description options _ := createScenario_works description options
  setTestMode id enabled _ := setTestMode_works id enabled
  clearScenarios _ := clearScenarios_works
  dropRuntime _ w := .of_idle (modify_run _ w) (.of_same rfl rfl)
  openBlock id _ := openBlock_works id
  discardBlock _ w := .of_idle (modify_run _ w) (.of_same rfl rfl)
  pushPredicate _ _ w := .of_idle (modify_run _ w) (.of_same rfl rfl)
  pushBare id _ w := .of_idle (pushEntry_run id _ w) (.of_same rfl rfl)
  closeBlock id c _ := closeBlock_works id c
  complete _ w := .of_idle (modify_run _ w) (.of_same rfl rfl)
  tick calls _ := tick_works calls

theorem exec_works (depth : Nat) (p : Program σ) (w : World σ) : Works (exec depth p) w :=
  exec_manner works_covers depth p w

end Engine

/-- Every world of a history is that of a roster; between runs no second is being evaluated. -/
theorem Session.roster {e : Bool} {w : World σ} (session : Session rule e w) :
    ∃ ks all, Roster.Reached ⟨w, ks, all⟩ ∧ (e = true → ks = [] ∧ w.agenda.current = none) := by
  have continued : ∀ {w next : World σ} {e : Bool},
      (∃ ks all, Roster.Reached ⟨w, ks, all⟩ ∧ ks = [] ∧ w.agenda.current = none) →
      Engaged [] [] w e next → ∃ ks all, Roster.Reached ⟨next, ks, all⟩ ∧
        (e = true → ks = [] ∧ next.agenda.current = none) := by
    rintro w next e ⟨_, all, ⟨clock, devices, memory, path⟩, rfl, known⟩ engaged
    obtain ⟨ks, all', further, came⟩ := engaged all known
    exact ⟨ks, all', ⟨clock, devices, memory, path.trans further⟩, came⟩
  induction session with
  | start clock devices memory =>
    exact ⟨[], [], ⟨clock, devices, memory, .refl⟩, fun _ => ⟨rfl, rfl⟩⟩
  | @build w next components depth outcome _ _ built ih =>
    obtain ⟨ks, all, reached, came⟩ := ih
    have engaged := build_manner works_covers (exec_works depth) components (w := w) []
    rw [buildIn] at built
    rw [built] at engaged
    exact continued ⟨ks, all, reached, came rfl⟩ engaged
  | @run w next p depth outcome _ _ ran ih =>
    obtain ⟨ks, all, reached, came⟩ := ih
    have engaged := exec_works depth p w []
    rw [Engine.run] at ran
    rw [ran] at engaged
    exact continued ⟨ks, all, reached, came rfl⟩ engaged

theorem Session.enrolls {e : Bool} {w : World σ} (session : Session rule e w)
    {j : Job (Reaction σ)} (listed : j ∈ w.agenda.jobs) : w.Enrolls j := by
  obtain ⟨ks, all, reached, -⟩ := session.roster
  exact ⟨ks, all, reached, reached.sound.jobs.subset listed⟩

/-- A job starts in a second at most as often as the second is evaluated. -/
theorem Session.jobRuns_le {e : Bool} {w : World σ} (session : Session rule e w) (job : Nat)
    (t : Instant) : (jobRuns w.journal).count (job, t) ≤ (seconds w.journal).count t := by
  obtain ⟨ks, all, reached, -⟩ := session.roster
  exact Nat.le_of_add_right_le (reached.sound.once job t)

end Reflex
