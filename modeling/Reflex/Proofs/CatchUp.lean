import Reflex.Proofs.Evaluation
import Reflex.Proofs.Splitting

/-! Catching up on scenarios that the calendar governs. Triggers see the second that is being
made up for, but conditions read the clock. So a late tick runs the branches that ticks on
time would have run as far as the conditions answer at its reading as they would have
answered on time, and not beyond that. -/
namespace Reflex
open Engine Act

variable {σ α : Type}

namespace Condition

/-- Whether a condition is about weekdays or the time of day. -/
def isCalendar : Condition → Bool
  | dayIs _ | timeBetween _ => true
  | _ => false

/-- What a condition about weekdays or the time of day answers at a reading. -/
def holdsAt (c : Condition) (t : Instant) : Bool :=
  match c with
  | dayIs days => days.matchesAt t
  | timeBetween window => window.contains t
  | _ => false

theorem holds_eq {c : Condition} (calendar : c.isCalendar = true) (v : View) :
    c.holds v = c.holdsAt v.now := by
  cases c with
  | dayIs | timeBetween => rfl
  | variableIs | variableDefined | deviceIs => cases calendar

end Condition

def Predicate.holdsAt (p : Predicate σ) (t : Instant) : Bool :=
  match p with
  | condition c => c.holdsAt t
  | custom _ => false

/-- Whether the group of the entry, if it has one, holds at a reading. -/
def Entry.opensAt (e : Entry σ) (t : Instant) : Bool := (e.group.getD []).all (·.holdsAt t)

namespace History

/-- The second of the latest job. -/
def jobTime (J : History) : Option Instant :=
  J.findSome? fun
    | .jobStarted _ t => some t
    | _ => none

/-- The branches that ran, the latest first: the second, the scenario and the place. -/
def branches : History → List (Option Instant × Nat × Nat)
  | [] => []
  | .entryRan scenario place :: J => (jobTime J, scenario, place) :: branches J
  | _ :: J => branches J

theorem jobTime_told (J : History) : jobTime (told J) = jobTime J := by
  induction J with
  | nil => rfl
  | cons m J ih =>
    rw [told_cons]
    cases m with
    | jobStarted => rfl
    | _ => exact ih

theorem branches_told (J : History) : branches (told J) = branches J := by
  induction J with
  | nil => rfl
  | cons m J ih =>
    rw [told_cons]
    cases m with
    | entryRan scenario place =>
      change (jobTime (told J), scenario, place) :: branches (told J) = _
      rw [jobTime_told, ih]
      rfl
    | _ => exact ih

end History

/-- The code of an entry does the same in worlds so related. -/
structure Entry.Blind (call : Call σ) (A : World σ → World σ → Prop) (e : Entry σ) : Prop where
  group : ∀ (tally : Tally) ⦃w w' : World σ⦄, A w w' →
    Together (applies call e.group tally) (applies call e.group tally) w w'
  callback : ∀ payload, call.Blind A (e.callback.program payload)

/-- No pass is in progress, and none is ever followed by a time of suppression. -/
structure Scenario.Resting (s : Scenario σ) : Prop where
  idle : s.evaluating = false
  free : s.suppressedUntil = none
  unlimited : s.suppressFor = none

/-- Memory and journal are taken over from worlds that are alike, and a mark is added. -/
theorem World.Alike.kept {w w' v v' : World σ} (alike : w.Alike w') (later : v.Alike v')
    (m : Mark) :
    ({ w with memory := v.memory, journal := m :: v.journal } : World σ).Alike
      { w' with memory := v'.memory, journal := m :: v'.journal } := by
  refine ⟨?_, (later.marked m).told⟩
  rw [← later.memory]
  exact alike.of_core fun u => { u with memory := v.memory }

/-! Passes over scenarios, in two worlds at once. -/

namespace Engine

section Passes

variable {call : Call σ} {A : World σ → World σ → Prop} (tie : Tie A) {w w' : World σ}
include tie

theorem runCallback_together (description : String) (c : Callback σ) (payload : Option Value)
    (blind : call.Blind A (c.program payload)) (tied : A w w') :
    Together (runCallback call description c payload) (runCallback call description c payload)
      w w' := by
  refine .bind tie tied (.attempt (blind tied)) fun outcome v v' tied => ?_
  cases outcome with
  | ok => exact .pure (tie.alike tied) ()
  | error cause => exact .fail (tie.alike tied) _

theorem visit_together (id : Nat) (description : String) (payload : Option Value) (place : Nat)
    (tally : Tally) (entries : List (Entry σ)) (blind : ∀ e ∈ entries, e.Blind call A)
    (tied : A w w') :
    Together (visit call id description payload place tally entries)
      (visit call id description payload place tally entries) w w' := by
  induction entries generalizing place tally w w' with
  | nil => exact .pure (tie.alike tied) tally
  | cons e rest ih =>
    obtain ⟨first, others⟩ := List.forall_mem_cons.mp blind
    refine .bind tie tied (first.group tally tied) fun holds v v' tied => ?_
    cases holds with
    | false => exact ih _ _ others tied
    | true =>
      refine .bind tie tied (.mark (tie.alike tied) _) fun _ v v' tied => ?_
      refine .bind tie tied
        (runCallback_together tie description e.callback payload (first.callback payload) tied)
        fun _ v v' tied => ?_
      exact ih _ _ others tied

end Passes

/-! A pass leaves a scenario without a time of suppression as it was. -/

section Resting

open Evaluation

variable {id : Nat} {s : Scenario σ} {w v : World σ}

theorem modifyScenario_still (w : World σ) {change : Scenario σ → Scenario σ}
    (same : ∀ s, w.scenarios[id]? = some s → change s = s) : w.modifyScenario id change = w := by
  have scenarios : w.scenarios.modify id change = w.scenarios := by
    apply List.ext_getElem?
    intro n
    rw [List.getElem?_modify]
    by_cases here : id = n
    · subst here
      cases known : w.scenarios[id]? with
      | none => rfl
      | some s => simp [same s known]
    · simp [here]
  rw [World.modifyScenario, scenarios]

variable (found : w.scenarios[id]? = some s) (resting : s.Resting)
include found resting

/-- What visits have left, with the scenario as it was. -/
theorem released_eq (noted : (begun id w).Noted v) :
    released id v = { w with memory := v.memory, journal := v.journal } := by
  obtain ⟨memory, journal, rfl⟩ := noted
  let kept : World σ := { w with memory, journal }
  have twice : released id { begun id w with memory, journal } =
      kept.modifyScenario id fun s => { s with evaluating := false } := by
    unfold released begun World.modifyScenario World.marked
    simp only [List.modify_modify_eq]
    rfl
  rw [twice]
  refine modifyScenario_still kept fun t known => ?_
  obtain rfl : s = t := Option.some.inj (found.symm.trans known)
  rw [← resting.idle]

theorem suppressed_eq (ran : Nat) : suppressed id ran w = w := by
  refine modifyScenario_still w fun t known => ?_
  obtain rfl : s = t := Option.some.inj (found.symm.trans known)
  rw [resting.unlimited]

theorem concluded_eq (noted : (begun id w).Noted v) (ran : Nat) :
    concluded id ran v =
      { w with memory := v.memory, journal := .passEnded id (some ran) :: v.journal } := by
  have quiet := suppressed_eq (w := { w with memory := v.memory, journal := v.journal }) found
    resting ran
  rw [concluded, released_eq found resting noted, quiet]
  rfl

omit found resting in
/-- A pass over such a scenario touches nothing but memory and journal. -/
theorem runPass_together {call : Call σ} {A : World σ → World σ → Prop} (tie : Tie A) {w' : World σ}
    (payload : Option Value) (resting : s.Resting) (found : w.scenarios[id]? = some s)
    (found' : w'.scenarios[id]? = some s) (alike : w.Alike w') (tied : A (begun id w) (begun id w'))
    (blind : ∀ e ∈ s.entries, e.Blind call A) :
    Together (runPass call id s payload) (runPass call id s payload) w w' := by
  obtain ⟨r, v, v', ran, ran', came, noted, noted', same⟩ :=
    visit_together tie id s.description payload 0 ⟨0, 0⟩ s.entries blind tied
  have passed := runPass_eq call id payload s w
  have passed' := runPass_eq call id payload s w'
  rw [ran] at passed
  rw [ran'] at passed'
  match r, came, passed, passed' with
  | .ok tally, _, passed, passed' =>
    dsimp only at passed passed'
    rw [concluded_eq found resting noted] at passed
    rw [concluded_eq found' resting noted'] at passed'
    exact ⟨_, _, _, passed, passed', rfl, ⟨_, _, rfl⟩, ⟨_, _, rfl⟩, alike.kept same _⟩
  | .error (.failed cause), _, passed, passed' =>
    dsimp only [stopped] at passed passed'
    rw [released_eq found resting noted] at passed
    rw [released_eq found' resting noted'] at passed'
    exact ⟨_, _, _, passed, passed', rfl, ⟨_, _, rfl⟩, ⟨_, _, rfl⟩, alike.kept same _⟩

end Resting

end Engine

theorem Engine.perform_together {call : Call σ} {A : World σ → World σ → Prop} (tie : Tie A)
    {r : Reply} {q : Request r} {w w' : World σ} (tied : A w w')
    (both : Together (perform call q) (perform call q) w w') :
    Together (interpret call (Program.perform q)) (interpret call (Program.perform q)) w w' := by
  refine .bind tie tied both.attempt fun answer v v' tied => ?_
  cases answer with
  | ok => exact .pure (tie.alike tied) true
  | error cause => exact .fail (tie.alike tied) cause

/-- The group holds conditions about weekdays and the time of day only, and the callback only
records. -/
structure Entry.Calendar (e : Entry σ) : Prop where
  group : ∀ predicates, e.group = some predicates →
    ∀ p ∈ predicates, ∃ c : Condition, p = .condition c ∧ c.isCalendar = true
  callback : ∀ payload, (e.callback.program payload).Records

/-- The entries of a scenario are open at the one reading as they are at the other. -/
def Scenario.Unanimous (s : Scenario σ) (r r' : Instant) : Prop :=
  ∀ e ∈ s.entries, e.opensAt r = e.opensAt r'

/-- A scenario without suppression that is governed by the calendar. -/
def Scenario.Calendar (s : Scenario σ) : Prop := s.Resting ∧ ∀ e ∈ s.entries, e.Calendar

section Scenarios

variable {scenarios : List (Scenario σ)} {K : Instant → Instant → Prop} {t : Instant}

/-- Asking conditions about the calendar leaves no trace. -/
theorem Engine.allHold_calendar (depth : Nat) (group : List (Predicate σ))
    (calendar : ∀ p ∈ group, ∃ c : Condition, p = .condition c ∧ c.isCalendar = true)
    (w : World σ) :
    allHold (exec (depth + 1)) group w = (.ok (group.all (·.holdsAt w.clock)), w) := by
  induction group with
  | nil => rfl
  | cons p rest ih =>
    obtain ⟨⟨c, rfl, isCalendar⟩, others⟩ := List.forall_mem_cons.mp calendar
    have asked : exec (depth + 1) (Predicate.condition c : Predicate σ).program w =
        (.ok (c.holdsAt w.clock), w) := by
      have answer : exec (depth + 1) (Predicate.condition c : Predicate σ).program w =
          (.ok (c.holds w.view), w) := rfl
      rw [answer, Condition.holds_eq isCalendar]
      rfl
    have first : (Predicate.condition c : Predicate σ).holdsAt w.clock = c.holdsAt w.clock := rfl
    rw [allHold, bind_ok asked, List.all_cons, first]
    cases c.holdsAt w.clock with
    | true => exact ih others
    | false => rfl

theorem Entry.Calendar.blind {e : Entry σ} (calendar : e.Calendar)
    (same : ∀ r r', K r r' → e.opensAt r = e.opensAt r') (depth : Nat) :
    e.Blind (exec (depth + 1)) (World.Beside scenarios K t) where
  group tally w w' beside := by
    have answers := same _ _ beside.clocks
    unfold Entry.opensAt at answers
    cases guarded : e.group with
    | none => exact .pure beside.alike _
    | some group =>
      rw [guarded, Option.getD_some] at answers
      have here := allHold_calendar depth group (calendar.group group guarded) w
      have there := allHold_calendar depth group (calendar.group group guarded) w'
      exact ⟨_, w, w', here, there.trans (by rw [answers]), rfl, .refl w, .refl w', beside.alike⟩
  callback payload := (calendar.callback payload).blind (tie_beside _ _ _) depth

theorem Engine.assert_resting {call : Call σ} {id : Nat} {payload : Option Value} {w : World σ}
    {s : Scenario σ} (found : w.scenarios[id]? = some s) (resting : s.Resting) :
    assert call id payload w = (if s.runnable then runPass call id s payload else pure 0) w := by
  have known := Evaluation.scenario_found id found
  have free : s.suppressedAt w.clock = none := by
    rw [Scenario.suppressedAt, resting.free]
    rfl
  rw [assert, bind_ok known, bind_ok (get_run _)]
  cases runnable : s.runnable with
  | false => rfl
  | true =>
    simp only [free, resting.idle, Bool.not_true, Bool.false_eq_true, if_false, if_true,
      Option.isSome_none]

theorem Engine.assert_together (governed : ∀ s ∈ scenarios, s.Calendar) {id : Nat}
    (unanimous : ∀ s, scenarios[id]? = some s → ∀ r r', K r r' → s.Unanimous r r')
    (depth : Nat) (payload : Option Value) {w w' : World σ}
    (beside : World.Beside scenarios K t w w') :
    Together (assert (exec (depth + 1)) id payload) (assert (exec (depth + 1)) id payload)
      w w' := by
  have here : w.scenarios[id]? = scenarios[id]? := by rw [beside.scenarios]
  have there : w'.scenarios[id]? = scenarios[id]? := by
    rw [← beside.alike.scenarios, beside.scenarios]
  cases known : scenarios[id]? with
  | none =>
    rw [known] at here there
    have missing := Evaluation.assert_missing (exec (depth + 1)) id payload here
    have missing' := Evaluation.assert_missing (exec (depth + 1)) id payload there
    exact ⟨_, w, w', missing, missing', rfl, .refl w, .refl w', beside.alike⟩
  | some s =>
    rw [known] at here there
    have member := List.mem_of_getElem? known
    obtain ⟨resting, calendar⟩ := governed s member
    refine .of_eq (assert_resting here resting) (assert_resting there resting) ?_
    cases s.runnable with
    | false => exact .pure beside.alike 0
    | true =>
      -- During the pass the scenarios are the same but for the one that is in it.
      have begun : World.Beside (Evaluation.begun id w).scenarios K t (Evaluation.begun id w)
          (Evaluation.begun id w') := by
        let change : Scenario σ → Scenario σ := fun s => { s with evaluating := true }
        have changed : (w.modifyScenario id change).Alike (w'.modifyScenario id change) :=
          ⟨beside.alike.of_core fun u => u.modifyScenario id change, beside.alike.told⟩
        exact ⟨changed.marked _, rfl, beside.here, beside.there, beside.clocks⟩
      refine runPass_together (tie_beside _ K t) payload resting here there beside.alike begun ?_
      intro e entry
      exact (calendar e entry).blind (fun r r' related => unanimous s known r r' related e entry)
        depth

end Scenarios

/-- The job of a trigger `every` or `at`, or one that only records. -/
def Job.Calendar (j : Job (Reaction σ)) : Prop :=
  (∃ s id, j.task = .trigger (.every s) id) ∨ (∃ time id, j.task = .trigger (.at time) id) ∨
    (j.task.program []).Records

/-- A job that is due asserts a scenario: that of a trigger `every`, or of a trigger `at` whose
time it is. -/
def Job.Asserts (j : Job (Reaction σ)) (t : Instant) (id : Nat) : Prop :=
  (∃ s, j.task = .trigger (.every s) id) ∨ j.task = .trigger (.at (TimeOfDay.of t)) id

/-- Jobs assert scenarios that the calendar governs, or only record, as do timers and the
subscribers of ticks. -/
structure World.Calendar (w : World σ) : Prop where
  scenarios : ∀ s ∈ w.scenarios, s.Calendar
  jobs : ∀ j ∈ w.agenda.jobs, j.Calendar
  timers : ∀ x ∈ w.agenda.timers, (x.task.program []).Records
  listeners : ∀ topic ∈ [secondTopic, minuteTopic, hourTopic], ∀ s ∈ w.bus.subscribers topic,
    ∀ arguments, (s.handler.program arguments).Records

/-- The scenarios that are asserted at the second have their entries open at the one reading as
at the other. -/
def World.Settled (w : World σ) (t r r' : Instant) : Prop :=
  ∀ j ∈ w.agenda.dueJobs t, ∀ id, j.Asserts t id → ∀ s, w.scenarios[id]? = some s →
    s.Unanimous r r'

theorem World.settled_same (w : World σ) (t r : Instant) : w.Settled t r r :=
  fun _ _ _ _ _ _ _ _ => rfl

section Jobs

variable {scenarios : List (Scenario σ)} {K : Instant → Instant → Prop} {t : Instant} {id : Nat}
  (governed : ∀ s ∈ scenarios, s.Calendar)
include governed

theorem Trigger.every_blind
    (unanimous : ∀ s, scenarios[id]? = some s → ∀ r r', K r r' → s.Unanimous r r')
    (s : Schedule) (depth : Nat) :
    Call.Blind (exec (depth + 2)) (World.Beside scenarios K t)
      ((Trigger.every s).program id [] : Program σ) := by
  intro w w' beside
  exact perform_together (tie_beside _ _ _) beside
    (assert_together governed unanimous depth none beside)

theorem Trigger.at_blind (time : TimeOfDay)
    (unanimous : TimeOfDay.of t = time →
      ∀ s, scenarios[id]? = some s → ∀ r r', K r r' → s.Unanimous r r') (depth : Nat) :
    Call.Blind (exec (depth + 2)) (World.Beside scenarios K t)
      ((Trigger.at time).program id [] : Program σ) := by
  intro w w' beside
  have registry : w.view.registry = w'.view.registry := beside.alike.registry
  have second : w.view.tickTime = t := by
    change w.agenda.current.getD w.clock = t
    rw [beside.here]
    rfl
  have second' : w'.view.tickTime = t := by
    change w'.agenda.current.getD w'.clock = t
    rw [beside.there]
    rfl
  refine .got ?_
  dsimp only
  rw [registry, second, second']
  split
  · exact .fail beside.alike _
  split
  · rename_i now
    exact perform_together (tie_beside _ _ _) beside
      (assert_together governed (unanimous now) depth _ beside)
  · exact .pure beside.alike true

end Jobs

theorem World.Calendar.blinded {w : World σ} (calendar : w.Calendar) (depth : Nat) :
    w.Blinded (exec (depth + 2)) w.Settled where
  timers x member := (calendar.timers x member).blind tie_alike (depth + 1)
  listeners topic named s member arguments :=
    (calendar.listeners topic named s member arguments).blind tie_alike (depth + 1)
  jobs t j member := by
    rcases calendar.jobs j (List.mem_filter.mp member).1 with
      ⟨s, id, task⟩ | ⟨time, id, task⟩ | records
    · rw [task]
      refine Trigger.every_blind calendar.scenarios (fun u known r r' settled => ?_) s depth
      exact settled j member id (.inl ⟨s, task⟩) u known
    · rw [task]
      refine Trigger.at_blind calendar.scenarios time (fun now u known r r' settled => ?_) depth
      subst now
      exact settled j member id (.inr task) u known
    · exact records.blind (tie_beside _ _ _) (depth + 1)

/-! Ticks on time. -/

namespace Instant

/-- The readings a second apart, `n` of them, that follow a reading by more than `k` seconds. -/
def onTime (t : Instant) (k n : Nat) : List Instant :=
  (List.range' (k + 1) n).map fun i => t.add (.ofSeconds i)

theorem add_ofSeconds_nanos (t : Instant) (n : Nat) :
    (t.add (.ofSeconds n)).nanos = min (t.nanos + n * 1000000000) latest.nanos := by
  have span : ((Span.ofSeconds n).nanos : Int) = n * 1000000000 := by
    simp [Span.ofSeconds]
  rw [add_eq, span]

theorem add_mono (t : Instant) {i k : Nat} (le : i ≤ k) :
    t.add (.ofSeconds i) ≤ t.add (.ofSeconds k) :=
  add_le_add (Int.le_refl _) (Nat.mul_le_mul_right _ le)

theorem add_zero {t : Instant} (early : t ≤ latest) : t.add (.ofSeconds 0) = t := by
  rw [le_iff] at early
  rw [eq_iff, add_ofSeconds_nanos]
  omega

theorem secondsTo_add_le (t : Instant) (k n : Nat) :
    (t.add (.ofSeconds k)).secondsTo (t.add (.ofSeconds (k + n))) ≤ n := by
  simp only [secondsTo, second_eq, add_ofSeconds_nanos]
  omega

theorem onTime_sorted (t : Instant) (k n : Nat) : (t.onTime k n).Pairwise (· ≤ ·) := by
  unfold onTime
  rw [List.pairwise_map]
  exact (List.pairwise_lt_range' 1 Nat.one_pos).imp fun less => add_mono t (Nat.le_of_lt less)

theorem onTime_succ (t : Instant) (k n : Nat) :
    t.onTime k (n + 1) = t.add (.ofSeconds (k + 1)) :: t.onTime (k + 1) n := by
  unfold onTime
  rw [List.range'_succ, List.map_cons]

theorem onTime_concat (t : Instant) (n : Nat) :
    t.onTime 0 (n + 1) = t.onTime 0 n ++ [t.add (.ofSeconds (n + 1))] := by
  unfold onTime
  rw [List.range'_concat, List.map_append, Nat.one_mul, Nat.zero_add, Nat.add_comm 1 n]
  rfl

end Instant

/-- The second that a reading on time evaluates is its own. -/
theorem Readings.agree_onTime {K : Instant → Instant → Instant → Prop} {last t : Instant}
    (k n : Nat) (each : ∀ s ∈ t.onTime k n, K s.truncate s last) :
    Agree K last (t.add (.ofSeconds k)) (t.onTime k n) := by
  induction n generalizing k with
  | zero => trivial
  | succ n ih =>
    rw [Instant.onTime_succ] at each ⊢
    obtain ⟨first, others⟩ := List.forall_mem_cons.mp each
    refine ⟨?_, ih (k + 1) others⟩
    intro i less
    have le := Instant.secondsTo_add_le t k 1
    have next := Instant.addSeconds_secondsTo (t.add_mono (Nat.le_succ k))
    have single : (t.add (.ofSeconds k)).secondsTo (t.add (.ofSeconds (k + 1))) = i + 1 := by
      omega
    rw [Nat.succ_eq_add_one, single] at next
    rw [next]
    exact first

open History (branches told)

/-- A tick right after another one has nothing to do. -/
theorem Engine.tick_again (call : Call σ) {w : World σ}
    (followed : w.agenda.lastTick = some w.clock.truncate)
    (fired : ∀ x ∈ w.agenda.timers, w.clock < x.deadline) :
    ∃ v, tick call w = (.ok 0, v) ∧ w.Alike v := by
  have none : w.clock.secondsTo w.clock = 0 := by
    unfold Instant.secondsTo
    omega
  have undue : (w.followed w.clock).agenda.dueTimers w.clock = [] := by
    refine List.eq_nil_iff_forall_not_mem.mpr fun x member => ?_
    obtain ⟨pending, due⟩ := Agenda.mem_dueTimers.mp member
    have early := fired x pending
    rw [Instant.le_iff] at due
    rw [Instant.lt_iff] at early
    omega
  have swept : (runSeconds call (w.clock.truncate.addSeconds 1) (w.clock.secondsTo w.clock) >>=
      fun _ => fireTimers call w.clock) (w.followed w.clock) =
        (.ok (), (w.followed w.clock).taking w.clock) := by
    have fired := fireTimers_run call w.clock (w.followed w.clock)
    rw [undue] at fired
    rw [none]
    exact fired
  have ticked := tick_gap followed (Int.le_refl _) (by omega) swept
  rw [none] at ticked
  exact ⟨_, ticked, (w.alike_followed w.clock).trans ((World.alike_taking _ w.clock).trans
    (.progress _ rfl))⟩

/-- A tick after a gap that is made up for runs the branches that ticks on time would have
run, for the same seconds and in the same order, if the scenarios that are asserted at a
second of the gap have their branches open on time as at the end of the gap. Where there is
no gap, no timer may be due. -/
theorem catch_up {w : World σ} (depth n : Nat) (calendar : w.Calendar)
    (followed : w.agenda.lastTick = some w.clock.truncate) (early : w.clock ≤ Instant.latest)
    (fired : n = 0 → ∀ x ∈ w.agenda.timers, w.clock < x.deadline)
    (near : n ≤ w.agenda.maxCatchUp)
    (settled : ∀ s ∈ w.clock.onTime 0 n, w.Settled s.truncate s (w.clock.add (.ofSeconds n))) :
    ∃ seconds onTime late,
      tickAll (exec (depth + 2)) (w.clock.onTime 0 n) w = (.ok seconds, onTime) ∧
      tickAll (exec (depth + 2)) [w.clock.add (.ofSeconds n)] w = (.ok seconds, late) ∧
      branches onTime.journal = branches late.journal ∧
      told onTime.journal = told late.journal := by
  have start := Instant.add_zero early
  suffices same : ∃ seconds onTime late,
      tickAll (exec (depth + 2)) (w.clock.onTime 0 n) w = (.ok seconds, onTime) ∧
      tickAll (exec (depth + 2)) [w.clock.add (.ofSeconds n)] w = (.ok seconds, late) ∧
      told onTime.journal = told late.journal by
    obtain ⟨seconds, onTime, late, ran, ran', told⟩ := same
    refine ⟨seconds, onTime, late, ran, ran', ?_, told⟩
    rw [← History.branches_told, told, History.branches_told]
  cases n with
  | zero =>
    obtain ⟨v, ticked, alike⟩ := tick_again (exec (depth + 2)) followed (fired rfl)
    rw [start]
    exact ⟨0, w, v, rfl, tickAll_single ticked, alike.told⟩
  | succ n =>
    have sorted : (w.clock :: w.clock.onTime 0 (n + 1)).Pairwise (· ≤ ·) := by
      refine List.pairwise_cons.mpr ⟨fun s member => ?_, w.clock.onTime_sorted 0 (n + 1)⟩
      obtain ⟨i, -, rfl⟩ := List.mem_map.mp member
      have later := w.clock.add_mono (Nat.zero_le i)
      rw [start] at later
      exact later
    have gap := Instant.secondsTo_add_le w.clock 0 (n + 1)
    rw [start, Nat.zero_add] at gap
    unfold Instant.secondsTo at gap
    rw [Instant.onTime_concat] at sorted settled ⊢
    have agree := Readings.agree_onTime (K := w.Settled) 0 n fun s member =>
      settled s (List.mem_append_left _ member)
    rw [start] at agree
    obtain ⟨split, whole, ran, alone, twin⟩ := (calendar.blinded depth).tickAll_twin followed
      sorted (by omega) agree fun t => w.settled_same t _
    exact ⟨_, split, whole, ran, alone, twin.told⟩

/-- From eight to the end of that minute. -/
def eight : TimeWindow := ⟨.of (.ofSecond 28800), .of (.ofSecond 28800)⟩

/-- At eight, if it is eight. -/
def breakfast : Scenario Unit :=
  { (Scenario.new "breakfast" none : Scenario Unit) with
    entries := [⟨some [.condition (.timeBetween eight)],
      .deed "breakfast" ⟨some "ready", none, none⟩⟩] }

/-- Half a minute before eight, after a tick. -/
def morning : World Unit :=
  { World.start (.ofSecond 28770) [] () with
    scenarios := [breakfast]
    registry := some [0]
    agenda := { (Agenda.empty : Agenda (Reaction Unit)) with
      jobs := [⟨0, .minutely, .trigger (.at eight.first) 0⟩]
      nextJob := 1
      lastTick := some (.ofSecond 28770) } }

theorem morning_calendar : morning.Calendar := by
  refine ⟨?_, ?_, ?_, ?_⟩
  · intro s member
    obtain rfl := List.mem_singleton.mp member
    refine ⟨⟨rfl, rfl, rfl⟩, fun e entry => ?_⟩
    obtain rfl := List.mem_singleton.mp entry
    refine ⟨fun predicates declared p guard => ?_, fun payload => trivial⟩
    cases declared
    exact ⟨_, List.mem_singleton.mp guard, rfl⟩
  · intro j member
    obtain rfl := List.mem_singleton.mp member
    exact .inr (.inl ⟨_, _, rfl⟩)
  · exact fun x member => nomatch member
  · exact fun topic _ s member => nomatch member

theorem morning_settled {t r r' : Instant}
    (same : TimeOfDay.of t = eight.first → eight.contains r = eight.contains r') :
    morning.Settled t r r' := by
  intro j due id asserts s known e entry
  obtain rfl := List.mem_singleton.mp (List.mem_filter.mp due).1
  have now : TimeOfDay.of t = eight.first := by
    rcases asserts with ⟨_, task⟩ | task
    · cases task
    · injection task with trigger
      injection trigger with time
      exact time.symm
  obtain rfl := List.mem_singleton.mp (List.mem_of_getElem? known)
  obtain rfl := List.mem_singleton.mp entry
  simpa [Entry.opensAt, Predicate.holdsAt, Condition.holdsAt] using same now

/-- Forty seconds later it is still eight. -/
theorem catch_up_morning :
    morning.Calendar ∧ morning.agenda.lastTick = some morning.clock.truncate ∧
      morning.clock ≤ Instant.latest ∧ morning.agenda.timers = [] ∧
      40 ≤ morning.agenda.maxCatchUp ∧
      (∀ s ∈ morning.clock.onTime 0 40,
        morning.Settled s.truncate s (morning.clock.add (.ofSeconds 40))) ∧
      branches (tickAll (exec 2) (morning.clock.onTime 0 40) morning).2.journal =
        [(some (.ofSecond 28800), 0, 0)] ∧
      ∃ seconds onTime late,
        tickAll (exec 2) (morning.clock.onTime 0 40) morning = (.ok seconds, onTime) ∧
        tickAll (exec 2) [morning.clock.add (.ofSeconds 40)] morning = (.ok seconds, late) ∧
        branches onTime.journal = branches late.journal ∧
        History.told onTime.journal = History.told late.journal := by
  have followed : morning.agenda.lastTick = some morning.clock.truncate := by decide +kernel
  have early : morning.clock ≤ Instant.latest := by decide +kernel
  have near : 40 ≤ morning.agenda.maxCatchUp := by decide
  have answers : ∀ s ∈ morning.clock.onTime 0 40, TimeOfDay.of s.truncate = eight.first →
      eight.contains s = eight.contains (morning.clock.add (.ofSeconds 40)) := by
    decide +kernel
  have settled : ∀ s ∈ morning.clock.onTime 0 40,
      morning.Settled s.truncate s (morning.clock.add (.ofSeconds 40)) :=
    fun s member => morning_settled (answers s member)
  exact ⟨morning_calendar, followed, early, rfl, near, settled, by decide +kernel,
    catch_up 0 40 morning_calendar followed early (fun none => nomatch none) near settled⟩

/-- A minute and a half later it is not, and what was due at eight does not run. -/
theorem late_breakfast_missed :
    morning.Calendar ∧ morning.agenda.lastTick = some morning.clock.truncate ∧
      90 ≤ morning.agenda.maxCatchUp ∧
      branches (tickAll (exec 2) (morning.clock.onTime 0 90) morning).2.journal =
        [(some (.ofSecond 28800), 0, 0)] ∧
      branches (tickAll (exec 2) [morning.clock.add (.ofSeconds 90)] morning).2.journal = [] :=
  ⟨morning_calendar, by decide +kernel, by decide, by decide +kernel, by decide +kernel⟩

end Reflex
