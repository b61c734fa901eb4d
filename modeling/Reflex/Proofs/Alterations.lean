import Reflex.Proofs.Following
import Reflex.Proofs.Sessions

/-! All that operations do to the world at once, passes aside, as single steps between which
code runs. A relation that composes, holds of each step and is passed on by passes holds of
every run of code. -/
namespace Reflex
open Act Engine Evaluation

variable {σ α : Type}

namespace World

/-- A write of a variable up to the moment when its subscribers are called. -/
def publishing (w : World σ) (name : String) (value : Value) (ttl : Option Span) : World σ :=
  (w.writing name value ttl).marked
    (.emitted variableTopic [variableChange name value (w.value name)])

/-- The end of a variable's lifetime up to the moment when its subscribers are called. -/
def resetting (w : World σ) (name : String) : World σ :=
  (w.expiring name).marked (.emitted variableTopic [variableChange name .null (w.value name)])

/-- The steps, but for the beginning and the end of passes. -/
inductive Alters (rule : Rule) : World σ → World σ → Prop
  | change {w w' : World σ} : Change rule w w' → Alters rule w w'
  | arm {w : World σ} {d : Span} {task : Reaction σ} : task.Within rule →
      Alters rule w (w.arming d task)
  | cancel {w : World σ} {id : Nat} : Alters rule w (w.cancelling id)
  | drop {w : World σ} {withStore : Bool} : Alters rule w (w.dropping withStore)
  | write {w : World σ} {name : String} {value : Value} {ttl : Option Span} :
      Alters rule w (w.publishing name value ttl)
  | expire {w : World σ} {name : String} : (w.slot? name).isSome = true →
      Alters rule w (w.resetting name)
  | begin {w : World σ} : Alters rule w w.beginning
  | second {w : World σ} {t : Instant} : Alters rule w (w.marked (.second t))
  | take {w : World σ} {t : Instant} : Alters rule w (w.taking t)
  | start {w : World σ} {timer : Nat} : Alters rule w (w.marked (.timerStarted timer))
  | serve {w : World σ} {t : Instant} : Alters rule w (w.marked (.served t))
  | finish {w : World σ} {seconds : Nat} : Alters rule w (w.marked (.tickEnded seconds))

end World

/-- A relation that all steps obey. -/
structure Link.Entire (R : Link σ) (rule : Rule) : Prop extends R.Chained where
  alter {w w' : World σ} : w.Alters rule w' → R w true w'
  pass {w last : World σ} {id : Nat} {s : Scenario σ} (outcome : Except Interrupt Nat) :
    w.Admits id s → R (begun id w) (ended outcome) last →
    R w (ended outcome) (closed id outcome last)

variable {rule : Rule} {R : Link σ}

theorem Link.Entire.law (entire : R.Entire rule) : R.Law rule where
  toChained := entire.toChained
  change change := entire.alter (.change change)
  pass := entire.pass

theorem Upheld.reporting (law : R.Law rule) {report : Failure → Mark} {x : Act σ α} {w : World σ}
    (bare : ∀ cause, (report cause).isBare = true) (upheld : Upheld rule R x w) :
    Upheld rule R (reporting report x) w := by
  refine .bind law.toChained upheld.attempt fun outcome w _ lodges => ?_
  cases outcome with
  | ok => exact .pure law.toChained _ lodges
  | error cause => exact mark_upheld law (bare cause) lodges

namespace Engine

theorem emit_run (call : Call σ) (topic : String) (arguments : List Value) (w : World σ) :
    emit call topic arguments w =
      deliver call arguments (w.bus.subscribers topic) (w.marked (.emitted topic arguments)) := rfl

section Operations

variable (entire : R.Entire rule) (allowed : rule.Open) {call : Call σ}
  (calls : Calls rule R (fun _ => R) call)
include entire allowed calls

/-- Calling the subscribers of a publication that has started. -/
theorem published_entire (topic : String) (arguments : List Value) {w : World σ}
    (lodges : w.Lodges rule) :
    Upheld rule R (deliver call arguments (w.bus.subscribers topic))
      (w.marked (.emitted topic arguments)) :=
  deliver_upheld entire.law allowed calls arguments _
    (fun s member => lodges.subscriptions s (List.mem_filter.mp member).1) (lodges.marked _)

theorem setVariable_entire (name : String) (value : Value) (ttl : Option Span) {w : World σ}
    (lodges : w.Lodges rule) : Upheld rule R (setVariable call name value ttl) w := by
  have published := published_entire entire allowed calls variableTopic
    [variableChange name value (w.value name)] (lodges.writing name value ttl)
  constructor <;> rw [setVariable_run]
  · exact published.lodges
  · exact entire.trans (entire.alter .write) published.link

theorem expireVariable_entire (name : String) {w : World σ} (lodges : w.Lodges rule) :
    Upheld rule R (expireVariable call name) w := by
  cases present : w.storeAlive && (w.slot? name).isSome with
  | false =>
    refine .still entire.toChained ?_ lodges
    rw [expireVariable_run, publishLapse, World.lapsing, present]
    rfl
  | true =>
    have expired : w.lapsing name = w.expiring name := by rw [World.lapsing, if_pos present]
    have published := published_entire entire allowed calls variableTopic
      [variableChange name .null (w.value name)] (expired ▸ lodges.lapsing name)
    constructor <;> rw [expireVariable_run, publishLapse, if_pos present, expired]
    · exact published.lodges
    · exact entire.trans (entire.alter (.expire (Bool.and_eq_true_iff.mp present).2))
        published.link

/-! Following the clock. -/

theorem runTimers_entire (batch : List (Timer (Reaction σ))) (kept : ∀ x ∈ batch, x.Within rule)
    {w : World σ} (lodges : w.Lodges rule) : Upheld rule R (runTimers call batch) w := by
  have chained := entire.toChained
  induction batch generalizing w with
  | nil => exact .pure chained () lodges
  | cons x rest ih =>
    obtain ⟨first, others⟩ := List.forall_mem_cons.mp kept
    have started := lodges.marked (.timerStarted x.id)
    have ran : Upheld rule R (call (x.task.program [])) (w.marked (.timerStarted x.id)) := by
      rcases first with ⟨name, task⟩ | within
      · rw [task]
        exact calls.expiry started
      · exact calls.code (Reaction.program_within allowed within []) started
    refine .step chained (mark_run _ w) (entire.alter .start) ?_
    exact .bind chained (.reporting entire.law (fun _ => rfl) ran) fun _ _ _ lodges =>
      ih others lodges

theorem fireTimers_entire (t : Instant) {w : World σ} (lodges : w.Lodges rule) :
    Upheld rule R (fireTimers call t) w := by
  have ran := runTimers_entire entire allowed calls (w.agenda.dueTimers t) (due_within lodges t)
    (lodges.taking t)
  constructor <;> rw [fireTimers_run]
  · exact ran.lodges
  · exact entire.trans (entire.alter .take) ran.link

theorem notify_entire (topic : String) (arguments : List Value) {w : World σ}
    (lodges : w.Lodges rule) : Upheld rule R (notify call topic arguments) w := by
  refine .bind entire.toChained (mark_upheld entire.law rfl lodges) fun _ w _ lodges => ?_
  exact .reporting entire.law (fun _ => rfl) (emit_upheld entire.law allowed calls _ _ lodges)

theorem publishSecond_entire (t : Instant) {w : World σ} (lodges : w.Lodges rule) :
    Upheld rule R (publishSecond call t) w := by
  have chained := entire.toChained
  refine .bind chained (notify_entire entire allowed calls _ _ lodges) fun _ w _ lodges => ?_
  split
  · refine .bind chained (notify_entire entire allowed calls _ _ lodges) fun _ w _ lodges => ?_
    split
    · exact notify_entire entire allowed calls _ _ lodges
    · exact .pure chained _ lodges
  · exact .pure chained _ lodges

theorem notifyAll_entire (t : Instant) {w : World σ} (lodges : w.Lodges rule) :
    Upheld rule R (notifyAll call t) w := by
  refine .bind entire.toChained (publishSecond_entire entire allowed calls t lodges)
    fun _ w _ lodges => ?_
  exact .of_run (mark_run _ w) (lodges.marked _) (entire.alter .serve)

theorem runJobs_entire (t : Instant) (jobs : List (Job (Reaction σ)))
    (kept : ∀ j ∈ jobs, j.task.Within rule) {w : World σ} (lodges : w.Lodges rule) :
    Upheld rule R (runJobs call t jobs) w := by
  have chained := entire.toChained
  induction jobs generalizing w with
  | nil => exact .pure chained () lodges
  | cons j rest ih =>
    obtain ⟨first, others⟩ := List.forall_mem_cons.mp kept
    have program := Reaction.program_within allowed first []
    refine .bind chained (mark_upheld entire.law rfl lodges) fun _ w _ lodges => ?_
    refine .bind chained (.reporting entire.law (fun _ => rfl) (calls.code program lodges))
      fun _ w _ lodges => ?_
    exact ih others lodges

omit allowed calls in
theorem setCurrent_entire (t : Option Instant) {w : World σ} (lodges : w.Lodges rule) :
    Upheld rule R (setCurrent t) w :=
  upheld_aside entire.law (modify_run _ w) ⟨rfl, rfl, rfl, rfl, rfl, rfl, rfl, rfl, rfl, rfl, rfl⟩
    ⟨lodges.1, lodges.2, lodges.3, lodges.4, lodges.5, lodges.6⟩

theorem runSecond_entire (t : Instant) {w : World σ} (lodges : w.Lodges rule) :
    Upheld rule R (runSecond call t) w := by
  have chained := entire.toChained
  refine .read (get_run w) ?_
  refine .bind chained (setCurrent_entire entire _ lodges) fun _ w _ lodges => ?_
  refine .step chained (mark_run _ w) (entire.alter .second) ?_
  refine .bind chained (fireTimers_entire entire allowed calls t (lodges.marked _))
    fun _ w _ lodges => ?_
  refine .bind chained (notifyAll_entire entire allowed calls t lodges) fun _ w _ lodges => ?_
  have due : ∀ j ∈ w.agenda.dueJobs t, j.task.Within rule :=
    fun j member => lodges.jobs j (List.mem_filter.mp member).1
  refine .read (get_run w) ?_
  refine .bind chained (runJobs_entire entire allowed calls t _ due lodges) fun _ w _ lodges => ?_
  exact setCurrent_entire entire _ lodges

theorem evaluateSecond_entire (t : Instant) {w : World σ} (lodges : w.Lodges rule) :
    Upheld rule R (evaluateSecond call t) w :=
  .bind entire.toChained (runSecond_entire entire allowed calls t lodges) fun _ _ _ lodges =>
    mark_upheld entire.law rfl lodges

theorem runSeconds_entire (t : Instant) (n : Nat) {w : World σ} (lodges : w.Lodges rule) :
    Upheld rule R (runSeconds call t n) w := by
  induction n generalizing t w with
  | zero => exact .pure entire.toChained () lodges
  | succ n ih =>
    exact .bind entire.toChained (evaluateSecond_entire entire allowed calls t lodges)
      fun _ _ _ lodges => ih _ lodges

theorem tick_entire {w : World σ} (lodges : w.Lodges rule) : Upheld rule R (tick call) w := by
  have chained := entire.toChained
  have began : w.beginning.Lodges rule :=
    (lodges.agenda_kept { w.agenda with lastTick := some w.clock.truncate } rfl
      lodges.timers).marked _
  have reported : R w true (w.beginning.noting (w.agenda.plan w.clock.truncate).report) := by
    refine entire.trans (entire.alter .begin) ?_
    cases report : (w.agenda.plan w.clock.truncate).report with
    | none => exact entire.refl _
    | some m =>
      refine entire.alter (.change (.mark ?_))
      rcases Agenda.plan_report report with ⟨_, rfl⟩ | ⟨_, rfl⟩
      · rfl
      · rfl
  have followed : Upheld rule R (do
      runSeconds call (w.agenda.plan w.clock.truncate).first (w.agenda.plan w.clock.truncate).count
      fireTimers call w.clock
      mark (.tickEnded (w.agenda.plan w.clock.truncate).count)
      return (w.agenda.plan w.clock.truncate).count : Act σ Nat)
      (w.beginning.noting (w.agenda.plan w.clock.truncate).report) := by
    refine .bind chained (runSeconds_entire entire allowed calls _ _ (began.noting _))
      fun _ w _ lodges => ?_
    refine .bind chained (fireTimers_entire entire allowed calls _ lodges) fun _ w _ lodges => ?_
    exact .step chained (mark_run _ w) (entire.alter .finish) (.pure chained _ (lodges.marked _))
  constructor <;> rw [tick_run]
  · exact followed.lodges
  · exact entire.trans reported followed.link

theorem timed_entire : Timed rule R call where
  once within lodges :=
    .of_run (once_run _ _ _) (lodges.arming _ (.inr within)) (entire.alter (.arm within))
  cancel _ lodges := .of_run (cancel_run _ _) (lodges.cancelling _) (entire.alter .cancel)
  drop _ lodges :=
    .of_run (modify_run _ _) ⟨lodges.1, lodges.2, lodges.3, lodges.4, lodges.5, lodges.6⟩
      (entire.alter .drop)
  set lodges := setVariable_entire entire allowed calls _ _ _ lodges
  expire _ lodges := expireVariable_entire entire allowed calls _ lodges
  tick lodges := tick_entire entire allowed calls lodges

end Operations

/-- Every run of code obeys a relation that all steps obey. -/
theorem exec_entire (entire : R.Entire rule) (allowed : rule.Open) (depth : Nat) :
    Calls rule R (fun _ => R) (exec depth) := by
  induction depth with
  | zero =>
    constructor
    · exact fun _ lodges => .still entire.toChained rfl lodges
    · exact fun lodges => .still entire.toChained rfl lodges
  | succ depth calls =>
    constructor
    · exact fun kept lodges => interpret_upheld entire.law allowed calls
        (timed_entire entire allowed calls) kept lodges
    · intro name w lodges
      refine .before_still (expireVariable_entire entire allowed calls name lodges).attempt ?_
      intro answer next
      cases answer <;> exact ⟨rfl, rfl⟩

end Engine

/-! What these steps touch. -/

/-- Marks of subscriptions, passes and changes of variables. -/
def Mark.isKey : Mark → Bool
  | subscribed _ _ | unsubscribed _ _ => true
  | passBegan _ | passEnded _ _ => true
  | written _ | expired _ => true
  | _ => false

theorem Mark.isPass_of_other {m : Mark} (other : m.isKey = false) : m.isPass = false := by
  cases m <;> first | rfl | cases other

/-- Whether a scenario is in a pass, for how long passes keep it quiet, and until when. -/
def Scenario.pace (s : Scenario σ) : Bool × Option Span × Option Instant :=
  (s.evaluating, s.suppressFor, s.suppressedUntil)

namespace World

/-- Neither subscriptions nor scenarios nor variables are touched. -/
structure Elsewhere (w w' : World σ) : Prop where
  bus : w'.bus = w.bus
  scenarios : w'.scenarios = w.scenarios
  registry : w'.registry = w.registry
  slots : w'.slots = w.slots
  journal : w.Without Mark.isKey w'

/-- The steps that touch them, and the others. -/
inductive Touches : World σ → World σ → Prop
  | elsewhere {w w' : World σ} : w.Elsewhere w' → Touches w w'
  | subscribe {w : World σ} {topic : String} {handler : Reaction σ} :
      Touches w (w.subscribing topic handler)
  | unsubscribe {w : World σ} {id : Nat} : Touches w (w.unsubscribing id)
  | extend {w : World σ} {id : Nat} {e : Entry σ} : Touches w (w.extending id e)
  | create {w : World σ} {ids : List Nat} {description : String} {options : Options} :
      w.registry = some ids → Touches w (w.creating ids description options)
  | test {w : World σ} {ids : List Nat} {id : Nat} {enabled : Bool} : w.registry = some ids →
      Touches w (w.testing ids id enabled)
  | clear {w : World σ} {ids : List Nat} : w.registry = some ids → Touches w (w.clearing ids)
  | drop {w : World σ} {withStore : Bool} : Touches w (w.dropping withStore)
  | write {w : World σ} {name : String} {value : Value} {ttl : Option Span} :
      Touches w (w.publishing name value ttl)
  | expire {w : World σ} {name : String} : (w.slot? name).isSome = true →
      Touches w (w.resetting name)

variable {kind : Mark → Bool} {w w' last : World σ}

namespace Without

/-- A write arms and cancels timers before it is told and published. -/
theorem publishing (w : World σ) (name : String) (value : Value) (ttl : Option Span)
    (armed : ∀ i t, kind (.timerArmed i t) = false)
    (cancelled : ∀ i found, kind (.timerCancelled i found) = false)
    (written : ∀ x, kind (.written x) = false)
    (emitted : ∀ topic arguments, kind (.emitted topic arguments) = false) :
    w.Without kind (w.publishing name value ttl) := by
  have absorbs : Absorbs (Without kind : World σ → World σ → Prop) := {
    refl := fun _ => of_same rfl
    trans := trans
    store := fun _ _ _ => of_same rfl
    arm := fun _ _ _ => of_mark rfl (armed _ _)
    cancel := fun _ _ => of_mark rfl (cancelled _ _)
    written := fun w x => marked w (written x) }
  exact (absorbs.writing w name value ttl).trans (marked _ (emitted _ _))

end Without

theorem replacing_shape (w : World σ) (name : String) (slot : Slot) :
    ∃ agenda journal, w.replacing name slot =
      { w with slots := Table.put name slot w.slots, agenda, journal } := by
  unfold World.replacing
  cases (w.slot? name).bind (·.expiry) with
  | none => exact ⟨_, _, rfl⟩
  | some timer => exact ⟨_, _, rfl⟩

/-- A write changes the variable, and besides only the agenda and the journal. -/
theorem publishing_shape (w : World σ) (name : String) (value : Value) (ttl : Option Span) :
    ∃ expiry agenda journal, w.publishing name value ttl =
      { w with slots := Table.put name ⟨value, expiry⟩ w.slots, agenda, journal } := by
  unfold World.publishing
  cases ttl with
  | none =>
    obtain ⟨agenda, journal, same⟩ := w.replacing_shape name ⟨value, none⟩
    rw [World.writing, same]
    exact ⟨_, _, _, rfl⟩
  | some d =>
    obtain ⟨agenda, journal, same⟩ := (w.arming d (.expiry name)).replacing_shape name
      ⟨value, some w.agenda.nextTimer⟩
    rw [World.writing, same]
    exact ⟨_, _, _, rfl⟩

theorem Elsewhere.marked (w : World σ) {m : Mark} (other : m.isKey = false) :
    w.Elsewhere (w.marked m) :=
  ⟨rfl, rfl, rfl, rfl, .marked w other⟩

theorem Alters.touches {rule : Rule} (alters : w.Alters rule w') : w.Touches w' := by
  cases alters with
  | change change =>
    cases change with
    | mark bare =>
      refine .elsewhere (.marked w ?_)
      rename_i m
      cases m <;> first | rfl | cases bare
    | aside aside =>
      exact .elsewhere ⟨aside.bus, aside.scenarios, aside.registry, aside.slots,
        .of_same aside.journal⟩
    | subscribe => exact .subscribe
    | unsubscribe => exact .unsubscribe
    | extend => exact .extend
    | create known => exact .create known
    | test known => exact .test known
    | clear known => exact .clear known
    | bind => exact .elsewhere ⟨rfl, rfl, rfl, rfl, .of_same rfl⟩
    | equip => exact .elsewhere ⟨rfl, rfl, rfl, rfl, .of_mark rfl rfl⟩
    | @adjust d device feature value _ =>
      have tuned : w.Elsewhere (w.tuning d device feature value) :=
        ⟨rfl, rfl, rfl, rfl, .of_mark rfl rfl⟩
      apply Touches.elsewhere
      unfold adjusting
      split
      · exact ⟨rfl, rfl, rfl, rfl, tuned.journal.trans (.marked _ rfl)⟩
      · exact tuned
  | arm | cancel | take | begin =>
    exact .elsewhere ⟨rfl, rfl, rfl, rfl, .of_mark rfl rfl⟩
  | second | start | serve | finish => exact .elsewhere (.marked w rfl)
  | drop => exact .drop
  | write => exact .write
  | expire present => exact .expire present

/-- Only passes tell of passes. -/
theorem Touches.passless (touches : w.Touches w') : w.Without Mark.isPass w' := by
  cases touches with
  | elsewhere same => exact same.journal.mono fun _ => Mark.isPass_of_other
  | subscribe | unsubscribe => exact .marked _ rfl
  | extend | create | test | clear | drop => exact .of_same rfl
  | write =>
    apply Without.publishing
    all_goals intros; rfl
  | expire => exact ⟨[_, _], rfl, by simp [Mark.isPass]⟩

/-! Readings of scenarios on which such steps do not bear. -/

theorem refreshing_paces (w : World σ) (ids : List Nat) :
    (w.refreshing ids).scenarios.map Scenario.pace = w.scenarios.map Scenario.pace := by
  apply mapIdx_map
  intro n s
  split <;> rfl

/-- The scenarios keep their pace, and a new one has made no pass. -/
theorem Touches.paces (touches : w.Touches w') :
    ∃ new, w'.scenarios.map Scenario.pace = w.scenarios.map Scenario.pace ++ new ∧
      ∀ x ∈ new, x.1 = false ∧ x.2.2 = none := by
  have still : ∀ {scenarios : List (Scenario σ)},
      scenarios.map Scenario.pace = w.scenarios.map Scenario.pace →
      ∃ new, scenarios.map Scenario.pace = w.scenarios.map Scenario.pace ++ new ∧
        ∀ x ∈ new, x.1 = false ∧ x.2.2 = none :=
    fun same => ⟨[], by rw [same, List.append_nil], fun _ none => nomatch none⟩
  cases touches with
  | elsewhere same => exact still (by rw [same.scenarios])
  | subscribe | unsubscribe | drop | expire => exact still rfl
  | extend => exact still (modifyScenario_map _ w _ fun _ => rfl)
  | create =>
    refine ⟨_, (refreshing_paces _ _).trans List.map_append, ?_⟩
    intro x member
    rw [List.mem_singleton.mp member]
    exact ⟨rfl, rfl⟩
  | test => exact still ((refreshing_paces _ _).trans (modifyScenario_map _ w _ fun _ => rfl))
  | clear =>
    apply still
    apply mapIdx_map
    intro n s
    split <;> rfl
  | @write name value ttl =>
    obtain ⟨_, _, _, shape⟩ := w.publishing_shape name value ttl
    exact still (by rw [shape])

end World

end Reflex
