import Reflex.Engine.Run
import Reflex.Proofs.Agenda
import Reflex.Proofs.Passes

/-! Declared code comes to its end. Code nests through passes over scenarios that are idle,
and a pass uses one up; in between are only a deed, what it publishes and a device report
on the way to its device. So three levels for each idle scenario, and a few more, are
enough whatever the triggers and branches are. -/
namespace Reflex
open Act Engine World

variable {σ α β : Type}

/-- A step that comes to its end if the code in it can nest deep enough, and changes nothing
but what a run may change. -/
structure Returns (deep : Prop) (x : Act σ α) (w : World σ) : Prop where
  came : deep → ended (x w).1 = true
  kept : ended (x w).1 = true → w.Kept (x w).2

/-- A sound world with so many idle scenarios. -/
structure World.Stands (i : Nat) (w : World σ) : Prop extends w.Sound where
  idle : w.idle = i

theorem World.Kept.stands {i : Nat} {w w' : World σ} (kept : w.Kept w') (stands : w.Stands i) :
    w'.Stands i :=
  ⟨kept.sound stands.toSound, kept.idle.trans stands.idle⟩

/-- Called in a world with so many idle scenarios, the program returns. -/
def Call.Serves (call : Call σ) (deep : Prop) (i : Nat) (p : Program σ) : Prop :=
  ∀ w : World σ, w.Stands i → Returns deep (call p) w

namespace Returns

variable {deep : Prop} {i : Nat} {x : Act σ α} {f : α → Act σ β} {w next : World σ}

theorem of_run {r : Except Interrupt α} (ran : x w = (r, next)) (came : ended r = true)
    (kept : w.Kept next) : Returns deep x w := by
  constructor <;> rw [ran]
  · exact fun _ => came
  · exact fun _ => kept

theorem weaken {enough : Prop} (returns : Returns deep x w) (needs : enough → deep) :
    Returns enough x w :=
  ⟨fun given => returns.came (needs given), returns.kept⟩

theorem pure (stands : w.Stands i) (a : α) : Returns deep (pure a : Act σ α) w :=
  of_run (pure_run a w) rfl (.refl stands.toSound)

theorem fail (stands : w.Stands i) (cause : Failure) : Returns deep (fail cause : Act σ α) w :=
  of_run (fail_run cause w) rfl (.refl stands.toSound)

theorem bind (stands : w.Stands i) (first : Returns deep x w)
    (rest : ∀ a next, next.Stands i → Returns deep (f a) next) : Returns deep (x >>= f) w := by
  obtain ⟨came, kept⟩ := first
  rcases ran : x w with ⟨outcome, next⟩
  rw [ran] at came kept
  match outcome, ran, came, kept with
  | .error i, ran, came, kept =>
    constructor <;> rw [bind_error ran]
    · exact came
    · exact kept
  | .ok a, ran, _, kept =>
    have before := kept rfl
    have tail := rest a next (before.stands stands)
    constructor <;> rw [bind_ok ran]
    · exact tail.came
    · exact fun ended => before.trans (tail.kept ended)

/-- A run that is a run from further along. -/
theorem behind {y : Act σ α} (stands : w.Stands i) (same : x w = y next) (mild : w.Mild next)
    (rest : next.Stands i → Returns deep y next) : Returns deep x w := by
  have kept := mild.kept stands.toSound
  have tail := rest (kept.stands stands)
  constructor <;> rw [same]
  · exact tail.came
  · exact fun ended => kept.trans (tail.kept ended)

theorem got {g : World σ → Act σ β} (stands : w.Stands i) (rest : Returns deep (g w) w) :
    Returns deep (get >>= g) w :=
  behind stands (bind_ok (get_run w)) (.refl w) fun _ => rest

/-- A step that is over at once. -/
theorem mild {a : α} (stands : w.Stands i) (ran : x w = (.ok a, next)) (mild : w.Mild next) :
    Returns deep x w :=
  of_run ran rfl (mild.kept stands.toSound)

theorem mark (stands : w.Stands i) {m : Mark} (apart : m.isPass = false) :
    Returns deep (mark m) w :=
  mild stands (mark_run m w) (.marked w apart)

theorem attempt (returns : Returns deep x w) : Returns deep (attempt x) w := by
  obtain ⟨came, kept⟩ := returns
  rcases ran : x w with ⟨outcome, next⟩
  rw [ran] at came kept
  match outcome, ran, came, kept with
  | .ok a, ran, _, kept => exact of_run (attempt_ok ran) rfl (kept rfl)
  | .error (.failed cause), ran, _, kept => exact of_run (attempt_failed ran) rfl (kept rfl)
  | .error .exhausted, ran, came, _ =>
    constructor <;> rw [attempt_exhausted ran]
    · exact came
    · exact fun ended => nomatch ended

theorem discard (stands : w.Stands i) (returns : Returns deep x w) :
    Returns deep (discard x) w :=
  bind stands returns fun _ _ stands => pure stands _

theorem reporting (stands : w.Stands i) {report : Failure → Mark}
    (apart : ∀ cause, (report cause).isPass = false) (returns : Returns deep x w) :
    Returns deep (reporting report x) w := by
  refine bind stands returns.attempt fun outcome next stands => ?_
  cases outcome with
  | ok => exact pure stands _
  | error cause => exact mark stands (apart cause)

end Returns

namespace Engine

section Loops

variable {call : Call σ} {deep : Prop} {i : Nat} {w : World σ}

theorem deliver_returns (arguments : List Value) (subscriptions : List (Subscription (Reaction σ)))
    (served : ∀ s ∈ subscriptions, call.Serves deep i (s.handler.program arguments))
    (stands : w.Stands i) :
    Returns deep (deliver call arguments subscriptions) w := by
  induction subscriptions generalizing w with
  | nil => exact .pure stands ()
  | cons s rest ih =>
    obtain ⟨first, others⟩ := List.forall_mem_cons.mp served
    refine .bind stands (.mark stands rfl) fun _ next stands => ?_
    refine .bind stands (.discard stands (first next stands)) fun _ last stands => ?_
    exact ih others stands

/-- Only device reports listen besides triggers, and on their own topic. -/
theorem emit_returns (topic : String) (arguments : List Value)
    (triggers : ∀ t id arguments, call.Serves deep i (Trigger.program t id arguments))
    (reports : topic = deviceTopic →
      ∀ arguments, call.Serves deep i (Reaction.reportProgram arguments))
    (stands : w.Stands i) : Returns deep (emit call topic arguments) w := by
  have served : ∀ s ∈ w.bus.subscribers topic,
      call.Serves deep i (s.handler.program arguments) := by
    intro s member
    obtain ⟨known, named⟩ := List.mem_filter.mp member
    have named : s.topic = topic := by simpa using named
    rcases stands.subscriptions s known with ⟨t, id, handler⟩ | ⟨handler, own⟩
    · rw [handler]
      exact triggers t id arguments
    · rw [handler]
      exact reports (named.symm.trans own) arguments
  refine .got stands (.bind stands (.mark stands rfl) fun _ next stands => ?_)
  exact deliver_returns arguments _ served stands

section Triggers

variable (triggers : ∀ t id arguments, call.Serves deep i (Trigger.program t id arguments))
  (stands : w.Stands i)
include triggers stands

/-- On a topic other than that of device reports. -/
theorem emit_triggers (topic : String) (arguments : List Value) (other : topic ≠ deviceTopic) :
    Returns deep (emit call topic arguments) w :=
  emit_returns topic arguments triggers (fun same => absurd same other) stands

theorem setVariable_returns (name : String) (value : Value) (ttl : Option Span) :
    Returns deep (setVariable call name value ttl) w := by
  refine .behind stands (setVariable_run call name value ttl w) (.writing w name value ttl)
    fun stands => ?_
  exact emit_triggers triggers stands _ _ (by decide)

theorem expireVariable_returns (name : String) : Returns deep (expireVariable call name) w := by
  refine .behind stands (expireVariable_run call name w) (.lapsing w name) fun stands => ?_
  unfold publishLapse
  split
  · exact emit_triggers triggers stands _ _ (by decide)
  · exact .pure stands ()

theorem setFeature_returns (device feature : String) (value : Value) :
    Returns deep (setFeature call device feature value) w := by
  refine .got stands ?_
  split
  · exact .fail stands _
  · rename_i d known
    have stored : w.Mild { w with
        devices := Table.put device (d.setAttribute feature value w.clock).1 w.devices } :=
      .of_retains (.of_same rfl rfl rfl rfl rfl) rfl
    refine .behind stands (bind_ok (set_run _ w)) stored fun stands => ?_
    refine .bind stands (.mark stands rfl) fun _ next stands => ?_
    split
    · refine .bind stands (emit_triggers triggers stands _ _ (by decide)) fun _ last stands => ?_
      exact .pure stands _
    · exact .pure stands _

end Triggers

/-! A pass over an idle scenario. -/

theorem allHold_returns (group : List (Predicate σ))
    (served : ∀ p ∈ group, call.Serves deep i p.program) (stands : w.Stands i) :
    Returns deep (allHold call group) w := by
  induction group generalizing w with
  | nil => exact .pure stands true
  | cons p rest ih =>
    obtain ⟨first, others⟩ := List.forall_mem_cons.mp served
    refine .bind stands (first w stands) fun holds next stands => ?_
    cases holds with
    | true => exact ih others stands
    | false => exact .pure stands false

theorem runCallback_returns (description : String) (c : Callback σ) (payload : Option Value)
    (served : call.Serves deep i (c.program payload)) (stands : w.Stands i) :
    Returns deep (runCallback call description c payload) w := by
  refine .bind stands (served w stands).attempt fun outcome next stands => ?_
  cases outcome with
  | ok => exact .pure stands ()
  | error cause => exact .fail stands _

/-- The code of a declared entry returns. -/
def Acts (call : Call σ) (deep : Prop) (i : Nat) : Prop :=
  (∀ c : Condition, call.Serves deep i (Predicate.condition c).program) ∧
    ∀ (d : Deed) (scenario : String) (payload : Option Value),
      call.Serves deep i (d.program scenario payload)

theorem applies_returns {e : Entry σ} (declared : e.Declared) (tally : Tally)
    (acts : Acts call deep i) (stands : w.Stands i) :
    Returns deep (applies call e.group tally) w := by
  unfold applies
  split
  · exact .pure stands _
  · rename_i predicates group
    refine allHold_returns predicates (fun p member => ?_) stands
    obtain ⟨c, rfl⟩ := declared.group predicates group p member
    exact acts.1 c

theorem visit_returns (id : Nat) (description : String) (payload : Option Value) (place : Nat)
    (tally : Tally) (entries : List (Entry σ)) (declared : ∀ e ∈ entries, e.Declared)
    (acts : Acts call deep i) (stands : w.Stands i) :
    Returns deep (visit call id description payload place tally entries) w := by
  induction entries generalizing place tally w with
  | nil => exact .pure stands tally
  | cons e rest ih =>
    obtain ⟨first, others⟩ := List.forall_mem_cons.mp declared
    refine .bind stands (applies_returns first tally acts stands) fun holds next stands => ?_
    cases holds with
    | false => exact ih _ _ others stands
    | true =>
      refine .bind stands (.mark stands rfl) fun _ marked stands => ?_
      obtain ⟨name, d, deed⟩ := first.callback
      have served : call.Serves deep i (e.callback.program payload) := by
        rw [deed]
        exact acts.2 d name payload
      refine .bind stands (runCallback_returns description e.callback payload served stands)
        fun _ last stands => ?_
      exact ih _ _ others stands

theorem runPass_returns {id : Nat} {s : Scenario σ} (payload : Option Value) (sound : w.Sound)
    (found : w.scenarios[id]? = some s) (resting : s.evaluating = false)
    (acts : Acts call deep (Evaluation.begun id w).idle) :
    Returns deep (runPass call id s payload) w := by
  have declared : ∀ e ∈ s.entries, e.Declared := sound.entries s (List.mem_of_getElem? found)
  have visited := visit_returns id s.description payload 0 ⟨0, 0⟩ s.entries declared acts
    ⟨sound.begun found resting, rfl⟩
  obtain ⟨came, kept⟩ := visited
  have passed := Evaluation.runPass_eq call id payload s w
  rcases ran : visit call id s.description payload 0 ⟨0, 0⟩ s.entries (Evaluation.begun id w) with
    ⟨outcome, last⟩
  rw [ran] at came kept passed
  match outcome, came, kept, passed with
  | .ok tally, _, kept, passed =>
    exact .of_run passed rfl ((kept rfl).concluded found resting tally.ran)
  | .error (.failed cause), _, kept, passed =>
    exact .of_run passed rfl ((kept rfl).ended found resting (.refl _) none)
  | .error .exhausted, came, _, passed =>
    constructor <;> rw [passed]
    · exact came
    · exact fun ended => nomatch ended

/-- The code of entries is needed only if there is an idle scenario, and then with one idle
scenario less. -/
theorem assert_returns (id : Nat) (payload : Option Value)
    (acts : ∀ left, left + 1 = i → Acts call deep left) (stands : w.Stands i) :
    Returns deep (assert call id payload) w := by
  cases known : w.scenarios[id]? with
  | none =>
    exact .of_run (Evaluation.assert_missing call id payload known) rfl (.refl stands.toSound)
  | some s =>
    refine .behind stands (bind_ok (Evaluation.scenario_found id known)) (.refl w) fun _ =>
      .got stands ?_
    dsimp only
    split
    · exact .pure stands 0
    split
    · exact .pure stands 0
    split
    · exact .bind stands (.mark stands rfl) fun _ _ stands => .pure stands 0
    · rename_i resting
      have resting : s.evaluating = false := by simpa using resting
      refine runPass_returns payload stands.toSound known resting (acts _ ?_)
      exact (stands.idle_begun known resting).trans stands.idle

/-! Ticks. -/

section Ticks

variable (triggers : ∀ t id arguments, call.Serves deep i (Trigger.program t id arguments))
  (expiries : ∀ name, call.Serves deep i (.perform (.expire name)))

include expiries in
theorem runTimers_returns (batch : List (Timer (Reaction σ)))
    (declared : ∀ x ∈ batch, ∃ name, x.task = .expiry name) (stands : w.Stands i) :
    Returns deep (runTimers call batch) w := by
  induction batch generalizing w with
  | nil => exact .pure stands ()
  | cons x rest ih =>
    obtain ⟨⟨name, task⟩, others⟩ := List.forall_mem_cons.mp declared
    refine .bind stands (.mark stands rfl) fun _ next stands => ?_
    rw [task]
    refine .bind stands (.reporting stands (fun _ => rfl) (expiries name next stands))
      fun _ last stands => ?_
    exact ih others stands

include expiries in
theorem fireTimers_returns (t : Instant) (stands : w.Stands i) :
    Returns deep (fireTimers call t) w := by
  refine .behind stands (fireTimers_run call t w) (.taking w t) fun taken => ?_
  refine runTimers_returns expiries _ (fun x member => ?_) taken
  exact stands.timers x (Agenda.mem_dueTimers.mp member).1

include triggers in
theorem notify_returns (topic : String) (arguments : List Value) (other : topic ≠ deviceTopic)
    (stands : w.Stands i) : Returns deep (notify call topic arguments) w := by
  refine .bind stands (.mark stands rfl) fun _ next stands => ?_
  exact .reporting stands (fun _ => rfl) (emit_triggers triggers stands topic arguments other)

include triggers in
theorem publishSecond_returns (t : Instant) (stands : w.Stands i) :
    Returns deep (publishSecond call t) w := by
  refine .bind stands (notify_returns triggers _ _ (by decide) stands) fun _ next stands => ?_
  split
  · refine .bind stands (notify_returns triggers _ _ (by decide) stands) fun _ last stands => ?_
    split
    · exact notify_returns triggers _ _ (by decide) stands
    · exact .pure stands _
  · exact .pure stands _

include triggers in
theorem notifyAll_returns (t : Instant) (stands : w.Stands i) :
    Returns deep (notifyAll call t) w :=
  .bind stands (publishSecond_returns triggers t stands) fun _ _ stands => .mark stands rfl

include triggers in
theorem runJobs_returns (t : Instant) (jobs : List (Job (Reaction σ)))
    (declared : ∀ j ∈ jobs, ∃ t id, j.task = .trigger t id) (stands : w.Stands i) :
    Returns deep (runJobs call t jobs) w := by
  induction jobs generalizing w with
  | nil => exact .pure stands ()
  | cons j rest ih =>
    obtain ⟨⟨trigger, id, task⟩, others⟩ := List.forall_mem_cons.mp declared
    refine .bind stands (.mark stands rfl) fun _ next stands => ?_
    rw [task]
    refine .bind stands (.reporting stands (fun _ => rfl) (triggers trigger id [] next stands))
      fun _ last stands => ?_
    exact ih others stands

theorem setCurrent_returns (t : Option Instant) (stands : w.Stands i) :
    Returns deep (setCurrent t) w :=
  .mild stands (modify_run _ w) (.of_agenda w { w.agenda with current := t } (List.Subset.refl _)
    fun _ member => .inl member)

include triggers expiries in
theorem runSecond_returns (t : Instant) (stands : w.Stands i) :
    Returns deep (runSecond call t) w := by
  refine .got stands (.bind stands (setCurrent_returns _ stands) fun _ w stands => ?_)
  refine .bind stands (.mark stands rfl) fun _ w stands => ?_
  refine .bind stands (fireTimers_returns expiries t stands) fun _ w stands => ?_
  refine .bind stands (notifyAll_returns triggers t stands) fun _ w stands => ?_
  have due : ∀ j ∈ w.agenda.dueJobs t, ∃ t id, j.task = .trigger t id :=
    fun j member => stands.jobs j (List.mem_filter.mp member).1
  refine .got stands (.bind stands (runJobs_returns triggers t _ due stands) fun _ w stands => ?_)
  exact setCurrent_returns _ stands

include triggers expiries in
theorem evaluateSecond_returns (t : Instant) (stands : w.Stands i) :
    Returns deep (evaluateSecond call t) w :=
  .bind stands (runSecond_returns triggers expiries t stands) fun _ _ stands => .mark stands rfl

include triggers expiries in
theorem runSeconds_returns (t : Instant) (n : Nat) (stands : w.Stands i) :
    Returns deep (runSeconds call t n) w := by
  induction n generalizing t w with
  | zero => exact .pure stands ()
  | succ n ih =>
    refine .bind stands (evaluateSecond_returns triggers expiries t stands) fun _ w stands => ?_
    exact ih (t.addSeconds 1) stands

include triggers expiries in
theorem tick_returns (stands : w.Stands i) : Returns deep (tick call) w := by
  have begun : w.Mild (w.beginning.noting (w.agenda.plan w.clock.truncate).report) := by
    refine (Mild.beginning w).trans ?_
    cases reported : (w.agenda.plan w.clock.truncate).report with
    | none => exact .refl _
    | some m =>
      rcases Agenda.plan_report reported with ⟨_, rfl⟩ | ⟨_, rfl⟩
      · exact .marked _ rfl
      · exact .marked _ rfl
  refine .behind stands (tick_run call w) begun fun stands => ?_
  refine .bind stands (runSeconds_returns triggers expiries _ _ stands) fun _ v stands => ?_
  refine .bind stands (fireTimers_returns expiries _ stands) fun _ v stands => ?_
  exact .bind stands (.mark stands rfl) fun _ _ stands => .pure stands _

end Ticks

end Loops

/-! Programs. -/

theorem interpret_perform {call : Call σ} {deep : Prop} {i : Nat} {w : World σ}
    (stands : w.Stands i) {r : Reply} {q : Request r} (returns : Returns deep (perform call q) w) :
    Returns deep (interpret call (Program.perform q)) w := by
  refine .bind stands returns.attempt fun answer next stands => ?_
  cases answer with
  | ok => exact .pure stands true
  | error cause => exact .fail stands cause

/-- How deep code must be allowed to nest for all built-in code to return: the deeper, the
more scenarios are idle. -/
structure Reaching (call : Call σ) (n : Nat) : Prop where
  triggers : ∀ i t id arguments, call.Serves (3 * i + 1 ≤ n) i (Trigger.program t id arguments)
  reports : ∀ i arguments, call.Serves (3 * i + 2 ≤ n) i (Reaction.reportProgram arguments)
  expiries : ∀ i name, call.Serves (3 * i + 2 ≤ n) i (.perform (.expire name))
  deeds : ∀ i (d : Deed) scenario payload,
    call.Serves (3 * i + 3 ≤ n) i (d.program scenario payload)
  conditions : ∀ i c, call.Serves (1 ≤ n) i (Predicate.condition c).program

section Programs

variable {call : Call σ} {n i : Nat} {w : World σ} (reaching : Reaching call n)
include reaching

/-- Inside a pass fewer scenarios are idle, which leaves room for the code of its entries. -/
theorem Reaching.acts {deep : Prop} {left : Nat} (enough : deep → 3 * left + 3 ≤ n) :
    Acts call deep left := by
  constructor
  · intro c w stands
    exact (reaching.conditions left c w stands).weaken fun given => by
      have bound := enough given
      omega
  · intro d scenario payload w stands
    exact (reaching.deeds left d scenario payload w stands).weaken enough

theorem Reaching.assert (id : Nat) (payload : Option Value) (stands : w.Stands i) :
    Returns (3 * i + 1 ≤ n + 1) (Engine.assert call id payload) w :=
  assert_returns id payload (fun left less => reaching.acts fun given => by omega) stands

theorem Reaching.trigger (t : Trigger) (id : Nat) (arguments : List Value) (stands : w.Stands i) :
    Returns (3 * i + 1 ≤ n + 1) (interpret call (t.program id arguments)) w := by
  have asserted : ∀ payload, Returns (3 * i + 1 ≤ n + 1)
      (interpret call (Program.perform (.assert id payload))) w :=
    fun payload => interpret_perform stands (reaching.assert id payload stands)
  cases t with
  | every | event => exact asserted _
  | «at» time =>
    refine .got stands ?_
    dsimp only
    split
    · exact .fail stands _
    split
    · exact asserted _
    · exact .pure stands true
  | variableChanges | deviceChanges =>
    cases arguments with
    | nil => exact .pure stands true
    | cons change rest =>
      change Returns _ (interpret call (ite _ _ _ : Program σ)) w
      split
      · exact asserted _
      · exact .pure stands true

theorem Reaching.triggers_within {deep : Prop} (enough : deep → 3 * i + 1 ≤ n) :
    ∀ t id arguments, call.Serves deep i (Trigger.program t id arguments) :=
  fun t id arguments w stands => (reaching.triggers i t id arguments w stands).weaken enough

theorem Reaching.report (arguments : List Value) (stands : w.Stands i) :
    Returns (3 * i + 2 ≤ n + 1) (interpret call (Reaction.reportProgram arguments)) w := by
  unfold Reaction.reportProgram
  split
  · exact .fail stands _
  split
  · refine interpret_perform stands (setFeature_returns ?_ stands _ _ _)
    exact reaching.triggers_within fun given => by omega
  · exact .fail stands _

theorem Reaching.expiry (name : String) (stands : w.Stands i) :
    Returns (3 * i + 2 ≤ n + 1) (interpret call (.perform (.expire name))) w := by
  refine interpret_perform stands (expireVariable_returns ?_ stands name)
  exact reaching.triggers_within fun given => by omega

/-- What a deed emits may be a device report, which takes a level more than a trigger. -/
theorem Reaching.deed (d : Deed) (scenario : String) (payload : Option Value)
    (stands : w.Stands i) :
    Returns (3 * i + 3 ≤ n + 1) (interpret call (d.program scenario payload)) w := by
  have triggers : ∀ t id arguments,
      call.Serves (3 * i + 3 ≤ n + 1) i (Trigger.program t id arguments) :=
    reaching.triggers_within fun given => by omega
  have setting : ∀ {w : World σ}, w.Stands i → Returns (3 * i + 3 ≤ n + 1)
      (interpret call (Deed.program scenario ⟨none, none, d.set⟩ payload)) w := by
    intro w stands
    cases d.set with
    | none => exact .pure stands true
    | some set => exact interpret_perform stands (setVariable_returns triggers stands _ _ _)
  have emitting : ∀ {w : World σ}, w.Stands i → Returns (3 * i + 3 ≤ n + 1)
      (interpret call (Deed.program scenario ⟨none, d.emit, d.set⟩ payload)) w := by
    intro w stands
    cases d.emit with
    | none => exact setting stands
    | some topic =>
      have reports : ∀ arguments,
          call.Serves (3 * i + 3 ≤ n + 1) i (Reaction.reportProgram arguments) :=
        fun arguments w stands => (reaching.reports i arguments w stands).weaken (by omega)
      refine .bind stands (emit_returns topic _ triggers (fun _ => reports) stands).attempt
        fun answer next stands => ?_
      cases answer with
      | ok => exact setting stands
      | error cause => exact .fail stands cause
  obtain ⟨log, emit, set⟩ := d
  cases log with
  | none => exact emitting stands
  | some message => exact .bind stands (.mark stands rfl) fun _ _ stands => emitting stands

end Programs

/-- Induction on the depth: what code runs nests one level deeper than the code itself. -/
theorem exec_reaching (n : Nat) : Reaching (exec n : Call σ) n := by
  induction n with
  | zero =>
    have none : ∀ {deep : Prop} {i : Nat} {p : Program σ}, ¬ deep →
        Call.Serves (exec 0) deep i p :=
      fun shallow _ _ => ⟨fun deep => absurd deep shallow, fun ended => nomatch ended⟩
    exact ⟨fun _ _ _ _ => none (by omega), fun _ _ => none (by omega),
      fun _ _ => none (by omega), fun _ _ _ _ => none (by omega), fun _ _ => none (by omega)⟩
  | succ n reaching =>
    refine ⟨?_, ?_, ?_, ?_, ?_⟩
    · exact fun i t id arguments w stands => reaching.trigger t id arguments stands
    · exact fun i arguments w stands => reaching.report arguments stands
    · exact fun i name w stands => reaching.expiry name stands
    · exact fun i d scenario payload w stands => reaching.deed d scenario payload stands
    · exact fun i c w stands => .got stands (.pure stands _)

end Engine

/-- Requests that declare nothing: no scenario, no trigger and no constraint. -/
def Request.isService : {r : Reply} → Request r → Bool
  | _, .createScenario _ _ | _, .openTriggers _ | _, .openBlock _ | _, .discardBlock _ => false
  | _, .invokeTrigger _ _ _ | _, .invokeConstraint _ _ _ => false
  | _, _ => true

namespace Engine

section Requests

variable {deep : Prop} {i : Nat} {w : World σ}

theorem registry_returns (stands : w.Stands i) : Returns deep registry w := by
  refine .got stands ?_
  split
  · exact .pure stands _
  · exact .fail stands _

theorem scenario_returns (id : Nat) (stands : w.Stands i) : Returns deep (scenario id) w := by
  refine .got stands ?_
  split
  · exact .pure stands _
  · exact .fail stands _

/-- Scenarios are changed in nothing that passes depend on. -/
theorem mapIdx_mild (w : World σ) {change : Nat → Scenario σ → Scenario σ}
    (same : ∀ n s, (change n s).kernel = s.kernel) (registry : Option (List Nat)) :
    w.Mild { w with scenarios := w.scenarios.mapIdx change, registry } :=
  .of_retains (.of_same rfl rfl (World.mapIdx_map _ _ same) rfl rfl) rfl

theorem refreshing_mild (w : World σ) (ids : List Nat) : w.Mild (w.refreshing ids) := by
  apply mapIdx_mild
  intro n s
  split
  · rfl
  · rfl

theorem refresh_returns (stands : w.Stands i) : Returns deep refresh w := by
  refine .bind stands (registry_returns stands) fun ids next stands => ?_
  exact .mild stands (modify_run _ next) (refreshing_mild next ids)

theorem setTestMode_returns (id : Nat) (enabled : Bool) (stands : w.Stands i) :
    Returns deep (setTestMode id enabled) w := by
  refine .bind stands (.discard stands (registry_returns stands)) fun _ _ stands => ?_
  refine .bind stands (.discard stands (scenario_returns id stands)) fun _ w stands => ?_
  have changed : w.Mild (w.modifyScenario id fun s => { s with testMode := enabled }) :=
    .modifyScenario w id fun _ => rfl
  refine .bind stands (.mild stands (modifyScenario_run _ _ w) changed) fun _ _ stands => ?_
  exact refresh_returns stands

theorem clearScenarios_returns (stands : w.Stands i) : Returns deep clearScenarios w := by
  refine .bind stands (registry_returns stands) fun ids next stands => ?_
  refine .mild stands (modify_run _ next) (mapIdx_mild next (fun n s => ?_) (some []))
  split
  · rfl
  · rfl

/-- Every request that declares nothing returns if code may nest deep enough. -/
theorem perform_returns {call : Call σ} {n : Nat} (reaching : Reaching call n) {r : Reply}
    {q : Request r} (service : q.isService = true) (stands : w.Stands i) :
    Returns (3 * i + 2 ≤ n) (perform call q) w := by
  have triggers : ∀ t id arguments,
      call.Serves (3 * i + 2 ≤ n) i (Trigger.program t id arguments) :=
    reaching.triggers_within fun given => by omega
  cases q with
  | createScenario | openTriggers | openBlock | discardBlock | invokeTrigger | invokeConstraint =>
    cases service
  | registerDevice d =>
    exact .bind stands
      (.mild stands (modify_run _ w) (.of_retains (.of_same rfl rfl rfl rfl rfl) rfl))
      fun _ _ stands => .mark stands rfl
  | setClock | dropRuntime =>
    exact .mild stands (modify_run _ w) (.of_retains (.of_same rfl rfl rfl rfl rfl) rfl)
  | setMaxCatchUp n =>
    exact .mild stands (modify_run _ w) (.of_agenda w { w.agenda with maxCatchUp := n }
      (List.Subset.refl _) fun _ member => .inl member)
  | unsubscribe id => exact .mild stands (unsubscribe_run id w) (.unsubscribing w id)
  | remove id =>
    have removed : w.Mild { w with agenda := w.agenda.remove id } :=
      .of_agenda w (w.agenda.remove id) (List.filter_subset_self _) fun _ member => .inl member
    exact .mild stands (remove_run id w) (removed.trans (.marked _ rfl))
  | cancel id => exact .mild stands (cancel_run id w) (.cancelling w id)
  | setTestMode id enabled => exact setTestMode_returns id enabled stands
  | clearScenarios => exact clearScenarios_returns stands
  | emit topic arguments =>
    exact emit_returns topic arguments triggers (fun _ arguments => reaching.reports i arguments)
      stands
  | set name value ttl => exact setVariable_returns triggers stands name value ttl
  | expire name => exact expireVariable_returns triggers stands name
  | setFeature device feature value => exact setFeature_returns triggers stands device feature value
  | assert id payload =>
    exact assert_returns id payload (fun left less => reaching.acts fun given => by omega) stands
  | tick => exact tick_returns triggers (reaching.expiries i) stands

end Requests

end Engine

end Reflex
