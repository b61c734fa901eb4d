import Reflex.Engine.Run
import Reflex.Proofs.Laws
import Reflex.Proofs.Moves

/-! How deep code may nest decides only whether a run is cut short: a run that came to its
end goes the same way when code may nest deeper. -/
namespace Reflex
open Act

variable {σ α β : Type}

/-- The second step does what the first does wherever that one comes to its end. -/
def Act.Below (x y : Act σ α) : Prop := ∀ w, ended (x w).1 = true → y w = x w

namespace Act.Below

variable {x y z : Act σ α} {f g : α → Act σ β}

theorem refl (x : Act σ α) : Below x x := fun _ _ => rfl

theorem trans (first : Below x y) (second : Below y z) : Below x z := by
  intro w came
  have same := first w came
  rw [← same] at came
  exact (second w came).trans same

theorem bind (first : Below x y) (rest : ∀ a, Below (f a) (g a)) : Below (x >>= f) (y >>= g) := by
  intro w came
  rcases ran : x w with ⟨outcome, next⟩
  have same := first w
  rw [ran] at same
  cases outcome with
  | ok a =>
    rw [bind_ok ran] at came ⊢
    rw [bind_ok (same rfl)]
    exact rest a next came
  | error i =>
    rw [bind_error ran] at came ⊢
    exact bind_error (same came)

theorem attempt (below : Below x y) : Below (attempt x) (attempt y) := by
  intro w came
  rcases ran : x w with ⟨outcome, next⟩
  have same := below w
  rw [ran] at same
  match outcome, ran, same with
  | .ok a, ran, same => rw [attempt_ok ran, attempt_ok (same rfl)]
  | .error (.failed cause), ran, same => rw [attempt_failed ran, attempt_failed (same rfl)]
  | .error .exhausted, ran, _ =>
    rw [attempt_exhausted ran] at came
    cases came

theorem discard (below : Below x y) : Below (discard x : Act σ PUnit) (discard y) :=
  bind below fun _ => refl _

theorem reporting (report : Failure → Mark) (below : Below x y) :
    Below (reporting report x) (reporting report y) :=
  bind (attempt below) fun _ => refl _

end Act.Below

namespace Engine

section Operations

variable {call call' : Call σ} (below : ∀ p, Below (call p) (call' p))
include below

/-! Publishing and writing. -/

theorem deliver_below (arguments : List Value) (subscriptions : List (Subscription (Reaction σ))) :
    Below (deliver call arguments subscriptions) (deliver call' arguments subscriptions) := by
  induction subscriptions with
  | nil => exact .refl _
  | cons s rest ih => exact .bind (.refl _) fun _ => .bind (.discard (below _)) fun _ => ih

theorem emit_below (topic : String) (arguments : List Value) :
    Below (emit call topic arguments) (emit call' topic arguments) :=
  .bind (.refl _) fun _ => .bind (.refl _) fun _ => deliver_below below arguments _

theorem setVariable_below (name : String) (value : Value) (ttl : Option Span) :
    Below (setVariable call name value ttl) (setVariable call' name value ttl) := by
  intro w came
  rw [setVariable_run] at came ⊢
  rw [setVariable_run]
  exact emit_below below _ _ _ came

theorem expireVariable_below (name : String) :
    Below (expireVariable call name) (expireVariable call' name) := by
  intro w came
  have published : Below (publishLapse call name w) (publishLapse call' name w) := by
    unfold publishLapse
    split
    · exact emit_below below _ _
    · exact .refl _
  rw [expireVariable_run] at came ⊢
  rw [expireVariable_run]
  exact published _ came

theorem setFeature_below (device feature : String) (value : Value) :
    Below (setFeature call device feature value) (setFeature call' device feature value) := by
  refine .bind (.refl _) fun w => ?_
  split
  · exact .refl _
  · refine .bind (.refl _) fun _ => .bind (.refl _) fun _ => ?_
    split
    · exact .bind (emit_below below _ _) fun _ => .refl _
    · exact .refl _

/-! Passes. -/

theorem allHold_below (group : List (Predicate σ)) :
    Below (allHold call group) (allHold call' group) := by
  induction group with
  | nil => exact .refl _
  | cons p rest ih =>
    refine .bind (below _) fun holds => ?_
    cases holds with
    | true => exact ih
    | false => exact .refl _

theorem applies_below (group : Option (List (Predicate σ))) (tally : Tally) :
    Below (applies call group tally) (applies call' group tally) := by
  cases group with
  | none => exact .refl _
  | some predicates => exact allHold_below below predicates

theorem runCallback_below (description : String) (c : Callback σ) (payload : Option Value) :
    Below (runCallback call description c payload) (runCallback call' description c payload) :=
  .bind (.attempt (below _)) fun _ => .refl _

theorem visit_below (id : Nat) (description : String) (payload : Option Value) (place : Nat)
    (tally : Tally) (entries : List (Entry σ)) :
    Below (visit call id description payload place tally entries)
      (visit call' id description payload place tally entries) := by
  induction entries generalizing place tally with
  | nil => exact .refl _
  | cons e rest ih =>
    refine .bind (applies_below below e.group tally) fun holds => ?_
    cases holds with
    | true =>
      refine .bind (.refl _) fun _ => ?_
      exact .bind (runCallback_below below description e.callback payload) fun _ => ih _ _
    | false => exact ih _ _

theorem runPass_below (id : Nat) (s : Scenario σ) (payload : Option Value) :
    Below (runPass call id s payload) (runPass call' id s payload) := by
  refine .bind (.refl _) fun _ => .bind (.refl _) fun _ => ?_
  exact .bind (.attempt (visit_below below id s.description payload 0 ⟨0, 0⟩ s.entries))
    fun _ => .refl _

theorem assert_below (id : Nat) (payload : Option Value) :
    Below (assert call id payload) (assert call' id payload) := by
  refine .bind (.refl _) fun s => .bind (.refl _) fun w => ?_
  dsimp only
  split
  · exact .refl _
  split
  · exact .refl _
  split
  · exact .refl _
  · exact runPass_below below id s payload

/-! Ticks. -/

theorem runTimers_below (batch : List (Timer (Reaction σ))) :
    Below (runTimers call batch) (runTimers call' batch) := by
  induction batch with
  | nil => exact .refl _
  | cons x rest ih => exact .bind (.refl _) fun _ => .bind (.reporting _ (below _)) fun _ => ih

theorem fireTimers_below (t : Instant) : Below (fireTimers call t) (fireTimers call' t) := by
  intro w came
  exact runTimers_below below _ (w.taking t) came

theorem notify_below (topic : String) (arguments : List Value) :
    Below (notify call topic arguments) (notify call' topic arguments) :=
  .bind (.refl _) fun _ => .reporting _ (emit_below below topic arguments)

theorem publishSecond_below (t : Instant) :
    Below (publishSecond call t) (publishSecond call' t) := by
  refine .bind (notify_below below _ _) fun _ => ?_
  split
  · refine .bind (notify_below below _ _) fun _ => ?_
    split
    · exact notify_below below _ _
    · exact .refl _
  · exact .refl _

theorem notifyAll_below (t : Instant) : Below (notifyAll call t) (notifyAll call' t) :=
  .bind (publishSecond_below below t) fun _ => .refl _

theorem runJobs_below (t : Instant) (jobs : List (Job (Reaction σ))) :
    Below (runJobs call t jobs) (runJobs call' t jobs) := by
  induction jobs with
  | nil => exact .refl _
  | cons j rest ih => exact .bind (.refl _) fun _ => .bind (.reporting _ (below _)) fun _ => ih

theorem runSecond_below (t : Instant) : Below (runSecond call t) (runSecond call' t) := by
  refine .bind (.refl _) fun _ => .bind (.refl _) fun _ => .bind (.refl _) fun _ => ?_
  refine .bind (fireTimers_below below t) fun _ => .bind (notifyAll_below below t) fun _ => ?_
  exact .bind (.refl _) fun _ => .bind (runJobs_below below t _) fun _ => .refl _

theorem evaluateSecond_below (t : Instant) :
    Below (evaluateSecond call t) (evaluateSecond call' t) :=
  .bind (runSecond_below below t) fun _ => .refl _

theorem runSeconds_below (t : Instant) (n : Nat) :
    Below (runSeconds call t n) (runSeconds call' t n) := by
  induction n generalizing t with
  | zero => exact .refl _
  | succ n ih => exact .bind (evaluateSecond_below below t) fun _ => ih _

theorem tick_below : Below (tick call) (tick call') := by
  refine .bind (.refl _) fun _ => .bind (.refl _) fun _ => .bind (.refl _) fun _ => ?_
  exact .bind (runSeconds_below below _ _) fun _ => .bind (fireTimers_below below _) fun _ =>
    .refl _

/-! Calls by name, and programs. -/

theorem invokeTrigger_below (id : Nat) (name : String) (arguments : List Value) :
    Below (invokeTrigger call id name arguments) (invokeTrigger call' id name arguments) := by
  refine .bind (.refl _) fun _ => .bind (.refl _) fun _ => .bind (.refl _) fun factory => ?_
  cases factory with
  | builtin k => exact .refl _
  | custom make => exact .discard (below _)

theorem invokeConstraint_below (id : Nat) (name : String) (arguments : List Value) :
    Below (invokeConstraint call id name arguments) (invokeConstraint call' id name arguments) := by
  refine .bind (.refl _) fun _ => .bind (.refl _) fun _ => .bind (.refl _) fun factory => ?_
  cases factory with
  | builtin k => exact .refl _
  | custom make => exact .discard (below _)

theorem perform_below {r : Reply} (q : Request r) : Below (perform call q) (perform call' q) := by
  cases q with
  | emit topic arguments => exact emit_below below topic arguments
  | set name value ttl => exact setVariable_below below name value ttl
  | expire name => exact expireVariable_below below name
  | setFeature device feature value => exact setFeature_below below device feature value
  | assert scenario payload => exact assert_below below scenario payload
  | tick => exact tick_below below
  | invokeTrigger scenario name arguments => exact invokeTrigger_below below scenario name arguments
  | invokeConstraint block name arguments => exact invokeConstraint_below below block name arguments
  | _ => exact .refl _

theorem interpret_below (p : Program σ) : Below (interpret call p) (interpret call' p) := by
  induction p with
  | done | fail => exact .refl _
  | look _ ih | load _ ih => exact .bind (.refl _) fun _ => ih _
  | save _ _ ih | note _ _ ih => exact .bind (.refl _) fun _ => ih
  | request q _ ih => exact .bind (.attempt (perform_below below q)) fun answer => ih answer
  | subscribe _ _ _ _ ih | every _ _ _ _ ih | once _ _ _ _ ih =>
    exact .bind (.refl _) fun id => ih id
  | check _ _ _ _ ih | fallback _ _ _ _ ih | close _ _ _ _ ih =>
    exact .bind (.refl _) fun _ => ih

end Operations

theorem exec_below (n : Nat) (p : Program σ) : Below (exec n p) (exec (n + 1) p) := by
  induction n generalizing p with
  | zero =>
    intro w came
    cases came
  | succ n ih => exact interpret_below ih p

theorem exec_mono {n m : Nat} (le : n ≤ m) (p : Program σ) : Below (exec n p) (exec m p) := by
  induction le with
  | refl => exact .refl _
  | step _ ih => exact ih.trans (exec_below _ p)

/-- A run that came to its end is the same with any greater depth. -/
theorem run_mono {n m : Nat} (le : n ≤ m) {p : Program σ} {w next : World σ}
    {outcome : Except Interrupt Bool} (ran : Engine.run n p w = (outcome, next))
    (came : ended outcome = true) : Engine.run m p w = (outcome, next) := by
  have same := exec_mono le p w
  change ended (Engine.run n p w).1 = true → Engine.run m p w = Engine.run n p w at same
  rw [ran] at same
  exact same came

end Engine

end Reflex
