import Reflex.Proofs.Changes

/-! What every run of code does to the world, as a relation between the world before and
the world after. A relation holds of every run when it composes and holds of each
operation that touches time, timers or variables; the other operations are settled here
once. Code runs inside operations, so all operations are taken together, by induction on
the depth of nesting. -/
namespace Reflex
open Act Engine Evaluation

variable {σ α β : Type}

/-- The world before a run, whether the run came to its end, and the world after. A run
that is cut short stands for any moment inside a longer one. -/
abbrev Link (σ : Type) := World σ → Bool → World σ → Prop

def Interrupt.isFailure : Interrupt → Bool
  | failed _ => true
  | exhausted => false

/-- Whether a run came to its end, with an answer or a failure. -/
def ended : Except Interrupt α → Bool
  | .ok _ => true
  | .error i => i.isFailure

structure Link.Chained (R : Link σ) : Prop where
  refl (w : World σ) : R w true w
  cut {w w' : World σ} : R w true w' → R w false w'
  trans {w w' last : World σ} {e : Bool} : R w true w' → R w' e last → R w e last

/-- What follows from a relation for each operation that has no bearing on time, timers or
variables. A pass does what its visits do, once it has begun and before it is closed. -/
structure Link.Law (R : Link σ) (rule : Rule) : Prop extends R.Chained where
  change {w w' : World σ} : Change rule w w' → R w true w'
  pass {w last : World σ} {id : Nat} {s : Scenario σ} (outcome : Except Interrupt Nat) :
    w.Admits id s → R (begun id w) (ended outcome) last →
    R w (ended outcome) (closed id outcome last)

/-- A step from a world keeps the world's code to the rule and does what the link says. -/
structure Upheld (rule : Rule) (R : Link σ) (x : Act σ α) (w : World σ) : Prop where
  lodges : (x w).2.Lodges rule
  link : R w (ended (x w).1) (x w).2

namespace Upheld

variable {rule : Rule} {R : Link σ} {x : Act σ α} {f : α → Act σ β} {w next : World σ}

theorem of_run {r : Except Interrupt α} (ran : x w = (r, next)) (lodges : next.Lodges rule)
    (link : R w (ended r) next) : Upheld rule R x w := by
  constructor <;> simp only [ran]
  · exact lodges
  · exact link

theorem after_run {r : Except Interrupt α} (ran : x w = (r, next)) (upheld : Upheld rule R x w) :
    next.Lodges rule ∧ R w (ended r) next := by
  have lodges := upheld.lodges
  have link := upheld.link
  rw [ran] at lodges link
  exact ⟨lodges, link⟩

theorem bind (chained : R.Chained) (first : Upheld rule R x w)
    (rest : ∀ a next, x w = (.ok a, next) → next.Lodges rule → Upheld rule R (f a) next) :
    Upheld rule R (x >>= f) w := by
  rcases ran : x w with ⟨outcome, next⟩
  obtain ⟨lodges, link⟩ := first.after_run ran
  match outcome, ran, link with
  | .error i, ran, link => exact of_run (bind_error ran) lodges link
  | .ok a, ran, link =>
    have tail := rest a next ran lodges
    constructor <;> rw [bind_ok ran]
    · exact tail.lodges
    · exact chained.trans link tail.link

/-- Composition with a step whose result is known. -/
theorem step (chained : R.Chained) {a : α} (ran : x w = (.ok a, next)) (link : R w true next)
    (rest : Upheld rule R (f a) next) : Upheld rule R (x >>= f) w := by
  constructor <;> rw [bind_ok ran]
  · exact rest.lodges
  · exact chained.trans link rest.link

/-- Composition with a step that reads the world. -/
theorem read {a : α} (ran : x w = (.ok a, w)) (rest : Upheld rule R (f a) w) :
    Upheld rule R (x >>= f) w := by
  constructor <;> rw [bind_ok ran]
  · exact rest.lodges
  · exact rest.link

/-- A step that reads the world, and may fail or stop there. -/
theorem still (chained : R.Chained) (unchanged : (x w).2 = w) (lodges : w.Lodges rule) :
    Upheld rule R x w := by
  constructor <;> rw [unchanged]
  · exact lodges
  · cases ended (x w).1 with
    | true => exact chained.refl w
    | false => exact chained.cut (chained.refl w)

theorem pure (chained : R.Chained) (a : α) (lodges : w.Lodges rule) :
    Upheld rule R (pure a : Act σ α) w :=
  still chained rfl lodges

theorem fail (chained : R.Chained) (cause : Failure) (lodges : w.Lodges rule) :
    Upheld rule R (fail cause : Act σ α) w :=
  still chained rfl lodges

theorem attempt (upheld : Upheld rule R x w) :
    Upheld rule R (attempt x) w := by
  rcases ran : x w with ⟨outcome, next⟩
  obtain ⟨lodges, link⟩ := upheld.after_run ran
  match outcome, ran, link with
  | .ok a, ran, link => exact of_run (attempt_ok ran) lodges link
  | .error (.failed cause), ran, link => exact of_run (attempt_failed ran) lodges link
  | .error .exhausted, ran, link => exact of_run (attempt_exhausted ran) lodges link

/-- A step that changes the world and succeeds. -/
theorem of_change (law : R.Law rule) {a : α} (ran : x w = (.ok a, next))
    (change : Change rule w next) (lodges : w.Lodges rule) : Upheld rule R x w :=
  of_run ran (change.lodges lodges) (law.change change)

theorem discard (chained : R.Chained) (upheld : Upheld rule R x w) :
    Upheld rule R (discard x) w :=
  bind chained upheld fun _ _ _ lodges => pure chained _ lodges

theorem bind_still (chained : R.Chained) (unchanged : (x w).2 = w) (lodges : w.Lodges rule)
    (rest : ∀ a, x w = (.ok a, w) → Upheld rule R (f a) w) : Upheld rule R (x >>= f) w := by
  refine bind chained (still chained unchanged lodges) fun a next ran _ => ?_
  obtain rfl : next = w := by rw [ran] at unchanged; exact unchanged
  exact rest a ran

end Upheld

end Reflex
