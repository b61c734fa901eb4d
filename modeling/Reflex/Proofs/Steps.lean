import Reflex.Engine.Act

/-! How steps compose. A step that follows another starts in the world that the other
left, unless that one stopped. -/
namespace Reflex

variable {σ α β : Type}

/-- The world with one more mark. -/
def World.marked (w : World σ) (m : Mark) : World σ := { w with journal := m :: w.journal }

namespace Act

@[simp] theorem pure_run (a : α) (w : World σ) : (pure a : Act σ α) w = (.ok a, w) := rfl

@[simp] theorem get_run (w : World σ) : (get : Act σ (World σ)) w = (.ok w, w) := rfl

@[simp] theorem set_run (next w : World σ) : (set next : Act σ PUnit) w = (.ok ⟨⟩, next) := rfl

@[simp] theorem modify_run (f : World σ → World σ) (w : World σ) :
    (modify f : Act σ PUnit) w = (.ok ⟨⟩, f w) := rfl

@[simp] theorem mark_run (m : Mark) (w : World σ) : mark m w = (.ok (), w.marked m) := rfl

@[simp] theorem modifyScenario_run (id : Nat) (change : Scenario σ → Scenario σ) (w : World σ) :
    modifyScenario id change w = (.ok (), w.modifyScenario id change) := rfl

@[simp] theorem fail_run (cause : Failure) (w : World σ) :
    (fail cause : Act σ α) w = (.error (.failed cause), w) := rfl

theorem bind_run (x : Act σ α) (f : α → Act σ β) (w : World σ) :
    (x >>= f) w = match x w with
      | (.ok a, w') => f a w'
      | (.error i, w') => (.error i, w') := by
  change (ExceptT.bind x f) w = _
  simp only [ExceptT.bind, ExceptT.mk]
  change (StateT.bind x (ExceptT.bindCont f)) w = _
  simp only [StateT.bind]
  rcases x w with ⟨outcome, next⟩
  cases outcome <;> rfl

theorem bind_ok {x : Act σ α} {f : α → Act σ β} {a : α} {w next : World σ}
    (ran : x w = (.ok a, next)) : (x >>= f) w = f a next := by
  rw [bind_run, ran]

theorem bind_error {x : Act σ α} {f : α → Act σ β} {i : Interrupt} {w next : World σ}
    (stopped : x w = (.error i, next)) : (x >>= f) w = (.error i, next) := by
  rw [bind_run, stopped]

theorem map_run (x : Act σ α) (f : α → β) (w : World σ) :
    (do return f (← x) : Act σ β) w = ((x w).1.map f, (x w).2) := by
  rw [bind_run]
  rcases x w with ⟨outcome, next⟩
  cases outcome <;> rfl

theorem of_bind_ok {x : Act σ α} {f : α → Act σ β} {b : β} {w last : World σ}
    (ran : (x >>= f) w = (.ok b, last)) :
    ∃ a next, x w = (.ok a, next) ∧ f a next = (.ok b, last) := by
  rcases first : x w with ⟨outcome, next⟩
  cases outcome with
  | ok a => exact ⟨a, next, rfl, (bind_ok first).symm.trans ran⟩
  | error i =>
    rw [bind_error first] at ran
    cases ran

theorem attempt_ok {x : Act σ α} {a : α} {w next : World σ} (ran : x w = (.ok a, next)) :
    attempt x w = (.ok (.ok a), next) := by
  simp only [attempt, ran]

theorem attempt_failed {x : Act σ α} {cause : Failure} {w next : World σ}
    (failed : x w = (.error (.failed cause), next)) :
    attempt x w = (.ok (.error cause), next) := by
  simp only [attempt, failed]

theorem attempt_exhausted {x : Act σ α} {w next : World σ}
    (stopped : x w = (.error .exhausted, next)) :
    attempt x w = (.error .exhausted, next) := by
  simp only [attempt, stopped]

end Act

end Reflex
