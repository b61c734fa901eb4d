import Reflex.World

/-! Steps of the engine. A step reads and changes the world and may fail; what it did
before failing stays done. Operations that run user code take the way to run it as a
parameter, so each can be studied with any code behind it. -/
namespace Reflex

/-- Why a step stopped: a failure that callers see, or nesting deeper than allowed. -/
inductive Interrupt where
  | failed (cause : Failure)
  | exhausted

abbrev Act (σ : Type) := ExceptT Interrupt (StateM (World σ))

/-- How user code is run. -/
abbrev Call (σ : Type) := Program σ → Act σ Bool

namespace Act

variable {σ α : Type}

def fail (cause : Failure) : Act σ α := throw (.failed cause)

def ofInvalid : Except Invalid α → Act σ α
  | .ok a => pure a
  | .error cause => fail (.invalid cause)

def mark (m : Mark) : Act σ Unit := modify fun w => { w with journal := m :: w.journal }

/-- Turns a failure into a value. Running out of depth is not caught. -/
def attempt (x : Act σ α) : Act σ (Except Failure α) := fun w =>
  match x w with
  | (.ok a, w) => (.ok (.ok a), w)
  | (.error (.failed cause), w) => (.ok (.error cause), w)
  | (.error .exhausted, w) => (.error .exhausted, w)

/-- Runs a step whose failure is only reported. -/
def reporting (report : Failure → Mark) (x : Act σ α) : Act σ Unit := do
  match ← attempt x with
  | .ok _ => pure ()
  | .error cause => mark (report cause)

/-- A registered scenario's record. -/
def scenario (id : Nat) : Act σ (Scenario σ) := do
  match (← get).scenarios[id]? with
  | some s => pure s
  | none => fail (.missing "scenario" (toString id))

def modifyScenario (id : Nat) (change : Scenario σ → Scenario σ) : Act σ Unit :=
  modify fun w => w.modifyScenario id change

/-- The registered scenarios, while there is a runtime. -/
def registry : Act σ (List Nat) := do
  match (← get).registry with
  | some ids => pure ids
  | none => fail .dropped

end Act

end Reflex
