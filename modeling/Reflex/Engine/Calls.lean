import Reflex.Engine.Registry
import Reflex.Engine.Ticking

/-! Calls of vocabulary names, and building a runtime from components. -/
namespace Reflex.Engine

variable {σ : Type} (call : Call σ)

open Act

/-- The trigger names open to a scenario. -/
def openTriggers (id : Nat) : Act σ (List String) := do
  discard registry
  discard (scenario id)
  return (← ofInvalid (← get).triggerVocabulary).names

/-- Puts a trigger where it listens. -/
def installTrigger (id : Nat) (t : Trigger) : Act σ Unit :=
  match t.source with
  | .inl topic => discard <| subscribe topic (.trigger t id)
  | .inr s => discard <| every s (.trigger t id)

def invokeTrigger (id : Nat) (name : String) (arguments : List Value) : Act σ Unit := do
  let names ← ofInvalid (← get).triggerVocabulary
  match ← ofInvalid (names.resolve .trigger name) with
  | .builtin k => do installTrigger id (← ofInvalid (k.read arguments))
  | .custom make => discard <| call (make id arguments)

/-- Adds a named constraint to an open block. -/
def invokeConstraint (id : Nat) (name : String) (arguments : List Value) : Act σ Unit := do
  let names ← ofInvalid (← get).constraintVocabulary
  match ← ofInvalid (names.resolve .constraint name) with
  | .builtin k => do pushPredicate id (.condition (← ofInvalid (k.read arguments)))
  | .custom make => discard <| call (make id arguments)

/-- Publishes device changes on the bus and listens for reports. -/
def bindDevices : Act σ Unit := do
  modify fun w => { w with devicesBound := true }
  discard <| subscribe deviceTopic .deviceReport

def runSetup : Setup σ → Act σ Unit
  | .nothing => pure ()
  | .devices => bindDevices
  | .custom run => discard <| call run

def runSetups : List (Component σ) → Act σ Unit
  | [] => pure ()
  | c :: rest => do
    runSetup call c.setup
    runSetups rest

/-- Sets the components up in order; the runtime exists when all succeeded. -/
def build (components : List (Component σ)) : Act σ Unit := do
  runSetups call components
  modify fun w => { w with components, registry := some [] }

end Reflex.Engine
