import Reflex.World

/-! The components that come with the engine. -/
namespace Reflex.Component

variable {σ : Type}

def triggersOf (kinds : List TriggerKind) : Vocabulary (TriggerFactory σ) :=
  .ofList (kinds.map fun k => (k.name, .builtin k))

def constraintsOf (kinds : List ConditionKind) : Vocabulary (ConstraintFactory σ) :=
  .ofList (kinds.map fun k => (k.name, .builtin k))

/-- Schedules, times of day and days. -/
def timer : Component σ where
  name := "timer"
  setup := .nothing
  triggers := triggersOf [.every, .at]
  constraints := constraintsOf [.dayIs, .timeBetween]

def store : Component σ where
  name := "variable"
  setup := .nothing
  triggers := triggersOf [.variableChanges]
  constraints := constraintsOf [.variableIs, .variableDefined]

def event : Component σ where
  name := "event"
  setup := .nothing
  triggers := triggersOf [.event]
  constraints := constraintsOf []

/-- Device features, published on the bus and reported through it. -/
def devices : Component σ where
  name := "device"
  setup := .devices
  triggers := triggersOf [.deviceChanges]
  constraints := constraintsOf [.deviceIs]

/-- The components every runtime starts with. -/
def standard : List (Component σ) := [timer, store, event]

end Reflex.Component
