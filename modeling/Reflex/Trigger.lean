import Reflex.Schedule.Phrase
import Reflex.Time.OfDay
import Reflex.Time.Weekday
import Reflex.Vocabulary

/-! The stimuli that assert scenarios and the conditions that guard their branches. Both
are read from a name and arguments when a scenario is declared. -/
namespace Reflex

inductive Trigger where
  | every (s : Schedule)
  | at (time : TimeOfDay)
  | variableChanges (name : String)
  | event (topic : String)
  | deviceChanges (device : String) (feature : Option String)
deriving Repr, DecidableEq

inductive TriggerKind where
  | every
  | at
  | variableChanges
  | event
  | deviceChanges
deriving Repr, DecidableEq

namespace TriggerKind

def name : TriggerKind → String
  | every => "every"
  | .at => "at"
  | variableChanges => "variable.changes"
  | event => "event"
  | deviceChanges => "device.changes"

/-- The optional text at a place: missing or null stands for none. -/
def optionalText (name : String) (arguments : List Value) (index : Nat) :
    Except Invalid (Option String) :=
  match arguments[index]? with
  | none => .ok none
  | some .null => .ok none
  | some _ => (textArgument name arguments index).map some

def read (k : TriggerKind) (arguments : List Value) : Except Invalid Trigger :=
  match k with
  | every => do return .every (← Schedule.parse (← textArgument k.name arguments 0))
  | .at => do return .at (← TimeOfDay.parse (← textArgument k.name arguments 0))
  | variableChanges => do return .variableChanges (← textArgument k.name arguments 0)
  | event => do return .event (← textArgument k.name arguments 0)
  | deviceChanges => do
    return .deviceChanges (← textArgument k.name arguments 0) (← optionalText k.name arguments 1)

end TriggerKind

def variableTopic : String := "variable"

def attributeTopic : String := "attribute"

def deviceTopic : String := "device"

/-- Where a trigger listens: on a topic of the bus, or on a schedule. -/
def Trigger.source : Trigger → String ⊕ Schedule
  | every s => .inr s
  | .at _ => .inr Schedule.minutely
  | variableChanges _ => .inl variableTopic
  | event topic => .inl topic
  | deviceChanges _ _ => .inl attributeTopic

inductive Condition where
  | dayIs (days : DaySet)
  | timeBetween (window : TimeWindow)
  | variableIs (name : String) (expected : Value)
  | variableDefined (name : String)
  | deviceIs (device feature : String) (expected : Value)

inductive ConditionKind where
  | dayIs
  | timeBetween
  | variableIs
  | variableDefined
  | deviceIs
deriving Repr, DecidableEq

namespace ConditionKind

def name : ConditionKind → String
  | dayIs => "day.is"
  | timeBetween => "time.between"
  | variableIs => "variable.is"
  | variableDefined => "variable.defined"
  | deviceIs => "device.is"

def read (k : ConditionKind) (arguments : List Value) : Except Invalid Condition :=
  match k with
  | dayIs => do return .dayIs (← DaySet.ofValue (valueArgument arguments 0))
  | timeBetween => do
    let first ← textArgument k.name arguments 0
    let last ← textArgument k.name arguments 1
    return .timeBetween (← TimeWindow.parse first last)
  | variableIs => do
    return .variableIs (← textArgument k.name arguments 0) (valueArgument arguments 1)
  | variableDefined => do return .variableDefined (← textArgument k.name arguments 0)
  | deviceIs => do
    let device ← textArgument k.name arguments 0
    let feature ← textArgument k.name arguments 1
    return .deviceIs device feature (valueArgument arguments 2)

end ConditionKind

/-- Whether a condition reads the variable store. -/
def Condition.readsVariables : Condition → Bool
  | variableIs _ _ => true
  | variableDefined _ => true
  | _ => false

end Reflex
