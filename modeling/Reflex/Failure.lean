import Reflex.Text.Quoted

/-! Causes of failure and their wording. A message is the outermost cause followed by
the causes inside it. -/
namespace Reflex

inductive VocabularyKind where
  | trigger
  | constraint
deriving Repr, DecidableEq

def VocabularyKind.name : VocabularyKind → String
  | .trigger => "trigger"
  | .constraint => "constraint"

/-- What can be wrong with a declaration or with arguments. -/
inductive Invalid where
  | emptyName
  | duplicateScenario (description : String)
  | options
  | duration (text : String)
  | timeOfDay (text : String)
  | day (text : String)
  | pattern
  | arguments (name reason : String)
  | unknown (kind : VocabularyKind) (name : String)
  | collision (kind : VocabularyKind) (name : String)
deriving Repr, DecidableEq

def Invalid.message : Invalid → String
  | emptyName => "scenario description must not be empty"
  | duplicateScenario name => "a scenario named " ++ Text.quoted name ++ " already exists"
  | options => "invalid scenario options"
  | duration text => "invalid duration " ++ Text.quoted text
  | timeOfDay text => "invalid time of day " ++ Text.quoted text ++ ", expected HH:MM"
  | day text => "invalid day " ++ Text.quoted text
  | pattern => "invalid pattern"
  | arguments name reason => "invalid arguments for " ++ Text.quoted name ++ ": " ++ reason
  | unknown kind name => "unknown " ++ kind.name ++ " " ++ Text.quoted name
  | collision kind name =>
    kind.name ++ " " ++ Text.quoted name ++ " is contributed by more than one component"

/-- Why an operation of the engine did not succeed. A callback's own text appears only
inside the failure of its scenario's pass. -/
inductive Failure where
  | invalid (cause : Invalid)
  | missing (entity name : String)
  | callback (scenario : String) (cause : Failure)
  | dropped
  | reported (text : String)
deriving Repr, DecidableEq

def Failure.message : Failure → String
  | invalid cause => "validation error: " ++ cause.message
  | missing entity name => "not found: " ++ entity ++ " " ++ Text.quoted name ++ " not found"
  | callback scenario cause =>
    "callback failed in scenario " ++ Text.quoted scenario ++ ": " ++ cause.message
  | dropped => "the runtime owning this scenario has been dropped"
  | reported text => text

end Reflex
