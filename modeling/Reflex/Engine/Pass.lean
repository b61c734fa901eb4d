import Reflex.Engine.Act

/-! Asserting scenarios. A pass visits the entries that were there when it began; the
scenario does not accept another pass until it ends, and stays quiet for its window
after a pass that ran something. -/
namespace Reflex.Engine

variable {σ : Type} (call : Call σ)

open Act

/-- Evaluates predicates from the left up to the first that fails or is false. -/
def allHold : List (Predicate σ) → Act σ Bool
  | [] => pure true
  | p :: rest => do
    if ← call p.program then allHold rest else return false

/-- How many guarded entries matched and how many callbacks ran. -/
structure Tally where
  matched : Nat
  ran : Nat
deriving Repr, DecidableEq

/-- Whether an entry runs. An entry without a group runs when none matched before. -/
def applies (group : Option (List (Predicate σ))) (tally : Tally) : Act σ Bool :=
  match group with
  | none => pure (tally.matched == 0)
  | some predicates => allHold call predicates

def guards (group : Option (List (Predicate σ))) : Bool :=
  match group with
  | none => false
  | some predicates => !predicates.isEmpty

/-- Runs a callback; its failure names the scenario. -/
def runCallback (description : String) (c : Callback σ) (payload : Option Value) :
    Act σ Unit := do
  match ← attempt (call (c.program payload)) with
  | .ok _ => pure ()
  | .error cause => fail (.callback description cause)

def visit (id : Nat) (description : String) (payload : Option Value) (place : Nat)
    (tally : Tally) : List (Entry σ) → Act σ Tally
  | [] => pure tally
  | e :: rest => do
    if ← applies call e.group tally then
      mark (.entryRan id place)
      runCallback call description e.callback payload
      let matched := if guards e.group then tally.matched + 1 else tally.matched
      visit id description payload (place + 1) ⟨matched, tally.ran + 1⟩ rest
    else visit id description payload (place + 1) tally rest

/-- Starts the time of suppression after a pass that ran something. -/
def armSuppression (id : Nat) (tally : Tally) : Act σ Unit := do
  let now := (← get).clock
  modifyScenario id fun s =>
    match s.suppressFor with
    | some window =>
      if 0 < tally.ran then { s with suppressedUntil := some (now.add window) } else s
    | none => s

/-- One pass over a scenario's entries. -/
def runPass (id : Nat) (s : Scenario σ) (payload : Option Value) : Act σ Nat := do
  modifyScenario id fun s => { s with evaluating := true }
  mark (.passBegan id)
  let outcome ← attempt (visit call id s.description payload 0 ⟨0, 0⟩ s.entries)
  modifyScenario id fun s => { s with evaluating := false }
  match outcome with
  | .ok tally => do
    armSuppression id tally
    mark (.passEnded id (some tally.ran))
    return tally.ran
  | .error cause => do
    mark (.passEnded id none)
    fail cause

/-- Asserts a scenario: nothing happens unless it is runnable, not suppressed and not in a
pass. Returns the number of callbacks that ran. -/
def assert (id : Nat) (payload : Option Value) : Act σ Nat := do
  let s ← scenario id
  let now := (← get).clock
  if !s.runnable then return 0
  else if (s.suppressedAt now).isSome then return 0
  else if s.evaluating then
    mark (.reentered s.description)
    return 0
  else runPass call id s payload

end Reflex.Engine
