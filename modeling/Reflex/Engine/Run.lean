import Reflex.Engine.Calls
import Reflex.Engine.Pass
import Reflex.Engine.Store

/-! Running programs. Code started by an operation runs one level deeper than the
operation; the depth is bounded, and a run that would exceed the bound stops there. -/
namespace Reflex.Engine

variable {σ : Type} (call : Call σ)

open Act

/-- Carries out an operation. -/
def perform : {r : Reply} → Request r → Act σ r.Carrier
  | _, .setClock t => modify fun w => { w with clock := t }
  | _, .setMaxCatchUp n => modify fun w => { w with agenda := { w.agenda with maxCatchUp := n } }
  | _, .unsubscribe id => unsubscribe id
  | _, .remove id => remove id
  | _, .cancel id => cancel id
  | _, .registerDevice d => registerDevice d
  | _, .createScenario description options => createScenario description options
  | _, .setTestMode id enabled => setTestMode id enabled
  | _, .clearScenarios => clearScenarios
  | _, .dropRuntime withStore => dropRuntime withStore
  | _, .openTriggers id => openTriggers id
  | _, .openBlock id => openBlock id
  | _, .discardBlock id => discardBlock id
  | _, .emit topic arguments => emit call topic arguments
  | _, .set name value ttl => setVariable call name value ttl
  | _, .expire name => expireVariable call name
  | _, .setFeature device feature value => setFeature call device feature value
  | _, .assert id payload => assert call id payload
  | _, .tick => tick call
  | _, .invokeTrigger id name arguments => invokeTrigger call id name arguments
  | _, .invokeConstraint id name arguments => invokeConstraint call id name arguments

/-- Runs a program to its end. -/
def interpret : Program σ → Act σ Bool
  | .done holds => pure holds
  | .fail cause => fail cause
  | .look next => do interpret (next (← get).view)
  | .load next => do interpret (next (← get).memory)
  | .save memory next => do
    modify fun w => { w with memory }
    interpret next
  | .note m next => do
    mark m.mark
    interpret next
  | .request q next => do interpret (next (← attempt (perform call q)))
  | .subscribe topic handler next => do
    interpret (next (← subscribe topic (.custom handler)))
  | .every s job next => do interpret (next (← every s (.custom fun _ => job)))
  | .once d job next => do interpret (next (← once d (.custom fun _ => job)))
  | .check block predicate next => do
    pushPredicate block (.custom predicate)
    interpret next
  | .fallback id callback next => do
    pushEntry id ⟨none, .custom callback⟩
    interpret next
  | .close block callback next => do
    closeBlock block (.custom callback)
    interpret next

/-- Runs programs with at most `n` levels of nested code. -/
def exec : Nat → Call σ
  | 0, _ => throw .exhausted
  | n + 1, p => interpret (exec n) p

/-- The world after a program, and how the program ended. -/
def run (depth : Nat) (p : Program σ) (w : World σ) : Except Interrupt Bool × World σ :=
  exec depth p w

/-- The world after a runtime was built in it. -/
def buildIn (depth : Nat) (components : List (Component σ)) (w : World σ) :
    Except Interrupt Unit × World σ :=
  build (exec depth) components w

end Reflex.Engine
