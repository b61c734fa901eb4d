import Reflex.Engine.Delivery

/-! Creating and removing scenarios. While a registered scenario is in test mode, only
those in test mode are runnable; a removed scenario never is. -/
namespace Reflex.Engine

variable {σ : Type}

open Act

/-- Whether one of the registered scenarios is in test mode. -/
def isolating (w : World σ) (ids : List Nat) : Bool :=
  ids.any fun id => (w.scenarios[id]?).any (·.testMode)

/-- The scenarios after deciding again which of the registered ones are runnable. -/
def refreshed (w : World σ) (ids : List Nat) : List (Scenario σ) :=
  w.scenarios.mapIdx fun id s =>
    if ids.contains id then { s with runnable := !isolating w ids || s.testMode } else s

def refresh : Act σ Unit := do
  let ids ← registry
  modify fun w => { w with scenarios := refreshed w ids }

def setTestMode (id : Nat) (enabled : Bool) : Act σ Unit := do
  discard registry
  discard (scenario id)
  modifyScenario id fun s => { s with testMode := enabled }
  refresh

/-- Whether a registered scenario has the description. -/
def isTaken (w : World σ) (ids : List Nat) (description : String) : Bool :=
  ids.any fun id => (w.scenarios[id]?).any (·.description == description)

/-- Registers a scenario after all others and returns its number. -/
def createScenario (description : String) (options : Options) : Act σ Nat := do
  let ids ← registry
  let w ← get
  if Text.isBlankText description then fail (.invalid .emptyName)
  if isTaken w ids description then fail (.invalid (.duplicateScenario description))
  discard (ofInvalid w.triggerVocabulary)
  discard (ofInvalid w.constraintVocabulary)
  let id := w.scenarios.length
  let s : Scenario σ := .new description options.suppressFor
  set { w with scenarios := w.scenarios ++ [s], registry := some (ids ++ [id]) }
  if options.only then setTestMode id true else refresh
  return id

/-- Removes every registered scenario. -/
def clearScenarios : Act σ Unit := do
  let ids ← registry
  modify fun w => { w with
    registry := some []
    scenarios := w.scenarios.mapIdx fun id s =>
      if ids.contains id then { s with runnable := false } else s }

/-- Drops the runtime, and with it the variable store if its user lets go of that too. -/
def dropRuntime (withStore : Bool) : Act σ Unit :=
  modify fun w => { w with registry := none, storeHeld := w.storeHeld && !withStore }

/-- The open block with a number. -/
def block (id : Nat) : Act σ (Block σ) := do
  match (← get).block? id with
  | some b => pure b
  | none => fail (.missing "block" (toString id))

/-- Opens a block for constraints of a scenario. -/
def openBlock (id : Nat) : Act σ Nat := do
  discard registry
  discard (scenario id)
  let w ← get
  discard (ofInvalid w.constraintVocabulary)
  let b : Block σ := ⟨w.nextBlock, id, []⟩
  set { w with blocks := w.blocks ++ [b], nextBlock := w.nextBlock + 1 }
  return w.nextBlock

def discardBlock (id : Nat) : Act σ Unit :=
  modify fun w => { w with blocks := w.blocks.filter (·.id != id) }

/-- Adds a predicate at the end of an open block. -/
def pushPredicate (id : Nat) (p : Predicate σ) : Act σ Unit :=
  modify fun w => { w with
    blocks := w.blocks.map fun b =>
      if b.id = id then { b with predicates := b.predicates ++ [p] } else b }

def pushEntry (id : Nat) (e : Entry σ) : Act σ Unit :=
  modifyScenario id fun s => { s with entries := s.entries ++ [e] }

/-- Makes an entry of a block's predicates and closes the block. -/
def closeBlock (id : Nat) (c : Callback σ) : Act σ Unit := do
  let b ← block id
  discardBlock id
  pushEntry b.scenario ⟨some b.predicates, c⟩

end Reflex.Engine
