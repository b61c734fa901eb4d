import Reflex.Builtin
import Reflex.Config
import Reflex.Engine.Run

/-! Setting a runtime up from a configuration: devices, variables, then the scenarios in
order. -/
namespace Reflex

namespace Engine

variable {σ : Type} (call : Call σ)

open Act

def invokeTriggers (id : Nat) : List NamedCall → Act σ Unit
  | [] => pure ()
  | c :: rest => do
    invokeTrigger call id c.name c.arguments
    invokeTriggers id rest

def invokeConstraints (block : Nat) : List NamedCall → Act σ Unit
  | [] => pure ()
  | c :: rest => do
    invokeConstraint call block c.name c.arguments
    invokeConstraints block rest

/-- The actions of a branch; its lifetime is read before anything is added. -/
def deedOf (b : Branch) : Except Invalid Deed := do
  let set ← match b.set with
    | none => pure none
    | some a => do
      let ttl ← match a.ttl with
        | none => pure none
        | some text => some <$> Span.parse text
      pure (some (a.name, a.value, ttl))
  return ⟨b.log, b.emit, set⟩

/-- Adds the entry of a branch: without constraints one that runs when no other did. The
block of a branch with a bad constraint is discarded. -/
def declareBranch (id : Nat) (description : String) (b : Branch) : Act σ Unit := do
  let d ← ofInvalid (deedOf b)
  match b.constraints with
  | none => pushEntry id ⟨none, .deed description d⟩
  | some calls => do
    let block ← openBlock id
    match ← attempt (invokeConstraints call block calls) with
    | .ok _ => closeBlock block (.deed description d)
    | .error cause => do
      discardBlock block
      fail cause

def declareBranches (id : Nat) (description : String) : List Branch → Act σ Unit
  | [] => pure ()
  | b :: rest => do
    declareBranch call id description b
    declareBranches id description rest

/-- Creates a scenario with its triggers and branches. -/
def declare (d : Declaration) : Act σ Nat := do
  let options ← ofInvalid (Options.ofValue d.options)
  let id ← createScenario d.description options
  discard (openTriggers id)
  invokeTriggers call id d.triggers
  declareBranches call id d.description d.branches
  mark (.declared d.description d.triggers.length d.branches.length)
  return id

def declareAll : List Declaration → Act σ Unit
  | [] => pure ()
  | d :: rest => do
    discard (declare call d)
    declareAll rest

/-- Writes the preset variables in order. -/
def seed : Table Value → Act σ Unit
  | [] => pure ()
  | (name, value) :: rest => do
    setVariable call name value none
    seed rest

end Engine

/-- The stages of setting up; the devices come before all of them. -/
inductive Stage where
  | devices
  | build
  | seed
  | declare
deriving Repr, DecidableEq

/-- What is said before the cause of a failure. -/
def Stage.lead : Stage → String
  | devices => ""
  | build => "failed to build runtime: "
  | seed => "failed to seed variables: "
  | declare => "failed to declare scenarios: "

namespace Bootstrap

variable {σ : Type}

/-- The components that a configuration needs; devices only when it names some. -/
def components (c : Config) : List (Component σ) :=
  Component.standard ++ if c.devices.isEmpty then [] else [.devices]

/-- A world with a configuration's devices and nothing set up. -/
def start (c : Config) (clock : Instant) (memory : σ) : Except Failure (World σ) := do
  let devices ← c.devices.mapM Device.new
  let w := World.start clock devices memory
  return { w with agenda := { w.agenda with maxCatchUp := c.maxCatchUp } }

/-- The stages in order, each of which may fail. -/
def stages (depth : Nat) (c : Config) : List (Stage × Act σ Unit) :=
  let call := Engine.exec depth
  [(.build, Engine.build call (components c)), (.seed, Engine.seed call c.presets),
    (.declare, Engine.declareAll call c.scenarios)]

/-- Runs stages up to the first that fails. -/
def runStages : List (Stage × Act σ Unit) → World σ → Except (Stage × Interrupt) Unit × World σ
  | [], w => (.ok (), w)
  | (stage, act) :: rest, w =>
    match act w with
    | (.ok _, w) => runStages rest w
    | (.error cause, w) => (.error (stage, cause), w)

end Bootstrap

/-- Sets a runtime up in the world that a configuration starts with. -/
def bootstrap {σ : Type} (depth : Nat) (c : Config) (w : World σ) :
    Except (Stage × Interrupt) Unit × World σ :=
  Bootstrap.runStages (Bootstrap.stages depth c) w

/-- Moves the clock to a reading and ticks there. -/
def tickAt {σ : Type} (depth : Nat) (reading : Instant) (w : World σ) :
    Except Interrupt Bool × World σ :=
  Engine.run depth (.request (.setClock reading) fun _ => .perform .tick) w

end Reflex
