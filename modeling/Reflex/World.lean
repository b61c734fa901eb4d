import Reflex.Agenda
import Reflex.Bus
import Reflex.Program

/-! The state of the engine. The code that it holds is either built in, and then plain
data with a program as its meaning, or a program that a user supplied. -/
namespace Reflex

/-- Code that runs when something is published or due. Jobs and timers receive no
arguments. -/
inductive Reaction (σ : Type) where
  | trigger (t : Trigger) (scenario : Nat)
  | deviceReport
  | expiry (name : String)
  | custom (react : List Value → Program σ)

/-- The actions of a declared branch, each optional. -/
structure Deed where
  log : Option String
  emit : Option String
  set : Option (String × Value × Option Span)

inductive Callback (σ : Type) where
  | deed (scenario : String) (d : Deed)
  | custom (run : Option Value → Program σ)

inductive Predicate (σ : Type) where
  | condition (c : Condition)
  | custom (decides : Program σ)

/-- A callback with the group that guards it, or none for an entry that runs when no
guarded one did. -/
structure Entry (σ : Type) where
  group : Option (List (Predicate σ))
  callback : Callback σ

structure Scenario (σ : Type) where
  description : String
  suppressFor : Option Span
  testMode : Bool
  runnable : Bool
  /-- Whether a pass is in progress. -/
  evaluating : Bool
  suppressedUntil : Option Instant
  entries : List (Entry σ)

def Scenario.new {σ : Type} (description : String) (suppressFor : Option Span) : Scenario σ :=
  ⟨description, suppressFor, false, true, false, none, []⟩

/-- The end of the time of suppression, while it lies ahead. -/
def Scenario.suppressedAt {σ : Type} (s : Scenario σ) (now : Instant) : Option Instant :=
  s.suppressedUntil.filter fun limit => decide (now < limit)

inductive TriggerFactory (σ : Type) where
  | builtin (k : TriggerKind)
  | custom (make : Nat → List Value → Program σ)

inductive ConstraintFactory (σ : Type) where
  | builtin (k : ConditionKind)
  | custom (make : Nat → List Value → Program σ)

/-- What a component does when the runtime is built. -/
inductive Setup (σ : Type) where
  | nothing
  | devices
  | custom (run : Program σ)

/-- A contribution of names to the vocabularies. It is fixed data, the same for every scenario and
every block, where a contribution could be computed anew for each of them. -/
structure Component (σ : Type) where
  name : String
  setup : Setup σ
  triggers : Vocabulary (TriggerFactory σ)
  constraints : Vocabulary (ConstraintFactory σ)

/-- A variable's value and the timer that will reset it. -/
structure Slot where
  value : Value
  expiry : Option Nat

/-- Predicates collected for an entry of a scenario. -/
structure Block (σ : Type) where
  id : Nat
  scenario : Nat
  predicates : List (Predicate σ)

structure World (σ : Type) where
  clock : Instant
  bus : Bus (Reaction σ)
  agenda : Agenda (Reaction σ)
  slots : Table Slot
  /-- Whether the variable store is kept from outside the runtime. -/
  storeHeld : Bool
  /-- Every scenario ever registered, by number. -/
  scenarios : List (Scenario σ)
  /-- The registered scenarios in order of creation, while there is a runtime. -/
  registry : Option (List Nat)
  components : List (Component σ)
  devices : Table Device
  /-- Whether device changes are published. -/
  devicesBound : Bool
  blocks : List (Block σ)
  nextBlock : Nat
  memory : σ
  /-- The latest mark first. -/
  journal : List Mark

namespace World

variable {σ : Type}

/-- A world with devices and nothing else. -/
def start (clock : Instant) (devices : List Device) (memory : σ) : World σ where
  clock
  bus := .empty
  agenda := .empty
  slots := []
  storeHeld := true
  scenarios := []
  registry := none
  components := []
  devices := Table.ofList (devices.map fun d => (d.name, d))
  devicesBound := false
  blocks := []
  nextBlock := 0
  memory
  journal := []

def value (w : World σ) (name : String) : Value :=
  match Table.find? name w.slots with
  | some slot => slot.value
  | none => .null

def pendingExpiry (w : World σ) (name : String) : Bool :=
  (Table.find? name w.slots).any (·.expiry.isSome)

/-- Variables with a value, in order. -/
def variableNames (w : World σ) : List String :=
  (w.slots.filter fun (_, slot) => !slot.value.isNull).map (·.1)

/-- The second being evaluated, otherwise the clock. -/
def tickTime (w : World σ) : Instant := w.agenda.current.getD w.clock

def triggerVocabulary (w : World σ) : Except Invalid (Vocabulary (TriggerFactory σ)) :=
  Vocabulary.mergeAll .trigger .empty (w.components.map (·.triggers))

def constraintVocabulary (w : World σ) : Except Invalid (Vocabulary (ConstraintFactory σ)) :=
  Vocabulary.mergeAll .constraint .empty (w.components.map (·.constraints))

def scenarioView (w : World σ) (id : Nat) : Option ScenarioView :=
  w.scenarios[id]?.map fun s =>
    ⟨s.description, s.testMode, s.runnable, s.entries.length, s.suppressedAt w.clock⟩

def block? (w : World σ) (id : Nat) : Option (Block σ) := w.blocks.find? (·.id == id)

def view (w : World σ) : View where
  now := w.clock
  tickTime := w.tickTime
  jobs := w.agenda.jobs.length
  timers := w.agenda.timers.length
  subscribers := w.bus.count
  value := w.value
  variableNames := w.variableNames
  pendingExpiry := w.pendingExpiry
  storeHeld := w.storeHeld
  registry := w.registry
  scenario := w.scenarioView
  components := w.components.map (·.name)
  device := fun name => Table.find? name w.devices
  deviceNames := Table.keys w.devices
  devicesBound := w.devicesBound
  blockSize := fun id => match w.block? id with
    | some b => b.predicates.length
    | none => 0
  blockScenario := fun id => (w.block? id).map (·.scenario)
  constraintNames := match w.constraintVocabulary with
    | .ok v => v.names
    | .error _ => []

def modifyScenario (w : World σ) (id : Nat) (change : Scenario σ → Scenario σ) : World σ :=
  { w with scenarios := w.scenarios.modify id change }

end World

namespace Predicate

variable {σ : Type}

def program : Predicate σ → Program σ
  | condition c => .look fun v => .done (c.holds v)
  | custom decides => decides

def readsVariables : Predicate σ → Bool
  | condition c => c.readsVariables
  | custom _ => false

end Predicate

namespace Deed

variable {σ : Type}

/-- Logs, then emits the payload, then sets a variable; stops at the first failure. -/
def program (scenario : String) (d : Deed) (payload : Option Value) : Program σ :=
  let setting : Program σ := match d.set with
    | some (name, value, ttl) => .perform (.set name value ttl)
    | none => .done true
  let emitting : Program σ := match d.emit with
    | some topic => .request (.emit topic payload.toList) fun
      | .ok _ => setting
      | .error cause => .fail cause
    | none => setting
  match d.log with
  | some message => .note (.logged scenario message) emitting
  | none => emitting

end Deed

namespace Callback

variable {σ : Type}

def program (c : Callback σ) (payload : Option Value) : Program σ :=
  match c with
  | deed scenario d => d.program scenario payload
  | custom run => run payload

def isDeed : Callback σ → Bool
  | deed _ _ => true
  | custom _ => false

end Callback

namespace World

variable {σ : Type}

/-- Whether something still refers to the variable store: the runtime, its user, or code
that reads or writes variables. -/
def storeAlive (w : World σ) : Bool :=
  w.registry.isSome || w.storeHeld || !w.blocks.isEmpty ||
    w.scenarios.any fun s => s.entries.any fun e =>
      e.callback.isDeed || (e.group.getD []).any (·.readsVariables)

end World

namespace Trigger

variable {σ : Type}

/-- The arguments of a change that concern the trigger, from the first published one. -/
def isText (v : Value) (s : String) : Bool :=
  match v with
  | .text t => t == s
  | _ => false

/-- What a trigger does for its scenario when it is called with arguments. -/
def program (t : Trigger) (scenario : Nat) (arguments : List Value) : Program σ :=
  match t with
  | every _ => .perform (.assert scenario none)
  | .at time => .look fun v =>
    if v.registry.isNone then .fail .dropped
    else if TimeOfDay.of v.tickTime = time then
      .perform (.assert scenario (some (Tick.payload v.tickTime)))
    else .done true
  | variableChanges name =>
    match arguments with
    | change :: _ =>
      if isText (change.member "name") name then
        .perform (.assert scenario (some (change.member "value")))
      else .done true
    | [] => .done true
  | event _ => .perform (.assert scenario arguments.head?)
  | deviceChanges device feature =>
    match arguments with
    | change :: _ =>
      if isText (change.member "device") device &&
          feature.all fun f => isText (change.member "attribute") f then
        .perform (.assert scenario (some change))
      else .done true
    | [] => .done true

end Trigger

namespace Reaction

variable {σ : Type}

/-- Passes a report from the bus to the device it names. -/
def reportProgram (arguments : List Value) : Program σ :=
  match arguments with
  | [] => .fail (.invalid (.arguments deviceTopic "expected a report"))
  | report :: _ =>
    match report.member "device", report.member "attribute" with
    | .text device, .text feature =>
      .perform (.setFeature device feature (report.member "value"))
    | _, _ =>
      .fail (.invalid (.arguments deviceTopic "expected string device and attribute names"))

def program (r : Reaction σ) (arguments : List Value) : Program σ :=
  match r with
  | trigger t scenario => t.program scenario arguments
  | deviceReport => reportProgram arguments
  | expiry name => .perform (.expire name)
  | custom react => react arguments

end Reaction

end Reflex
