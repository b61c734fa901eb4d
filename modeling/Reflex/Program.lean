import Reflex.Device
import Reflex.Journal
import Reflex.Matcher
import Reflex.Options
import Reflex.Tick
import Reflex.Trigger

/-! User code as data: handlers, jobs, timers, predicates and callbacks are programs that
look at the engine, ask it for operations and go on with the replies. A program keeps
a memory of type `σ` of its own between its runs. -/
namespace Reflex

/-- What can be seen of a scenario. -/
structure ScenarioView where
  description : String
  testMode : Bool
  runnable : Bool
  entries : Nat
  suppressedUntil : Option Instant

/-- What can be seen of the engine at one moment. -/
structure View where
  now : Instant
  tickTime : Instant
  jobs : Nat
  timers : Nat
  subscribers : String → Nat
  value : String → Value
  variableNames : List String
  pendingExpiry : String → Bool
  storeHeld : Bool
  /-- The registered scenarios in order of creation, while there is a runtime. -/
  registry : Option (List Nat)
  scenario : Nat → Option ScenarioView
  components : List String
  device : String → Option Device
  deviceNames : List String
  devicesBound : Bool
  blockSize : Nat → Nat
  blockScenario : Nat → Option Nat
  constraintNames : List String

/-- The registered scenario with a description. -/
def View.registered? (v : View) (description : String) : Option Nat :=
  (v.registry.getD []).find? fun id => (v.scenario id).any (·.description == description)

/-- A feature of a device; null without the device. -/
def View.feature (v : View) (device feature : String) : Value :=
  match v.device device with
  | some d => d.get feature
  | none => .null

namespace Expectation

/-- The value of a variable whenever it is compared. -/
def ofVariable (name : String) : Expectation View := .reading fun v => v.value name

def ofFeature (device feature : String) : Expectation View :=
  .reading fun v => v.feature device feature

end Expectation

/-- Whether a condition holds of what can be seen now. -/
def Condition.holds (c : Condition) (v : View) : Bool :=
  match c with
  | dayIs days => days.matchesAt v.now
  | timeBetween window => window.contains v.now
  | variableIs name expected =>
    ((Expectation.ofVariable name).verdict (.deepEqual expected)).evaluate v
  | variableDefined name => ((Expectation.ofVariable name).verdict .defined).evaluate v
  | deviceIs device feature expected =>
    ((Expectation.ofFeature device feature).verdict (.deepEqual expected)).evaluate v

/-- The kinds of answer that requests have. -/
inductive Reply where
  | unit
  | flag
  | count
  | names
deriving Repr, DecidableEq

abbrev Reply.Carrier : Reply → Type
  | unit => Unit
  | flag => Bool
  | count => Nat
  | names => List String

/-- Operations of the engine that need no code. Scenarios, subscriptions, jobs, timers and
blocks go by their numbers. -/
inductive Request : Reply → Type where
  | setClock (t : Instant) : Request .unit
  | setMaxCatchUp (seconds : Nat) : Request .unit
  | unsubscribe (id : Nat) : Request .flag
  | remove (id : Nat) : Request .flag
  | cancel (id : Nat) : Request .flag
  | registerDevice (d : Device) : Request .unit
  | createScenario (description : String) (options : Options) : Request .count
  | setTestMode (scenario : Nat) (enabled : Bool) : Request .unit
  | clearScenarios : Request .unit
  | dropRuntime (withStore : Bool) : Request .unit
  /-- The trigger names that the scenario can use. -/
  | openTriggers (scenario : Nat) : Request .names
  /-- A new block for constraints of the scenario. -/
  | openBlock (scenario : Nat) : Request .count
  | discardBlock (block : Nat) : Request .unit
  | emit (topic : String) (arguments : List Value) : Request .unit
  | set (name : String) (value : Value) (ttl : Option Span) : Request .unit
  | expire (name : String) : Request .unit
  | setFeature (device feature : String) (value : Value) : Request .flag
  | assert (scenario : Nat) (payload : Option Value) : Request .count
  | tick : Request .count
  | invokeTrigger (scenario : Nat) (name : String) (arguments : List Value) : Request .unit
  | invokeConstraint (block : Nat) (name : String) (arguments : List Value) : Request .unit

/-- A program ends with an answer, which matters for predicates only, or with a failure. -/
inductive Program (σ : Type) where
  | done (holds : Bool)
  | fail (cause : Failure)
  | look (next : View → Program σ)
  | load (next : σ → Program σ)
  | save (memory : σ) (next : Program σ)
  | note (m : Message) (next : Program σ)
  | request {r : Reply} (q : Request r) (next : Except Failure r.Carrier → Program σ)
  | subscribe (topic : String) (handler : List Value → Program σ) (next : Nat → Program σ)
  | every (s : Schedule) (job : Program σ) (next : Nat → Program σ)
  | once (d : Span) (job : Program σ) (next : Nat → Program σ)
  /-- Adds a predicate to an open block. -/
  | check (block : Nat) (predicate : Program σ) (next : Program σ)
  /-- Adds an entry without constraints. -/
  | fallback (scenario : Nat) (callback : Option Value → Program σ) (next : Program σ)
  /-- Turns an open block into an entry of its scenario. -/
  | close (block : Nat) (callback : Option Value → Program σ) (next : Program σ)

namespace Program

variable {σ : Type}

instance : Inhabited (Program σ) := ⟨done true⟩

/-- Asks for an operation and ends as it does. -/
def perform {r : Reply} (q : Request r) : Program σ :=
  request q fun
    | .ok _ => done true
    | .error cause => fail cause

end Program

/-- A program under construction that will produce an `α` or fail: given what follows in
either case, the whole program. -/
def Script (σ α : Type) : Type := (Except Failure α → Program σ) → Program σ

namespace Script

variable {σ α : Type}

instance : Inhabited (Script σ α) := ⟨fun _ => .done true⟩

instance : Monad (Script σ) where
  pure a := fun next => next (.ok a)
  bind x f := fun next => x fun
    | .ok a => f a next
    | .error cause => next (.error cause)

instance : MonadExcept Failure (Script σ) where
  throw cause := fun next => next (.error cause)
  tryCatch x handle := fun next => x fun
    | .ok a => next (.ok a)
    | .error cause => handle cause next

def look : Script σ View := fun next => .look fun v => next (.ok v)

def load : Script σ σ := fun next => .load fun s => next (.ok s)

def save (memory : σ) : Script σ Unit := fun next => .save memory (next (.ok ()))

def note (m : Message) : Script σ Unit := fun next => .note m (next (.ok ()))

def request {r : Reply} (q : Request r) : Script σ r.Carrier := fun next => .request q next

/-- Moves the clock forward. -/
def advance (d : Span) : Script σ Unit := do
  let view ← look
  request (.setClock (view.now.advance d))

def subscribe (topic : String) (handler : List Value → Program σ) : Script σ Nat :=
  fun next => .subscribe topic handler fun id => next (.ok id)

def every (s : Schedule) (job : Program σ) : Script σ Nat :=
  fun next => .every s job fun id => next (.ok id)

def once (d : Span) (job : Program σ) : Script σ Nat :=
  fun next => .once d job fun id => next (.ok id)

def check (block : Nat) (predicate : Program σ) : Script σ Unit :=
  fun next => .check block predicate (next (.ok ()))

def fallback (scenario : Nat) (callback : Option Value → Program σ) : Script σ Unit :=
  fun next => .fallback scenario callback (next (.ok ()))

def close (block : Nat) (callback : Option Value → Program σ) : Script σ Unit :=
  fun next => .close block callback (next (.ok ()))

/-- The program that ends when the script does. -/
def toProgram (x : Script σ α) : Program σ := x fun
  | .ok _ => .done true
  | .error cause => .fail cause

/-- The program that answers what the script decides. -/
def toPredicate (x : Script σ Bool) : Program σ := x fun
  | .ok holds => .done holds
  | .error cause => .fail cause

end Script

end Reflex
