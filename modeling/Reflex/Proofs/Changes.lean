import Reflex.Proofs.Evaluation
import Reflex.Proofs.Lodging

/-! What code does to the world apart from time, timers and variables, as functions from
worlds to worlds. Each operation that runs no other code is one of them or fails and
changes nothing. -/
namespace Reflex
open Act Engine

variable {σ α : Type}

namespace World

/-- A handler is subscribed to a topic. -/
def subscribing (w : World σ) (topic : String) (handler : Reaction σ) : World σ :=
  { w with bus := w.bus.subscribe topic handler }.marked (.subscribed w.bus.next topic)

def unsubscribing (w : World σ) (id : Nat) : World σ :=
  { w with bus := w.bus.unsubscribe id }.marked (.unsubscribed id (w.bus.holds id))

/-- A job is registered after the others. -/
def enlisting (w : World σ) (s : Schedule) (task : Reaction σ) : World σ :=
  { w with agenda := w.agenda.register s task }.marked (.jobRegistered w.agenda.nextJob s)

def dismissing (w : World σ) (id : Nat) : World σ :=
  { w with agenda := w.agenda.remove id }.marked (.jobRemoved id (w.agenda.hasJob id))

/-- An entry is added to a scenario. -/
def extending (w : World σ) (id : Nat) (e : Entry σ) : World σ :=
  w.modifyScenario id fun s => { s with entries := s.entries ++ [e] }

/-- It is decided again which of the registered scenarios are runnable. -/
def refreshing (w : World σ) (ids : List Nat) : World σ := { w with scenarios := refreshed w ids }

/-- A scenario, registered or not, enters or leaves test mode. -/
def testing (w : World σ) (ids : List Nat) (id : Nat) (enabled : Bool) : World σ :=
  (w.modifyScenario id fun s => { s with testMode := enabled }).refreshing ids

/-- A scenario is registered after the others. -/
def creating (w : World σ) (ids : List Nat) (description : String) (options : Options) : World σ :=
  { w with
    scenarios := w.scenarios ++
      [{ Scenario.new description options.suppressFor with testMode := options.only }]
    registry := some (ids ++ [w.scenarios.length]) }.refreshing (ids ++ [w.scenarios.length])

/-- No scenario is registered any longer, and those that were are not runnable. -/
def clearing (w : World σ) (ids : List Nat) : World σ :=
  { w with
    registry := some []
    scenarios := w.scenarios.mapIdx fun id s =>
      if ids.contains id then { s with runnable := false } else s }

/-- Changes of devices will be published. -/
def binding (w : World σ) : World σ := { w with devicesBound := true }

/-- A device is registered under its name. -/
def equipping (w : World σ) (d : Device) : World σ :=
  { w with devices := Table.put d.name d w.devices }.marked (.deviceRegistered d)

/-- A feature of a device is written. -/
def tuning (w : World σ) (d : Device) (device feature : String) (value : Value) : World σ :=
  { w with
    devices := Table.put device (d.setAttribute feature value w.clock).1 w.devices }.marked
      (.adjusted ⟨device, feature, value, d.get feature, w.clock⟩)

/-- A write of a feature up to the moment when the subscribers are called, if it is published. -/
def adjusting (w : World σ) (d : Device) (device feature : String) (value : Value) : World σ :=
  if !(d.get feature).identical value && w.devicesBound then
    (w.tuning d device feature value).marked
      (.emitted attributeTopic [featureChange device feature value (d.get feature)])
  else w.tuning d device feature value

/-- An assert of the scenario makes a pass. -/
structure Admits (w : World σ) (id : Nat) (s : Scenario σ) : Prop where
  found : w.scenarios[id]? = some s
  runnable : s.runnable = true
  unsuppressed : s.suppressedAt w.clock = none
  idle : s.evaluating = false

/-- What the world holds of the bus, scenarios, devices, timers and variables is the same, and
so is what was done to them. -/
structure Aside (w w' : World σ) : Prop where
  journal : w'.journal = w.journal
  bus : w'.bus = w.bus
  scenarios : w'.scenarios = w.scenarios
  registry : w'.registry = w.registry
  devices : w'.devices = w.devices
  devicesBound : w'.devicesBound = w.devicesBound
  slots : w'.slots = w.slots
  storeHeld : w'.storeHeld = w.storeHeld
  timers : w'.agenda.timers = w.agenda.timers
  nextTimer : w'.agenda.nextTimer = w.agenda.nextTimer
  lastTick : w'.agenda.lastTick = w.agenda.lastTick

end World

/-- Marks that tell nothing of ticks, timers, variables, devices, subscriptions and passes. -/
def Mark.isBare : Mark → Bool
  | tickBegan _ _ | tickEnded _ | second _ | served _ => false
  | timerArmed _ _ | timerCancelled _ _ | timersTaken _ _ | timerStarted _ => false
  | written _ | expired _ => false
  | deviceRegistered _ | adjusted _ => false
  | subscribed _ _ | unsubscribed _ _ => false
  | passBegan _ | passEnded _ _ => false
  | _ => true

/-- Marks of the course of a pass. -/
def Mark.isPass : Mark → Bool
  | passBegan _ | passEnded _ _ => true
  | _ => false

/-- What an operation does at once, passes and what touches time, timers or variables aside. -/
inductive Change (rule : Rule) : World σ → World σ → Prop
  | mark {w : World σ} {m : Mark} : m.isBare = true → Change rule w (w.marked m)
  | aside {w w' : World σ} : w.Aside w' → (w.Lodges rule → w'.Lodges rule) → Change rule w w'
  | subscribe {w : World σ} {topic : String} {handler : Reaction σ} : handler.Within rule →
      Change rule w (w.subscribing topic handler)
  | unsubscribe {w : World σ} {id : Nat} : Change rule w (w.unsubscribing id)
  | extend {w : World σ} {id : Nat} {e : Entry σ} : e.Within rule → Change rule w (w.extending id e)
  | create {w : World σ} {ids : List Nat} {description : String} {options : Options} :
      w.registry = some ids → Change rule w (w.creating ids description options)
  | test {w : World σ} {ids : List Nat} {id : Nat} {enabled : Bool} : w.registry = some ids →
      Change rule w (w.testing ids id enabled)
  | clear {w : World σ} {ids : List Nat} : w.registry = some ids → Change rule w (w.clearing ids)
  | bind {w : World σ} : Change rule w w.binding
  | equip {w : World σ} {d : Device} : Change rule w (w.equipping d)
  | adjust {w : World σ} {d : Device} {device feature : String} {value : Value} :
      Table.find? device w.devices = some d →
      Change rule w (w.adjusting d device feature value)

/-- The world that an assert leaves, after the visits of its pass. -/
def Evaluation.closed (id : Nat) : Except Interrupt Nat → World σ → World σ
  | .ok n, w => concluded id n w
  | .error cause, w => stopped id cause w

/-! Scenarios after one of them was changed. -/

theorem World.getElem?_modifyScenario (w : World σ) (id : Nat) (change : Scenario σ → Scenario σ)
    (n : Nat) : (w.modifyScenario id change).scenarios[n]? =
      (w.scenarios[n]?).map fun s => if id = n then change s else s :=
  List.getElem?_modify change id w.scenarios n

theorem World.modifyScenario_other (w : World σ) {id n : Nat} (other : id ≠ n)
    (change : Scenario σ → Scenario σ) :
    (w.modifyScenario id change).scenarios[n]? = w.scenarios[n]? := by
  rw [getElem?_modifyScenario]
  simp [other]

/-- A reading of scenarios on which the change has no bearing. -/
theorem World.modifyScenario_map {β : Type} (f : Scenario σ → β) (w : World σ) (id : Nat)
    {change : Scenario σ → Scenario σ} (same : ∀ s, f (change s) = f s) :
    (w.modifyScenario id change).scenarios.map f = w.scenarios.map f := by
  apply List.ext_getElem?
  intro n
  rw [List.getElem?_map, List.getElem?_map, getElem?_modifyScenario, Option.map_map]
  congr 1
  funext s
  change f (if id = n then change s else s) = f s
  split
  · exact same s
  · rfl

theorem World.mapIdx_map {β : Type} (f : Scenario σ → β) (scenarios : List (Scenario σ))
    {change : Nat → Scenario σ → Scenario σ} (same : ∀ n s, f (change n s) = f s) :
    (scenarios.mapIdx change).map f = scenarios.map f := by
  apply List.ext_getElem?
  intro n
  rw [List.getElem?_map, List.getElem?_map, List.getElem?_mapIdx, Option.map_map]
  congr 1
  funext s
  exact same n s

theorem Evaluation.begun_at {w : World σ} {id : Nat} {s : Scenario σ}
    (found : w.scenarios[id]? = some s) :
    (begun id w).scenarios[id]? = some { s with evaluating := true } := by
  change (w.modifyScenario id _).scenarios[id]? = _
  rw [w.getElem?_modifyScenario, found, Option.map_some, if_pos rfl]

/-- A pass is its visits, and the result of the last of them closes it. -/
theorem Evaluation.runPass_closed {call : Call σ} {id : Nat} {s : Scenario σ}
    {payload : Option Value} {w last : World σ} {answer : Except Interrupt Tally}
    (visited : visit call id s.description payload 0 ⟨0, 0⟩ s.entries (begun id w) =
      (answer, last)) :
    runPass call id s payload w =
      (answer.map Tally.ran, closed id (answer.map Tally.ran) last) := by
  rw [runPass_eq, visited]
  cases answer <;> rfl

/-! No change adds code that breaks the rule. -/

section Lodging

variable {rule : Rule} {w : World σ}

theorem World.Lodges.marked (lodges : w.Lodges rule) (m : Mark) : (w.marked m).Lodges rule :=
  ⟨lodges.1, lodges.2, lodges.3, lodges.4, lodges.5, lodges.6⟩

theorem World.Lodges.with_scenarios (lodges : w.Lodges rule) {scenarios : List (Scenario σ)}
    (kept : ∀ s ∈ scenarios, ∀ e ∈ s.entries, e.Within rule) (registry : Option (List Nat)) :
    { w with scenarios, registry }.Lodges rule :=
  ⟨lodges.1, lodges.2, lodges.3, kept, lodges.5, lodges.6⟩

theorem World.Lodges.with_blocks (lodges : w.Lodges rule) {blocks : List (Block σ)}
    (kept : ∀ b ∈ blocks, ∀ p ∈ b.predicates, p.Within rule) (nextBlock : Nat) :
    { w with blocks, nextBlock }.Lodges rule :=
  ⟨lodges.1, lodges.2, lodges.3, lodges.4, kept, lodges.6⟩

theorem World.Lodges.modifyScenario (lodges : w.Lodges rule) (id : Nat)
    {change : Scenario σ → Scenario σ}
    (faithful : ∀ s, (∀ e ∈ s.entries, e.Within rule) → ∀ e ∈ (change s).entries, e.Within rule) :
    (w.modifyScenario id change).Lodges rule := by
  refine lodges.with_scenarios ?_ w.registry
  intro s member
  obtain ⟨n, within, rfl⟩ := List.mem_iff_getElem.mp member
  rw [List.getElem_modify]
  split
  · exact faithful _ (lodges.entries _ (List.getElem_mem _))
  · exact lodges.entries _ (List.getElem_mem _)

theorem World.Lodges.mapIdx (lodges : w.Lodges rule) {change : Nat → Scenario σ → Scenario σ}
    (same : ∀ n s, (change n s).entries = s.entries) (registry : Option (List Nat)) :
    { w with scenarios := w.scenarios.mapIdx change, registry }.Lodges rule := by
  refine lodges.with_scenarios ?_ registry
  intro s member
  obtain ⟨n, within, rfl⟩ := List.mem_mapIdx.mp member
  rw [same]
  exact lodges.entries _ (List.getElem_mem _)

theorem World.Lodges.refreshing (lodges : w.Lodges rule) (ids : List Nat) :
    (w.refreshing ids).Lodges rule := by
  refine lodges.mapIdx ?_ w.registry
  intro n s
  split <;> rfl

theorem World.Lodges.extending (lodges : w.Lodges rule) (id : Nat) {e : Entry σ}
    (kept : e.Within rule) : (w.extending id e).Lodges rule := by
  refine lodges.modifyScenario id ?_
  intro s entries f added
  rcases List.mem_append.mp added with earlier | new
  · exact entries f earlier
  · rw [List.mem_singleton.mp new]
    exact kept

theorem World.Lodges.subscribing (lodges : w.Lodges rule) (topic : String)
    {handler : Reaction σ} (kept : handler.Within rule) :
    (w.subscribing topic handler).Lodges rule := by
  refine ⟨?_, lodges.2, lodges.3, lodges.4, lodges.5, lodges.6⟩
  intro s member
  rcases List.mem_append.mp member with earlier | new
  · exact lodges.subscriptions s earlier
  · rw [List.mem_singleton.mp new]
    exact kept

theorem World.Lodges.unsubscribing (lodges : w.Lodges rule) (id : Nat) :
    (w.unsubscribing id).Lodges rule := by
  refine ⟨?_, lodges.2, lodges.3, lodges.4, lodges.5, lodges.6⟩
  intro s member
  exact lodges.subscriptions s (List.mem_filter.mp member).1

theorem World.Lodges.creating (lodges : w.Lodges rule) (ids : List Nat) (description : String)
    (options : Options) : (w.creating ids description options).Lodges rule := by
  refine World.Lodges.refreshing (lodges.with_scenarios ?_ _) _
  intro s member
  rcases List.mem_append.mp member with earlier | new
  · exact lodges.entries s earlier
  · rw [List.mem_singleton.mp new]
    exact fun e none => nomatch none

theorem World.Lodges.binding (lodges : w.Lodges rule) : w.binding.Lodges rule :=
  ⟨lodges.1, lodges.2, lodges.3, lodges.4, lodges.5, lodges.6⟩

theorem World.Lodges.equipping (lodges : w.Lodges rule) (d : Device) :
    (w.equipping d).Lodges rule :=
  ⟨lodges.1, lodges.2, lodges.3, lodges.4, lodges.5, lodges.6⟩

theorem World.Lodges.adjusting (lodges : w.Lodges rule) (d : Device) (device feature : String)
    (value : Value) : (w.adjusting d device feature value).Lodges rule := by
  unfold World.adjusting
  split
  · exact ⟨lodges.1, lodges.2, lodges.3, lodges.4, lodges.5, lodges.6⟩
  · exact ⟨lodges.1, lodges.2, lodges.3, lodges.4, lodges.5, lodges.6⟩

theorem Change.lodges {w' : World σ} (change : Change rule w w') (lodges : w.Lodges rule) :
    w'.Lodges rule := by
  cases change with
  | mark => exact lodges.marked _
  | aside _ kept => exact kept lodges
  | subscribe kept => exact lodges.subscribing _ kept
  | unsubscribe => exact lodges.unsubscribing _
  | extend kept => exact lodges.extending _ kept
  | create => exact lodges.creating _ _ _
  | test =>
    refine World.Lodges.refreshing (lodges.modifyScenario _ ?_) _
    exact fun _ kept => kept
  | clear =>
    refine lodges.mapIdx ?_ (some [])
    intro n s
    split <;> rfl
  | bind => exact lodges.binding
  | equip => exact lodges.equipping _
  | adjust => exact lodges.adjusting _ _ _ _

open Evaluation

theorem World.Lodges.begun (lodges : w.Lodges rule) (id : Nat) : (begun id w).Lodges rule := by
  refine (lodges.modifyScenario id ?_).marked _
  exact fun _ kept => kept

theorem World.Lodges.released (lodges : w.Lodges rule) (id : Nat) :
    (released id w).Lodges rule := by
  refine lodges.modifyScenario id ?_
  exact fun _ kept => kept

theorem World.Lodges.closed (lodges : w.Lodges rule) (id : Nat) (outcome : Except Interrupt Nat) :
    (closed id outcome w).Lodges rule := by
  match outcome with
  | .ok n =>
    refine ((lodges.released id).modifyScenario id fun s kept => ?_).marked _
    split
    · split <;> exact kept
    · exact kept
  | .error (.failed cause) => exact (lodges.released id).marked _
  | .error .exhausted => exact lodges

end Lodging

/-! The operations as these functions. -/

namespace Engine

theorem ofInvalid_still (e : Except Invalid α) (w : World σ) : (ofInvalid e w).2 = w := by
  cases e <;> rfl

theorem ofInvalid_found (a : α) (w : World σ) : ofInvalid (.ok a) w = (.ok a, w) := rfl

theorem registry_still (w : World σ) : (registry w).2 = w := by
  rw [registry, bind_ok (get_run _)]
  cases w.registry <;> rfl

theorem registry_ok {ids : List Nat} {w next : World σ} (known : registry w = (.ok ids, next)) :
    w.registry = some ids ∧ next = w := by
  rw [registry, bind_ok (get_run _)] at known
  cases registered : w.registry with
  | none =>
    rw [registered] at known
    cases known
  | some others =>
    rw [registered] at known
    cases known
    exact ⟨rfl, rfl⟩

theorem registry_dropped {w : World σ} (known : w.registry = none) :
    registry w = (.error (.failed .dropped), w) := by
  rw [registry, bind_ok (get_run _), known]
  rfl

theorem registry_found {ids : List Nat} {w : World σ} (known : w.registry = some ids) :
    registry w = (.ok ids, w) := by
  rw [registry, bind_ok (get_run _), known]
  rfl

theorem discard_ok {x : Act σ α} {a : α} {w next : World σ} (ran : x w = (.ok a, next)) :
    (discard x : Act σ PUnit) w = (.ok ⟨⟩, next) := by
  change (x >>= fun _ => pure PUnit.unit) w = _
  rw [bind_ok ran]
  rfl

theorem discard_error {x : Act σ α} {i : Interrupt} {w next : World σ}
    (stopped : x w = (.error i, next)) : (discard x : Act σ PUnit) w = (.error i, next) := by
  change (x >>= fun _ => pure PUnit.unit) w = _
  rw [bind_error stopped]

/-- An assert is ignored, or it makes a pass. -/
theorem assert_cases (call : Call σ) {id : Nat} (payload : Option Value) {s : Scenario σ}
    {w : World σ} (found : w.scenarios[id]? = some s) :
    assert call id payload w = (.ok 0, w) ∨
      assert call id payload w = (.ok 0, w.marked (.reentered s.description)) ∨
      w.Admits id s ∧ assert call id payload w = runPass call id s payload w := by
  rw [assert, bind_ok (Evaluation.scenario_found id found), bind_ok (get_run _)]
  split
  · exact .inl rfl
  rename_i runnable
  split
  · exact .inl rfl
  rename_i unsuppressed
  split
  · exact .inr (.inl rfl)
  rename_i idle
  refine .inr (.inr ⟨⟨found, ?_, ?_, ?_⟩, rfl⟩)
  · simpa using runnable
  · simpa using unsuppressed
  · simpa using idle

theorem subscribe_run (topic : String) (handler : Reaction σ) (w : World σ) :
    subscribe topic handler w = (.ok w.bus.next, w.subscribing topic handler) := rfl

theorem unsubscribe_run (id : Nat) (w : World σ) :
    unsubscribe id w = (.ok (w.bus.holds id), w.unsubscribing id) := rfl

theorem every_run (s : Schedule) (task : Reaction σ) (w : World σ) :
    every s task w = (.ok w.agenda.nextJob, w.enlisting s task) := rfl

theorem remove_run (id : Nat) (w : World σ) :
    remove id w = (.ok (w.agenda.hasJob id), w.dismissing id) := rfl

theorem pushEntry_run (id : Nat) (e : Entry σ) (w : World σ) :
    pushEntry id e w = (.ok (), w.extending id e) := rfl

theorem setFeature_missing (call : Call σ) {device : String} (feature : String) (value : Value)
    {w : World σ} (unknown : Table.find? device w.devices = none) :
    setFeature call device feature value w = (.error (.failed (.missing "device" device)), w) := by
  rw [setFeature, bind_ok (get_run _), unknown]
  rfl

/-- What is left of a write of a feature once it is made. -/
def publishFeature (call : Call σ) (w : World σ) (d : Device) (device feature : String)
    (value : Value) : Act σ Bool := do
  if !(d.get feature).identical value && w.devicesBound then
    deliver call [featureChange device feature value (d.get feature)]
      (w.bus.subscribers attributeTopic)
  return !(d.get feature).identical value

theorem setFeature_run (call : Call σ) {device : String} (feature : String) (value : Value)
    {d : Device} {w : World σ} (known : Table.find? device w.devices = some d) :
    setFeature call device feature value w =
      publishFeature call w d device feature value (w.adjusting d device feature value) := by
  rw [setFeature, bind_ok (get_run _), known, publishFeature, World.adjusting]
  cases published : !(d.get feature).identical value && w.devicesBound with
  | false =>
    simp only [Device.setAttribute, published]
    rfl
  | true =>
    simp only [Device.setAttribute, published]
    rfl

theorem refresh_run {ids : List Nat} {w : World σ} (known : w.registry = some ids) :
    refresh w = (.ok (), w.refreshing ids) := by
  rw [refresh, bind_ok (registry_found known)]
  rfl

theorem setTestMode_run {ids : List Nat} {id : Nat} {s : Scenario σ} {w : World σ}
    (known : w.registry = some ids) (found : w.scenarios[id]? = some s) (enabled : Bool) :
    setTestMode id enabled w = (.ok (), w.testing ids id enabled) := by
  rw [setTestMode, bind_ok (discard_ok (registry_found known)),
    bind_ok (discard_ok (Evaluation.scenario_found id found)), bind_ok (modifyScenario_run _ _ _)]
  exact refresh_run known

theorem modify_last {β : Type} (l : List β) (b : β) (f : β → β) :
    (l ++ [b]).modify l.length f = l ++ [f b] := by
  rw [List.modify_eq_take_cons_drop (by simp)]
  simp

/-- The new scenario is in test mode before it is decided what is runnable. -/
theorem createScenario_last {ids : List Nat} (description : String) (options : Options)
    (w : World σ) :
    (if options.only then do
        setTestMode w.scenarios.length true
        return w.scenarios.length
      else do
        refresh
        return w.scenarios.length : Act σ Nat)
        { w with
          scenarios := w.scenarios ++ [Scenario.new description options.suppressFor]
          registry := some (ids ++ [w.scenarios.length]) } =
      (.ok w.scenarios.length, w.creating ids description options) := by
  cases only : options.only with
  | false =>
    rw [if_neg Bool.false_ne_true, bind_ok (refresh_run rfl), World.creating, only]
    rfl
  | true =>
    have added : (w.scenarios ++ [Scenario.new description options.suppressFor])[
        w.scenarios.length]? = some (.new description options.suppressFor) := by simp
    rw [if_pos rfl, bind_ok (setTestMode_run rfl added true), World.creating, only, World.testing,
      World.modifyScenario, modify_last]
    rfl

theorem createScenario_cases (description : String) (options : Options) (w : World σ) :
    (∃ cause, createScenario description options w = (.error (.failed cause), w)) ∨
      ∃ ids, w.registry = some ids ∧ isTaken w ids description = false ∧
        createScenario description options w =
          (.ok w.scenarios.length, w.creating ids description options) := by
  cases known : w.registry with
  | none => exact .inl ⟨.dropped, bind_error (registry_dropped known)⟩
  | some ids =>
    rw [createScenario, bind_ok (registry_found known), bind_ok (get_run _)]
    dsimp only
    split
    · exact .inl ⟨_, bind_error (fail_run _ _)⟩
    split
    · exact .inl ⟨_, bind_error (fail_run _ _)⟩
    rename_i untaken
    cases triggers : w.triggerVocabulary with
    | error cause => exact .inl ⟨.invalid cause, bind_error rfl⟩
    | ok v =>
      rw [bind_ok (discard_ok (ofInvalid_found v w))]
      cases constraints : w.constraintVocabulary with
      | error cause => exact .inl ⟨.invalid cause, bind_error rfl⟩
      | ok v =>
        rw [bind_ok (discard_ok (ofInvalid_found v w)), bind_ok (set_run _ _)]
        exact .inr ⟨ids, rfl, by simpa using untaken, createScenario_last description options w⟩

end Engine

end Reflex
