import Mathlib.Algebra.GroupWithZero.Nat
import Reflex.Proofs.ChangeLog
import Reflex.Proofs.Declaring
import Reflex.Proofs.Wiring

/-! What a runtime holds when it was set up from a configuration: the scenarios described there,
each with its triggers and branches, and the preset variables. Setting it up runs none of the
code that it sets up. -/
namespace Reflex
open Act Engine

variable {σ : Type}

/-- A scenario is what a declaration describes, and it has not run yet. -/
structure Declaration.Describes (d : Declaration) (s : Scenario σ) : Prop where
  description : s.description = d.description
  options : ∃ o, Options.ofValue d.options = .ok o ∧ s.suppressFor = o.suppressFor ∧
    s.testMode = o.only
  entries : List.Forall₂ (Branch.Describes · d.description) d.branches s.entries
  idle : s.evaluating = false
  unsuppressed : s.suppressedUntil = none

/-- The trigger calls of declarations in order, each with the number of its scenario. -/
def triggerCalls (ds : List Declaration) : List (NamedCall × Nat) :=
  ds.zipIdx.flatMap fun d => d.1.triggers.map (·, d.2)

/-- Variables as they are when they were preset. -/
def presetSlots (presets : Table Value) : Table Slot :=
  presets.map fun preset => (preset.1, ⟨preset.2, none⟩)

/-- What listens on topics before anything is declared. -/
def deviceListening (devices : List String) : List (String × Reaction σ) :=
  if devices.isEmpty then [] else [(deviceTopic, .deviceReport)]

/-- The world holds what was described, and nothing else. -/
structure World.Realizes (w : World σ) (devices : List String) (presets : Table Value)
    (ds : List Declaration) : Prop where
  native : w.Native
  registry : w.registry = some (List.range ds.length)
  scenarios : List.Forall₂ Declaration.Describes ds w.scenarios
  bindings : ∃ bindings : List (Trigger × Nat),
    List.Forall₂ (fun c t => c.1.Triggers t.1 ∧ t.2 = c.2) (triggerCalls ds) bindings ∧
      w.listening = deviceListening devices ++
        (bindings.filterMap fun t => t.1.topic?.map (·, .trigger t.1 t.2)) ∧
      w.scheduled = bindings.filterMap fun t => t.1.schedule?.map (·, .trigger t.1 t.2)
  slots : w.slots = Table.ofList (presetSlots presets)
  timers : w.agenda.timers = []
  blocks : w.blocks = []
  quiet : ∀ m ∈ w.journal, m.runsCode = false

/-! Declarations, one at a time. -/

theorem triggerCalls_append (done : List Declaration) (d : Declaration) :
    triggerCalls (done ++ [d]) = triggerCalls done ++ d.triggers.map (·, done.length) := by
  simp [triggerCalls, List.zipIdx_append]

/-- A scenario as far as a description goes, which has nothing to do with what is runnable. -/
def Scenario.described (s : Scenario σ) : Scenario σ := { s with runnable := true }

theorem Declaration.describes_iff {d : Declaration} {s : Scenario σ} :
    d.Describes s.described ↔ d.Describes s := by
  constructor <;> rintro ⟨description, options, entries, idle, unsuppressed⟩
  · exact ⟨description, options, entries, idle, unsuppressed⟩
  · exact ⟨description, options, entries, idle, unsuppressed⟩

theorem Declaration.describes_of_map {ds : List Declaration} {front back : List (Scenario σ)}
    (same : front.map Scenario.described = back.map Scenario.described)
    (described : List.Forall₂ Declaration.Describes ds back) :
    List.Forall₂ Declaration.Describes ds front := by
  have told : List.Forall₂ Declaration.Describes ds (back.map Scenario.described) :=
    List.forall₂_map_right_iff.mpr (described.imp fun _ _ => describes_iff.mpr)
  rw [← same, List.forall₂_map_right_iff] at told
  exact told.imp fun _ _ => describes_iff.mp

/-- A new scenario is what was declared, once it has its entries. -/
theorem Declaration.describes_new {d : Declaration} {options : Options} {s : Scenario σ}
    {es : List (Entry σ)} (read : Options.ofValue d.options = .ok options)
    (new : s.described =
      { Scenario.new d.description options.suppressFor with testMode := options.only })
    (described : List.Forall₂ (Branch.Describes · d.description) d.branches es) :
    d.Describes { s with entries := s.entries ++ es } := by
  rw [← describes_iff]
  change d.Describes { s.described with entries := s.described.entries ++ es }
  rw [new]
  exact ⟨rfl, ⟨options, read, rfl, rfl⟩, described, rfl, rfl⟩

namespace World

variable {w w' next : World σ} {devices : List String} {presets : Table Value}
  {ds : List Declaration}

/-- The new scenario comes last; of the others only some are runnable now, and some are not. -/
theorem creating_last (w : World σ) (ids : List Nat) (description : String) (options : Options) :
    ∃ front s, (w.creating ids description options).scenarios = front ++ [s] ∧
      front.map Scenario.described = w.scenarios.map Scenario.described ∧
      s.described =
        { Scenario.new description options.suppressFor with testMode := options.only } := by
  simp only [creating, refreshing, refreshed, List.mapIdx_append, List.mapIdx_cons,
    List.mapIdx_nil]
  refine ⟨_, _, rfl, mapIdx_map _ _ fun n s => ?_, ?_⟩
  · split <;> rfl
  · split <;> rfl

namespace Realizes

variable (realizes : w.Realizes devices presets ds)
include realizes

theorem length : w.scenarios.length = ds.length := realizes.scenarios.length_eq.symm

/-- A declaration that succeeds adds what it describes after the rest. -/
theorem declare {call : Call σ} {d : Declaration} {id : Nat}
    (ran : declare call d w = (.ok id, next)) : next.Realizes devices presets (ds ++ [d]) := by
  obtain ⟨outcome, last, same, declares⟩ := declare_cases call d realizes.native
  rw [ran] at same
  obtain ⟨rfl, rfl⟩ := Prod.mk.inj same
  obtain ⟨bindings, meant, listening, scheduled⟩ := realizes.bindings
  cases declares with
  | @declared options ids ts wired made creates all installed furnishes complete =>
  obtain ⟨closed, es, described, added⟩ := complete realizes.blocks
  obtain rfl : List.range ds.length = ids :=
    Option.some.inj (realizes.registry.symm.trans creates.known)
  obtain ⟨front, s, scenarios, others, new⟩ :=
    w.creating_last (List.range ds.length) d.description options
  have before : wired.scenarios = front ++ [s] := by
    rw [installed.rest]
    exact scenarios
  have length : front.length = w.scenarios.length := by
    simpa using congrArg List.length others
  have registry : wired.registry = some (List.range ds.length ++ [w.scenarios.length]) := by
    rw [installed.rest]
    rfl
  have slots : wired.slots = w.slots := by
    rw [installed.rest]
    rfl
  have timers : wired.agenda.timers = w.agenda.timers := by
    rw [installed.rest]
    rfl
  have native := furnishes.native (installed.native realizes.native)
  cases furnishes with
  | intro =>
  constructor
  · exact native
  · rw [List.length_append, List.length_singleton, List.range_succ, ← realizes.length]
    rw [← realizes.length] at registry
    exact registry
  · have made : (wired.furnishing w.scenarios.length es).scenarios =
        front ++ [{ s with entries := s.entries ++ es }] := by
      rw [furnishing, modifyScenario, before, ← length]
      exact modify_last _ _ _
    refine (added.trans made).symm ▸ List.rel_append ?_ (.cons ?_ .nil)
    · exact Declaration.describes_of_map others realizes.scenarios
    · exact Declaration.describes_new creates.read new described
  · refine ⟨bindings ++ ts.map (·, w.scenarios.length), ?_, ?_, ?_⟩
    · rw [triggerCalls_append, ← realizes.length]
      refine List.rel_append meant ?_
      rw [List.forall₂_map_left_iff, List.forall₂_map_right_iff]
      exact all.imp fun _ _ triggers => ⟨triggers, rfl⟩
    · rw [List.filterMap_append, ← List.append_assoc, ← listening]
      exact installed.listening
    · rw [List.filterMap_append, ← scheduled]
      exact installed.scheduled
  · exact slots.trans realizes.slots
  · exact timers.trans realizes.timers
  · exact closed
  · obtain ⟨later, journal, quiet⟩ := installed.quiet
    change ∀ m ∈ Mark.declared _ _ _ :: wired.journal, _
    rw [journal]
    exact List.forall_mem_cons.mpr ⟨rfl, List.forall_mem_append.mpr ⟨quiet, realizes.quiet⟩⟩

theorem declareAll {call : Call σ} {rest : List Declaration}
    (ran : declareAll call rest w = (.ok (), next)) :
    next.Realizes devices presets (ds ++ rest) := by
  induction rest generalizing w ds with
  | nil =>
    cases ran
    rwa [List.append_nil]
  | cons d rest ih =>
    obtain ⟨_, last, declared, others⟩ := of_bind_ok ran
    obtain ⟨id, made, first, rfl, rfl⟩ := of_bind_ok declared
    rw [List.append_cons]
    exact ih (realizes.declare first) others

end Realizes

/-! Presets are written before anything is declared, so nobody listens to them. -/

section Presets

variable (realizes : w.Realizes devices presets [])
include realizes

theorem Realizes.unheard : w.bus.subscribers variableTopic = [] := by
  obtain ⟨bindings, meant, listening, -⟩ := realizes.bindings
  cases meant
  refine List.filter_eq_nil_iff.mpr fun s member heard => ?_
  have listed : (s.topic, s.handler) ∈ w.listening := List.mem_map_of_mem member
  rw [listening] at listed
  unfold deviceListening at listed
  split at listed
  · cases listed
  · have topic : s.topic = deviceTopic := congrArg Prod.fst (List.mem_singleton.mp listed)
    rw [topic] at heard
    exact absurd heard (by decide)

/-- No variable that was preset has a timer. -/
theorem Realizes.lasting (name : String) : (w.slot? name).bind (·.expiry) = none := by
  cases found : w.slot? name with
  | none => rfl
  | some slot =>
    rw [slot?, realizes.slots] at found
    refine Table.find?_ofList (P := fun slot => slot.expiry = none) ?_ found
    intro entry member
    obtain ⟨preset, -, rfl⟩ := List.mem_map.mp member
    rfl

theorem Realizes.preset (name : String) (value : Value) :
    w.writing name value none =
      (w.storing name ⟨value, none⟩).marked (.written ⟨name, value, w.clock, none, none⟩) := by
  simp only [writing, replacing, realizes.lasting name]

theorem Realizes.publish (call : Call σ) (name : String) (value : Value) :
    setVariable call name value none w = (.ok (), w.publishing name value none) := by
  have unheard : (w.writing name value none).bus.subscribers variableTopic = [] := by
    rw [realizes.preset name value]
    exact realizes.unheard
  rw [setVariable_run, publishVariable, emit_run, unheard]
  rfl

theorem Realizes.published (name : String) (value : Value) :
    (w.publishing name value none).Realizes devices (presets ++ [(name, value)]) [] := by
  rw [publishing, realizes.preset name value]
  refine ⟨realizes.native, realizes.registry, realizes.scenarios, realizes.bindings, ?_,
    realizes.timers, realizes.blocks, ?_⟩
  · unfold presetSlots
    rw [List.map_append]
    refine Eq.trans ?_ (Table.ofList_append _ _ _).symm
    exact congrArg (Table.put name ⟨value, none⟩) realizes.slots
  · exact List.forall_mem_cons.mpr ⟨rfl, List.forall_mem_cons.mpr ⟨rfl, realizes.quiet⟩⟩

end Presets

theorem Realizes.seed {call : Call σ} {rest : Table Value}
    (realizes : w.Realizes devices presets [])
    (ran : seed call rest w = (.ok (), next)) : next.Realizes devices (presets ++ rest) [] := by
  induction rest generalizing w presets with
  | nil =>
    cases ran
    rwa [List.append_nil]
  | cons preset rest ih =>
    obtain ⟨name, value⟩ := preset
    obtain ⟨_, last, first, others⟩ := of_bind_ok ran
    rw [realizes.publish call name value] at first
    obtain ⟨-, rfl⟩ := Prod.mk.inj first
    rw [List.append_cons]
    exact ih (realizes.published name value) others

end World

/-! Building the runtime, and all stages together. -/

namespace Bootstrap

theorem components_native (c : Config) :
    ∀ component ∈ (components c : List (Component σ)), component.Native := by
  refine List.forall_mem_append.mpr ⟨Component.standard_native, ?_⟩
  split
  · exact fun _ none => nomatch none
  · exact List.forall_mem_singleton.mpr (Component.native_of_kinds ..)

theorem build_realizes {call : Call σ} {c : Config} {clock : Instant} {memory : σ}
    {w next : World σ} (started : start c clock memory = .ok w)
    (built : build call (components c) w = (.ok (), next)) : next.Realizes c.devices [] [] := by
  have native := components_native (σ := σ) c
  obtain ⟨devices, -, rfl⟩ := start_ok started
  unfold components at native built
  cases empty : c.devices.isEmpty with
  | true =>
    rw [empty] at native built
    cases built
    refine ⟨native, rfl, .nil, ⟨[], .nil, ?_, rfl⟩, rfl, rfl, rfl, fun _ none => nomatch none⟩
    rw [deviceListening, empty]
    rfl
  | false =>
    rw [empty] at native built
    cases built
    refine ⟨native, rfl, .nil, ⟨[], .nil, ?_, rfl⟩, rfl, rfl, rfl, ?_⟩
    · rw [deviceListening, empty]
      rfl
    · exact List.forall_mem_singleton.mpr rfl

/-- A stage after which setting up goes on has succeeded. -/
theorem of_stage {stage : Stage} {act : Act σ Unit} {rest : List (Stage × Act σ Unit)}
    {w last : World σ} (ran : runStages ((stage, act) :: rest) w = (.ok (), last)) :
    ∃ next, act w = (.ok (), next) ∧ runStages rest next = (.ok (), last) := by
  unfold runStages at ran
  rcases went : act w with ⟨outcome, next⟩
  rw [went] at ran
  cases outcome with
  | ok => exact ⟨next, rfl, ran⟩
  | error cause => cases ran

end Bootstrap

/-! Every call of a trigger counts once, as a subscription or as a job. -/

theorem triggerCalls_length (ds : List Declaration) :
    (triggerCalls ds).length = (ds.map (·.triggers.length)).sum := by
  induction ds using List.reverseRecOn with
  | nil => rfl
  | append_singleton ds d ih => simp [triggerCalls_append, ih]

theorem sources_length (σ : Type) (bindings : List (Trigger × Nat)) :
    (bindings.filterMap fun t => t.1.topic?.map fun topic =>
        (topic, (.trigger t.1 t.2 : Reaction σ))).length +
      (bindings.filterMap fun t => t.1.schedule?.map fun s =>
        (s, (.trigger t.1 t.2 : Reaction σ))).length = bindings.length := by
  induction bindings with
  | nil => rfl
  | cons t rest ih =>
    rw [List.filterMap_cons, List.filterMap_cons, Trigger.topic?, Trigger.schedule?]
    cases t.1.source with
    | inl topic =>
      simp only [Sum.getLeft?_inl, Sum.getRight?_inl, Option.map_some, Option.map_none,
        List.length_cons]
      omega
    | inr s =>
      simp only [Sum.getLeft?_inr, Sum.getRight?_inr, Option.map_some, Option.map_none,
        List.length_cons]
      omega

theorem World.Realizes.count {w : World σ} {devices : List String} {presets : Table Value}
    {ds : List Declaration} (realizes : w.Realizes devices presets ds) :
    w.bus.subscriptions.length + w.agenda.jobs.length =
      (ds.map (·.triggers.length)).sum + if devices.isEmpty then 0 else 1 := by
  obtain ⟨bindings, meant, listening, scheduled⟩ := realizes.bindings
  have listeners := congrArg List.length listening
  have jobs := congrArg List.length scheduled
  have calls := meant.length_eq
  have sources := sources_length σ bindings
  rw [World.listening, List.length_map, List.length_append] at listeners
  rw [World.scheduled, List.length_map] at jobs
  rw [triggerCalls_length] at calls
  have before : (deviceListening devices : List (String × Reaction σ)).length =
      if devices.isEmpty then 0 else 1 := by
    unfold deviceListening
    split <;> rfl
  omega

/-- A runtime that could be set up holds what its configuration describes: the scenarios in
order, each with its entries, the triggers for their calls, and the variables that were
preset. No code has run, nothing is suppressed and no timer is pending. -/
theorem bootstrap_realizes {c : Config} {clock : Instant} {memory : σ} {depth : Nat}
    {w next : World σ} (started : Bootstrap.start c clock memory = .ok w)
    (ready : bootstrap depth c w = (.ok (), next)) :
    next.Realizes c.devices c.presets c.scenarios ∧
      next.bus.subscriptions.length + next.agenda.jobs.length =
        (c.scenarios.map (·.triggers.length)).sum + (if c.devices.isEmpty then 0 else 1) ∧
      (Table.Ordered c.presets → next.slots = presetSlots c.presets) := by
  obtain ⟨built, first, ready⟩ := Bootstrap.of_stage ready
  obtain ⟨seeded, second, ready⟩ := Bootstrap.of_stage ready
  obtain ⟨last, third, ready⟩ := Bootstrap.of_stage ready
  obtain rfl : last = next := congrArg Prod.snd ready
  have realizes := ((Bootstrap.build_realizes started first).seed second).declareAll third
  refine ⟨realizes, realizes.count, fun ordered => ?_⟩
  have sorted : Table.Ordered (presetSlots c.presets) := by
    unfold Table.Ordered Table.keys presetSlots
    rw [List.map_map]
    exact ordered
  exact realizes.slots.trans sorted.ofList

/-- Two scenarios, the second singled out for testing, with all sorts of triggers and branches. -/
def household : Config :=
  { Config.default with
    presets := [("armed", .bool true), ("mode", .text "home")]
    devices := ["lamp"]
    scenarios := [
      ⟨"wake", .object [("suppress_for", .text "1 hour")],
        [⟨"at", [.text "06:30"]⟩, ⟨"device.changes", [.text "lamp"]⟩],
        [⟨some [⟨"day.is", [.text "monday"]⟩, ⟨"variable.is", [.text "mode", .text "home"]⟩],
            some "morning", none, none⟩,
          ⟨none, none, some ⟨"mode", .text "away", some "2 hours"⟩, none⟩]⟩,
      ⟨"watch", .object [("only", .bool true)],
        [⟨"every", [.text "10 seconds"]⟩, ⟨"variable.changes", [.text "armed"]⟩],
        [⟨some [], none, none, some "looked"⟩]⟩] }

def unoccupied : World Unit :=
  { World.start (.ofSecond 28800) [⟨"lamp", [], none⟩] () with
    agenda := { (Agenda.empty : Agenda (Reaction Unit)) with maxCatchUp := household.maxCatchUp } }

def occupied : World Unit := (bootstrap 4 household unoccupied).2

theorem bootstrap_realizes_household :
    Bootstrap.start household (.ofSecond 28800) () = .ok unoccupied ∧
      bootstrap 4 household unoccupied = (.ok (), occupied) ∧
      occupied.Realizes household.devices household.presets household.scenarios ∧
      occupied.bus.subscriptions.length + occupied.agenda.jobs.length = 5 ∧
      occupied.slots = presetSlots household.presets := by
  have started : Bootstrap.start household (.ofSecond 28800) () = .ok unoccupied := rfl
  have succeeded : (bootstrap 4 household unoccupied).1.isOk = true := by decide +kernel
  have ready : bootstrap 4 household unoccupied = (.ok (), occupied) := bootstrap_ready succeeded
  have calls : (household.scenarios.map (·.triggers.length)).sum +
      (if household.devices.isEmpty then 0 else 1) = 5 := rfl
  have sorted : Table.Ordered household.presets := by
    unfold Table.Ordered
    decide
  obtain ⟨realizes, count, slots⟩ := bootstrap_realizes started ready
  exact ⟨started, ready, realizes, count.trans calls, slots sorted⟩

end Reflex
