import Reflex.Bootstrap
import Reflex.Proofs.Operations
import Reflex.Proofs.Returning

/-! Setting a runtime up from a configuration. All that it leaves behind was declared, and no
pass is in progress when it is done, although the presets are published on the way. -/
namespace Reflex
open Act Engine World History

variable {σ α β φ : Type}

/-- A world with declared code only and no pass in progress. -/
structure World.Resting (w : World σ) : Prop extends w.Declared where
  idle : ∀ s ∈ w.scenarios, s.evaluating = false
  passes : passes w.journal = []
  distinct : Distinct w.scenarios.length w.journal

namespace World

variable {w next : World σ}

namespace Resting

theorem sound (resting : w.Resting) : w.Sound where
  toDeclared := resting.toDeclared
  flags id s found := by
    rw [resting.idle s (List.mem_of_getElem? found), resting.passes]
    exact ⟨nofun, nofun⟩
  distinct := resting.distinct

/-- Every scenario is idle. -/
theorem stands (resting : w.Resting) : w.Stands w.scenarios.length where
  toSound := resting.sound
  idle := by
    unfold World.idle
    rw [resting.passes]
    rfl

theorem kept (resting : w.Resting) (kept : w.Kept next) : next.Resting where
  toDeclared := kept.declared resting.toDeclared
  idle s member := by
    obtain ⟨id, found⟩ := List.getElem?_of_mem member
    obtain ⟨t, known, -, same⟩ := kept.scenario found
    rw [same]
    exact resting.idle t (List.mem_of_getElem? known)
  passes := kept.passes.trans resting.passes
  distinct := kept.distinct

/-- Declared code was added or removed, but no scenario. -/
theorem of_declared (resting : w.Resting) (declared : next.Declared)
    (scenarios : next.scenarios = w.scenarios) (journal : next.journal = w.journal) :
    next.Resting := by
  refine ⟨declared, ?_, ?_, ?_⟩
  · rw [scenarios]
    exact resting.idle
  · rw [journal]
    exact resting.passes
  · rw [scenarios, journal]
    exact resting.distinct

/-- Scenarios were added or changed. -/
theorem of_scenarios (resting : w.Resting) {scenarios : List (Scenario σ)}
    (entries : ∀ s ∈ scenarios, ∀ e ∈ s.entries, e.Declared)
    (idle : ∀ s ∈ scenarios, s.evaluating = false)
    (more : w.scenarios.length ≤ scenarios.length) (registry : Option (List Nat)) :
    { w with scenarios, registry }.Resting :=
  ⟨⟨resting.subscriptions, resting.jobs, resting.timers, entries, resting.predicates,
    resting.components⟩, idle, resting.passes, resting.distinct.mono more⟩

theorem subscribing (resting : w.Resting) {topic : String} {handler : Reaction σ}
    (declared : ∀ id, Subscription.Declared ⟨id, topic, handler⟩) :
    (w.subscribing topic handler).Resting := by
  have listening : { w with bus := w.bus.subscribe topic handler }.Resting := by
    refine resting.of_declared ⟨?_, resting.jobs, resting.timers, resting.entries,
      resting.predicates, resting.components⟩ rfl rfl
    intro s member
    rcases List.mem_append.mp member with earlier | new
    · exact resting.subscriptions s earlier
    · rw [List.mem_singleton.mp new]
      exact declared _
  exact listening.kept ((Mild.marked _ rfl).kept listening.sound)

theorem registering (resting : w.Resting) (s : Schedule) (t : Trigger) (id : Nat) :
    (w.enlisting s (.trigger t id)).Resting := by
  have registered : { w with agenda := w.agenda.register s (.trigger t id) }.Resting := by
    refine resting.of_declared ⟨resting.subscriptions, ?_, resting.timers, resting.entries,
      resting.predicates, resting.components⟩ rfl rfl
    intro j member
    rcases List.mem_append.mp member with earlier | new
    · exact resting.jobs j earlier
    · rw [List.mem_singleton.mp new]
      exact ⟨t, id, rfl⟩
  exact registered.kept ((Mild.marked _ rfl).kept registered.sound)

theorem collecting (resting : w.Resting) {blocks : List (Block σ)}
    (declared : ∀ b ∈ blocks, ∀ p ∈ b.predicates, p.Declared) (nextBlock : Nat) :
    { w with blocks, nextBlock }.Resting :=
  resting.of_declared ⟨resting.subscriptions, resting.jobs, resting.timers, resting.entries,
    declared, resting.components⟩ rfl rfl

theorem extending (resting : w.Resting) (id : Nat) {e : Entry σ} (declared : e.Declared) :
    (w.modifyScenario id fun s => { s with entries := s.entries ++ [e] }).Resting := by
  refine resting.of_scenarios ?_ ?_ (Nat.le_of_eq (List.length_modify ..).symm) w.registry
  · intro s member f entry
    obtain ⟨n, within, rfl⟩ := List.mem_iff_getElem.mp member
    rw [List.getElem_modify] at entry
    split at entry
    · rcases List.mem_append.mp entry with earlier | new
      · exact resting.entries _ (List.getElem_mem _) f earlier
      · rw [List.mem_singleton.mp new]
        exact declared
    · exact resting.entries _ (List.getElem_mem _) f entry
  · intro s member
    obtain ⟨n, within, rfl⟩ := List.mem_iff_getElem.mp member
    rw [List.getElem_modify]
    have before := resting.idle _ (List.getElem_mem (by rwa [List.length_modify] at within))
    split
    · exact before
    · exact before

theorem creating (resting : w.Resting) (ids : List Nat) (description : String)
    (options : Options) : (w.creating ids description options).Resting := by
  have added : ∀ s ∈ w.scenarios ++
      [{ Scenario.new description options.suppressFor with testMode := options.only }],
      (∀ e ∈ s.entries, e.Declared) ∧ s.evaluating = false := by
    intro s member
    rcases List.mem_append.mp member with earlier | new
    · exact ⟨resting.entries s earlier, resting.idle s earlier⟩
    · rw [List.mem_singleton.mp new]
      exact ⟨nofun, rfl⟩
  have more : w.scenarios.length ≤ (w.scenarios ++
      [{ Scenario.new description options.suppressFor with testMode := options.only }]).length := by
    rw [List.length_append]
    exact Nat.le_add_right _ _
  have listed := resting.of_scenarios (fun s member => (added s member).1)
    (fun s member => (added s member).2) more (some (ids ++ [w.scenarios.length]))
  exact listed.kept ((Engine.refreshing_mild _ _).kept listed.sound)

end Resting

end World

/-- If the step succeeds, the world is resting after it. -/
def Prepares (x : Act σ α) (w : World σ) : Prop :=
  ∀ a next, x w = (.ok a, next) → next.Resting

namespace Prepares

variable {x : Act σ α} {f : α → Act σ β} {w next : World σ}

theorem of_run {r : Except Interrupt α} (ran : x w = (r, next)) (resting : next.Resting) :
    Prepares x w := by
  intro a last succeeded
  rw [ran] at succeeded
  cases succeeded
  exact resting

theorem of_returns {deep : Prop} (resting : w.Resting) (returns : Returns deep x w) :
    Prepares x w := by
  intro a next ran
  have kept := returns.kept
  rw [ran] at kept
  exact resting.kept (kept rfl)

theorem pure (resting : w.Resting) (a : α) : Prepares (pure a : Act σ α) w :=
  of_run (pure_run a w) resting

theorem bind (first : Prepares x w)
    (rest : ∀ a next, x w = (.ok a, next) → next.Resting → Prepares (f a) next) :
    Prepares (x >>= f) w := by
  intro b last ran
  obtain ⟨a, next, began, went⟩ := of_bind_ok ran
  exact rest a next began (first a next began) b last went

/-- Composition with a step that reads the world, and may fail there. -/
theorem bind_still (unchanged : (x w).2 = w)
    (rest : ∀ a, x w = (.ok a, w) → Prepares (f a) w) : Prepares (x >>= f) w := by
  intro b last ran
  obtain ⟨a, next, began, went⟩ := of_bind_ok ran
  rw [began] at unchanged
  obtain rfl : next = w := unchanged
  exact rest a began b last went

theorem read {a : α} (ran : x w = (.ok a, next)) (rest : Prepares (f a) next) :
    Prepares (x >>= f) w := by
  intro b last followed
  rw [bind_ok ran] at followed
  exact rest b last followed

/-- Composition with a step whose failure is not made up for. -/
theorem attempt {g : Except Failure α → Act σ β} (prepares : Prepares x w)
    (succeeded : ∀ a next, next.Resting → Prepares (g (.ok a)) next)
    (failed : ∀ cause next, Prepares (g (.error cause)) next) :
    Prepares (attempt x >>= g) w := by
  intro b last ran
  rcases first : x w with ⟨outcome, next⟩
  match outcome, first with
  | .ok a, first =>
    rw [bind_ok (attempt_ok first)] at ran
    exact succeeded a next (prepares a next first) b last ran
  | .error (.failed cause), first =>
    rw [bind_ok (attempt_failed first)] at ran
    exact failed cause next b last ran
  | .error .exhausted, first =>
    rw [bind_error (attempt_exhausted first)] at ran
    cases ran

theorem discard (prepares : Prepares x w) : Prepares (discard x) w :=
  bind prepares fun _ _ _ resting => pure resting _

end Prepares

/-! What components contribute. -/

namespace Vocabulary

variable {P : String × φ → Prop}

theorem mem_replace {name : String} {factory : φ} {entries : List (String × φ)}
    (added : P (name, factory)) (kept : ∀ entry ∈ entries, P entry) :
    ∀ entry ∈ replace name factory entries, P entry := by
  induction entries with
  | nil =>
    intro entry member
    rw [List.mem_singleton.mp member]
    exact added
  | cons first rest ih =>
    obtain ⟨head, tail⟩ := List.forall_mem_cons.mp kept
    unfold replace
    split
    · rename_i same
      rw [same]
      exact List.forall_mem_cons.mpr ⟨added, tail⟩
    · exact List.forall_mem_cons.mpr ⟨head, ih tail⟩

theorem mem_ofList {entries : List (String × φ)} (kept : ∀ entry ∈ entries, P entry) :
    ∀ entry ∈ (ofList entries).entries, P entry := by
  unfold ofList
  apply List.foldlRecOn (motive := fun v : Vocabulary φ => ∀ entry ∈ v.entries, P entry)
  · exact fun _ none => nomatch none
  · intro v earlier entry member
    exact mem_replace (kept entry member) earlier

end Vocabulary

namespace Component

theorem triggersOf_named (kinds : List TriggerKind) :
    ∀ entry ∈ (triggersOf kinds : Vocabulary (TriggerFactory σ)).entries,
      ∃ k, entry = (k.name, .builtin k) := by
  refine Vocabulary.mem_ofList fun entry member => ?_
  obtain ⟨k, -, rfl⟩ := List.mem_map.mp member
  exact ⟨k, rfl⟩

theorem constraintsOf_named (kinds : List ConditionKind) :
    ∀ entry ∈ (constraintsOf kinds : Vocabulary (ConstraintFactory σ)).entries,
      ∃ k, entry = (k.name, .builtin k) := by
  refine Vocabulary.mem_ofList fun entry member => ?_
  obtain ⟨k, -, rfl⟩ := List.mem_map.mp member
  exact ⟨k, rfl⟩

/-- A component with names of built-in kinds, which nothing sets up but perhaps the devices. -/
theorem declared_of_kinds (name : String) {setup : Setup σ} (known : ∀ run, setup ≠ .custom run)
    (triggers : List TriggerKind) (constraints : List ConditionKind) :
    Component.Declared ⟨name, setup, triggersOf triggers, constraintsOf constraints⟩ := by
  refine ⟨known, fun entry member => ?_, fun entry member => ?_⟩
  · exact (triggersOf_named triggers entry member).imp fun _ same => congrArg Prod.snd same
  · exact (constraintsOf_named constraints entry member).imp fun _ same => congrArg Prod.snd same

theorem standard_declared : ∀ c ∈ (standard : List (Component σ)), c.Declared := by
  simp only [standard, List.forall_mem_cons]
  exact ⟨declared_of_kinds _ (by nofun) _ _, declared_of_kinds _ (by nofun) _ _,
    declared_of_kinds _ (by nofun) _ _, fun _ none => nomatch none⟩

theorem devices_declared : (devices : Component σ).Declared := declared_of_kinds _ (by nofun) _ _

end Component

theorem World.Declared.builtin_triggers {w : World σ} (declared : w.Declared)
    {v : Vocabulary (TriggerFactory σ)} (merged : w.triggerVocabulary = .ok v) :
    ∀ entry ∈ v.entries, ∃ k, entry.2 = .builtin k := by
  refine mergeAll_entries _ (by simp [Vocabulary.empty]) (fun other member => ?_) merged
  obtain ⟨c, known, rfl⟩ := List.mem_map.mp member
  exact (declared.components c known).triggers

theorem World.Declared.builtin_constraints {w : World σ} (declared : w.Declared)
    {v : Vocabulary (ConstraintFactory σ)} (merged : w.constraintVocabulary = .ok v) :
    ∀ entry ∈ v.entries, ∃ k, entry.2 = .builtin k := by
  refine mergeAll_entries _ (by simp [Vocabulary.empty]) (fun other member => ?_) merged
  obtain ⟨c, known, rfl⟩ := List.mem_map.mp member
  exact (declared.components c known).constraints

namespace Engine

variable {w : World σ}

theorem installTrigger_prepares (id : Nat) (t : Trigger) (resting : w.Resting) :
    Prepares (installTrigger id t) w := by
  unfold installTrigger
  split
  · exact .discard (.of_run rfl (resting.subscribing fun _ => .inl ⟨t, id, rfl⟩))
  · exact .discard (.of_run (every_run _ _ w) (resting.registering _ t id))

theorem invokeTrigger_prepares (call : Call σ) (id : Nat) (name : String)
    (arguments : List Value) (resting : w.Resting) :
    Prepares (invokeTrigger call id name arguments) w := by
  refine .read (get_run w) (.bind_still (ofInvalid_still _ w) fun v merged => ?_)
  refine .bind_still (ofInvalid_still _ w) fun factory resolved => ?_
  obtain ⟨k, same⟩ := resting.builtin_triggers (ofInvalid_ok merged) _
    (resolve_mem (ofInvalid_ok resolved))
  obtain rfl : factory = .builtin k := same
  exact .bind_still (ofInvalid_still _ w) fun t _ => installTrigger_prepares id t resting

theorem pushPredicate_prepares (id : Nat) (c : Condition) (resting : w.Resting) :
    Prepares (pushPredicate id (.condition c)) w := by
  refine .of_run (modify_run _ w) (resting.collecting ?_ w.nextBlock)
  intro b member
  obtain ⟨old, known, rfl⟩ := List.mem_map.mp member
  split
  · intro p added
    rcases List.mem_append.mp added with earlier | new
    · exact resting.predicates old known p earlier
    · rw [List.mem_singleton.mp new]
      exact ⟨c, rfl⟩
  · exact resting.predicates old known

theorem invokeConstraint_prepares (call : Call σ) (id : Nat) (name : String)
    (arguments : List Value) (resting : w.Resting) :
    Prepares (invokeConstraint call id name arguments) w := by
  refine .read (get_run w) (.bind_still (ofInvalid_still _ w) fun v merged => ?_)
  refine .bind_still (ofInvalid_still _ w) fun factory resolved => ?_
  obtain ⟨k, same⟩ := resting.builtin_constraints (ofInvalid_ok merged) _
    (resolve_mem (ofInvalid_ok resolved))
  obtain rfl : factory = .builtin k := same
  exact .bind_still (ofInvalid_still _ w) fun c _ => pushPredicate_prepares id c resting

/-! Building the runtime. -/

theorem runSetup_prepares (call : Call σ) {s : Setup σ} (known : ∀ run, s ≠ .custom run)
    (resting : w.Resting) : Prepares (runSetup call s) w := by
  cases s with
  | nothing => exact .pure resting ()
  | devices =>
    have bound : { w with devicesBound := true }.Resting :=
      resting.of_declared ⟨resting.1.1, resting.1.2, resting.1.3, resting.1.4, resting.1.5,
        resting.1.6⟩ rfl rfl
    refine .read (modify_run _ w) (.discard (.of_run rfl (bound.subscribing ?_)))
    exact fun _ => .inr ⟨rfl, rfl⟩
  | custom run => exact absurd rfl (known run)

theorem runSetups_prepares (call : Call σ) (components : List (Component σ))
    (declared : ∀ c ∈ components, c.Declared) (resting : w.Resting) :
    Prepares (runSetups call components) w := by
  induction components generalizing w with
  | nil => exact .pure resting ()
  | cons c rest ih =>
    obtain ⟨first, others⟩ := List.forall_mem_cons.mp declared
    refine .bind (runSetup_prepares call first.setup resting) fun _ w _ resting => ?_
    exact ih others resting

theorem build_prepares (call : Call σ) (components : List (Component σ))
    (declared : ∀ c ∈ components, c.Declared) (resting : w.Resting) :
    Prepares (build call components) w := by
  refine .bind (runSetups_prepares call components declared resting) fun _ w _ resting => ?_
  refine .of_run (modify_run _ w) (resting.of_declared ?_ rfl rfl)
  exact ⟨resting.subscriptions, resting.jobs, resting.timers, resting.entries,
    resting.predicates, declared⟩

/-! Presets and declarations. -/

theorem seed_prepares {call : Call σ} {n : Nat} (reaching : Reaching call n)
    (presets : Table Value) (resting : w.Resting) : Prepares (seed call presets) w := by
  induction presets generalizing w with
  | nil => exact .pure resting ()
  | cons preset rest ih =>
    have written := setVariable_returns (reaching.triggers_within id) resting.stands preset.1
      preset.2 none
    refine .bind (.of_returns resting written) fun _ w _ resting => ?_
    exact ih resting

theorem createScenario_prepares (description : String) (options : Options)
    (resting : w.Resting) : Prepares (createScenario description options) w := by
  rcases createScenario_cases description options w with ⟨cause, failed⟩ | ⟨ids, -, -, ran⟩
  · intro a next succeeded
    cases failed.symm.trans succeeded
  · exact .of_run ran (resting.creating ids description options)

theorem openTriggers_prepares (id : Nat) (resting : w.Resting) :
    Prepares (openTriggers id) w := by
  refine .bind_still (discard_still (registry_still w)) fun _ _ => ?_
  refine .bind_still (discard_still (scenario_still id w)) fun _ _ => .read (get_run w) ?_
  exact .bind_still (ofInvalid_still _ w) fun _ _ => .pure resting _

theorem openBlock_prepares (id : Nat) (resting : w.Resting) : Prepares (openBlock id) w := by
  refine .bind_still (discard_still (registry_still w)) fun _ _ => ?_
  refine .bind_still (discard_still (scenario_still id w)) fun _ _ => .read (get_run w) ?_
  refine .bind_still (discard_still (ofInvalid_still _ w)) fun _ _ => .read (set_run _ w) ?_
  refine .pure (resting.collecting ?_ (w.nextBlock + 1)) _
  intro b member
  rcases List.mem_append.mp member with earlier | new
  · exact resting.predicates b earlier
  · rw [List.mem_singleton.mp new]
    exact nofun

theorem pushEntry_prepares (id : Nat) {e : Entry σ} (declared : e.Declared)
    (resting : w.Resting) : Prepares (pushEntry id e) w :=
  .of_run (modifyScenario_run _ _ w) (resting.extending id declared)

theorem closeBlock_prepares (id : Nat) (description : String) (d : Deed) (resting : w.Resting) :
    Prepares (closeBlock id (.deed description d)) w := by
  refine .bind_still (block_still id w) fun b found => .read (modify_run _ w) ?_
  have guarded : Entry.Declared ⟨some b.predicates, .deed description d⟩ := by
    refine ⟨⟨description, d, rfl⟩, fun predicates same => ?_⟩
    cases same
    exact resting.predicates b (block_ok found).1
  refine pushEntry_prepares b.scenario guarded (resting.collecting ?_ w.nextBlock)
  exact fun b member => resting.predicates b (List.mem_filter.mp member).1

variable (call : Call σ)

theorem invokeTriggers_prepares (id : Nat) (calls : List NamedCall) (resting : w.Resting) :
    Prepares (invokeTriggers call id calls) w := by
  induction calls generalizing w with
  | nil => exact .pure resting ()
  | cons c rest ih =>
    refine .bind (invokeTrigger_prepares call id c.name c.arguments resting)
      fun _ w _ resting => ?_
    exact ih resting

theorem invokeConstraints_prepares (block : Nat) (calls : List NamedCall) (resting : w.Resting) :
    Prepares (invokeConstraints call block calls) w := by
  induction calls generalizing w with
  | nil => exact .pure resting ()
  | cons c rest ih =>
    refine .bind (invokeConstraint_prepares call block c.name c.arguments resting)
      fun _ w _ resting => ?_
    exact ih resting

theorem declareBranch_prepares (id : Nat) (description : String) (b : Branch)
    (resting : w.Resting) : Prepares (declareBranch call id description b) w := by
  refine .bind_still (ofInvalid_still _ w) fun d _ => ?_
  have deed : ∃ scenario e, (Callback.deed description d : Callback σ) = .deed scenario e :=
    ⟨description, d, rfl⟩
  split
  · exact pushEntry_prepares id ⟨deed, nofun⟩ resting
  · rename_i calls _
    refine .bind (openBlock_prepares id resting) fun block w _ resting => ?_
    refine .attempt (invokeConstraints_prepares call block calls resting) ?_ ?_
    · exact fun _ _ resting => closeBlock_prepares block description d resting
    · intro cause next a last ran
      obtain ⟨_, _, _, failed⟩ := of_bind_ok ran
      cases failed

theorem declareBranches_prepares (id : Nat) (description : String) (branches : List Branch)
    (resting : w.Resting) : Prepares (declareBranches call id description branches) w := by
  induction branches generalizing w with
  | nil => exact .pure resting ()
  | cons b rest ih =>
    refine .bind (declareBranch_prepares call id description b resting) fun _ w _ resting => ?_
    exact ih resting

theorem declare_prepares (d : Declaration) (resting : w.Resting) :
    Prepares (declare call d) w := by
  refine .bind_still (ofInvalid_still _ w) fun options _ => ?_
  refine .bind (createScenario_prepares d.description options resting) fun id w _ resting => ?_
  refine .bind (.discard (openTriggers_prepares id resting)) fun _ w _ resting => ?_
  refine .bind (invokeTriggers_prepares call id d.triggers resting) fun _ w _ resting => ?_
  refine .bind (declareBranches_prepares call id d.description d.branches resting)
    fun _ w _ resting => ?_
  exact .read (mark_run _ w) (.pure (resting.kept ((Mild.marked w rfl).kept resting.sound)) id)

theorem declareAll_prepares (declarations : List Declaration) (resting : w.Resting) :
    Prepares (declareAll call declarations) w := by
  induction declarations generalizing w with
  | nil => exact .pure resting ()
  | cons d rest ih =>
    refine .bind (.discard (declare_prepares call d resting)) fun _ w _ resting => ?_
    exact ih resting

end Engine

namespace Bootstrap

/-- The world before the stages holds devices and the limit of catching up. -/
theorem start_ok {c : Config} {clock : Instant} {memory : σ} {w : World σ}
    (started : start c clock memory = .ok w) : ∃ devices,
      c.devices.mapM Device.new = .ok devices ∧ w = { World.start clock devices memory with
        agenda := { (Agenda.empty : Agenda (Reaction σ)) with maxCatchUp := c.maxCatchUp } } := by
  unfold start at started
  cases created : c.devices.mapM Device.new with
  | error cause =>
    rw [created] at started
    cases started
  | ok devices =>
    rw [created] at started
    cases started
    exact ⟨devices, rfl, rfl⟩

theorem start_resting {c : Config} {clock : Instant} {memory : σ} {w : World σ}
    (started : start c clock memory = .ok w) : w.Resting := by
  obtain ⟨devices, -, rfl⟩ := start_ok started
  exact ⟨⟨nofun, nofun, nofun, nofun, nofun, nofun⟩, nofun, rfl, .nil⟩

theorem components_declared (c : Config) :
    ∀ component ∈ (components c : List (Component σ)), component.Declared := by
  refine List.forall_mem_append.mpr ⟨Component.standard_declared, ?_⟩
  split
  · exact nofun
  · exact List.forall_mem_singleton.mpr Component.devices_declared

theorem runStages_resting {stages : List (Stage × Act σ Unit)} {w next : World σ}
    (prepared : ∀ stage ∈ stages, ∀ w : World σ, w.Resting → Prepares stage.2 w)
    (resting : w.Resting) (ran : runStages stages w = (.ok (), next)) : next.Resting := by
  induction stages generalizing w with
  | nil =>
    cases ran
    exact resting
  | cons stage rest ih =>
    obtain ⟨first, others⟩ := List.forall_mem_cons.mp prepared
    unfold runStages at ran
    rcases went : stage.2 w with ⟨outcome, last⟩
    rw [went] at ran
    cases outcome with
    | ok => exact ih others (first w resting () last went) ran
    | error cause => cases ran

end Bootstrap

theorem bootstrap_resting {c : Config} {depth : Nat} {w next : World σ} (resting : w.Resting)
    (ready : bootstrap depth c w = (.ok (), next)) : next.Resting := by
  refine Bootstrap.runStages_resting ?_ resting ready
  simp only [Bootstrap.stages, List.forall_mem_cons]
  refine ⟨?_, ?_, ?_, nofun⟩
  · exact fun w resting => build_prepares _ _ (Bootstrap.components_declared c) resting
  · exact fun w resting => seed_prepares (exec_reaching depth) c.presets resting
  · exact fun w resting => declareAll_prepares _ c.scenarios resting

/-- The world that setting up leaves, when it is known only that it succeeded. -/
theorem bootstrap_ready {c : Config} {depth : Nat} {w : World σ}
    (succeeded : (bootstrap depth c w).1.isOk = true) :
    bootstrap depth c w = (.ok (), (bootstrap depth c w).2) := by
  rcases ran : bootstrap depth c w with ⟨_ | _, next⟩
  · rw [ran] at succeeded
    cases succeeded
  · rfl

end Reflex
