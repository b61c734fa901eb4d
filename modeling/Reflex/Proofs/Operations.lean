import Reflex.Engine.Run
import Reflex.Proofs.Laws

/-! Operations that have no bearing on time, timers or variables obey every law, whatever
the code that they run, if that code does; and programs do if the other operations do. -/
namespace Reflex.Engine
open Act Evaluation

variable {σ α : Type} {rule : Rule} {R : Link σ}

/-- Running code that keeps to the rule does what `R` says, and running the code of an
expiring variable's timer what `X` says. -/
structure Calls (rule : Rule) (R : Link σ) (X : String → Link σ) (call : Call σ) : Prop where
  code {p : Program σ} {w : World σ} : p.Within rule → w.Lodges rule → Upheld rule R (call p) w
  expiry {name : String} {w : World σ} : w.Lodges rule →
    Upheld rule (X name) (call ((Reaction.expiry name : Reaction σ).program [])) w

theorem mark_upheld (law : R.Law rule) {m : Mark} {w : World σ} (bare : m.isBare = true)
    (lodges : w.Lodges rule) : Upheld rule R (mark m) w :=
  .of_change law (mark_run m w) (.mark bare) lodges

/-- A step that changes nothing of the bus, scenarios, timers and variables. -/
theorem upheld_aside (law : R.Law rule) {x : Act σ α} {a : α} {w next : World σ}
    (ran : x w = (.ok a, next)) (aside : w.Aside next) (lodges : next.Lodges rule) :
    Upheld rule R x w :=
  .of_run ran lodges (law.change (.aside aside fun _ => lodges))

/-- Such a step, with the mark that tells of it. -/
theorem upheld_told (law : R.Law rule) {x : Act σ α} {a : α} {w next : World σ} {m : Mark}
    (ran : x w = (.ok a, next.marked m)) (aside : w.Aside next) (bare : m.isBare = true)
    (lodges : next.Lodges rule) : Upheld rule R x w :=
  .of_run ran (lodges.marked m)
    (law.trans (law.change (.aside aside fun _ => lodges)) (law.change (.mark bare)))

theorem scenario_still (id : Nat) (w : World σ) : (scenario id w).2 = w := by
  rw [scenario, bind_ok (get_run _)]
  cases w.scenarios[id]? <;> rfl

theorem scenario_ok {id : Nat} {s : Scenario σ} {w next : World σ}
    (found : scenario id w = (.ok s, next)) : w.scenarios[id]? = some s ∧ next = w := by
  rw [scenario, bind_ok (get_run _)] at found
  cases known : w.scenarios[id]? with
  | none =>
    rw [known] at found
    cases found
  | some t =>
    rw [known] at found
    cases found
    exact ⟨rfl, rfl⟩

theorem discard_still {x : Act σ α} {w : World σ} (still : (x w).2 = w) :
    ((discard x : Act σ PUnit) w).2 = w := by
  change ((x >>= fun _ => pure PUnit.unit) w).2 = w
  rcases ran : x w with ⟨outcome, next⟩
  rw [ran] at still
  cases outcome with
  | ok a => rw [bind_ok ran]; exact still
  | error i => rw [bind_error ran]; exact still

/-! Changes to scenarios. -/

theorem setTestMode_upheld (law : R.Law rule) (id : Nat) (enabled : Bool) {w : World σ}
    (lodges : w.Lodges rule) : Upheld rule R (setTestMode id enabled) w := by
  have chained := law.toChained
  cases known : w.registry with
  | none =>
    refine .still chained ?_ lodges
    rw [setTestMode, bind_error (discard_error (registry_dropped known))]
  | some ids =>
    cases found : w.scenarios[id]? with
    | none =>
      refine .still chained ?_ lodges
      rw [setTestMode, bind_ok (discard_ok (registry_found known)),
        bind_error (discard_error (scenario_missing id found))]
    | some s => exact .of_change law (setTestMode_run known found enabled) (.test known) lodges

theorem createScenario_upheld (law : R.Law rule) (description : String) (options : Options)
    {w : World σ} (lodges : w.Lodges rule) :
    Upheld rule R (createScenario description options) w := by
  rcases createScenario_cases description options w with
    ⟨cause, failed⟩ | ⟨ids, known, _, ran⟩
  · exact .of_run failed lodges (law.refl w)
  · exact .of_change law ran (.create known) lodges

theorem clearScenarios_upheld (law : R.Law rule) {w : World σ} (lodges : w.Lodges rule) :
    Upheld rule R clearScenarios w := by
  refine .bind_still law.toChained (registry_still w) lodges fun ids found => ?_
  exact .of_change law (modify_run _ w) (.clear (registry_ok found).1) lodges

/-! Changes to blocks and entries. -/

theorem openTriggers_upheld (law : R.Law rule) (id : Nat) {w : World σ} (lodges : w.Lodges rule) :
    Upheld rule R (openTriggers id) w := by
  have chained := law.toChained
  refine .bind_still chained (discard_still (registry_still w)) lodges fun _ _ => ?_
  refine .bind_still chained (discard_still (scenario_still id w)) lodges fun _ _ =>
    .read (get_run w) ?_
  exact .bind_still chained (ofInvalid_still _ w) lodges fun _ _ => .pure chained _ lodges

theorem openBlock_upheld (law : R.Law rule) (id : Nat) {w : World σ} (lodges : w.Lodges rule) :
    Upheld rule R (openBlock id) w := by
  have chained := law.toChained
  refine .bind_still chained (discard_still (registry_still w)) lodges fun _ _ => ?_
  refine .bind_still chained (discard_still (scenario_still id w)) lodges fun _ _ =>
    .read (get_run w) ?_
  refine .bind_still chained (discard_still (ofInvalid_still _ w)) lodges fun _ _ => ?_
  refine .bind chained (upheld_aside law (set_run _ w)
    ⟨rfl, rfl, rfl, rfl, rfl, rfl, rfl, rfl, rfl, rfl, rfl⟩ (lodges.with_blocks ?_ _))
    fun _ _ _ lodges => .pure chained _ lodges
  intro b member
  rcases List.mem_append.mp member with earlier | new
  · exact lodges.predicates b earlier
  · rw [List.mem_singleton.mp new]
    exact fun p none => nomatch none

theorem discardBlock_upheld (law : R.Law rule) (id : Nat) {w : World σ} (lodges : w.Lodges rule) :
    Upheld rule R (discardBlock id) w := by
  refine upheld_aside law rfl ⟨rfl, rfl, rfl, rfl, rfl, rfl, rfl, rfl, rfl, rfl, rfl⟩
    (lodges.with_blocks ?_ _)
  intro b member
  exact lodges.predicates b (List.mem_filter.mp member).1

theorem pushPredicate_upheld (law : R.Law rule) (id : Nat) {p : Predicate σ} (kept : p.Within rule)
    {w : World σ} (lodges : w.Lodges rule) : Upheld rule R (pushPredicate id p) w := by
  refine upheld_aside law rfl ⟨rfl, rfl, rfl, rfl, rfl, rfl, rfl, rfl, rfl, rfl, rfl⟩
    (lodges.with_blocks ?_ _)
  intro b member
  obtain ⟨old, known, rfl⟩ := List.mem_map.mp member
  split
  · intro q added
    rcases List.mem_append.mp added with earlier | new
    · exact lodges.predicates old known q earlier
    · rw [List.mem_singleton.mp new]
      exact kept
  · exact lodges.predicates old known

theorem pushEntry_upheld (law : R.Law rule) (id : Nat) {e : Entry σ} (kept : e.Within rule)
    {w : World σ} (lodges : w.Lodges rule) : Upheld rule R (pushEntry id e) w :=
  .of_change law (pushEntry_run id e w) (.extend kept) lodges

theorem block_ok {id : Nat} {b : Block σ} {w next : World σ} (found : block id w = (.ok b, next)) :
    b ∈ w.blocks ∧ next = w := by
  rw [block, bind_ok (get_run _)] at found
  cases known : w.block? id with
  | none =>
    rw [known] at found
    cases found
  | some c =>
    rw [known] at found
    cases found
    exact ⟨List.mem_of_find?_eq_some known, rfl⟩

theorem block_still (id : Nat) (w : World σ) : (block id w).2 = w := by
  rw [block, bind_ok (get_run _)]
  cases w.block? id <;> rfl

theorem closeBlock_upheld (law : R.Law rule) (id : Nat) {c : Callback σ} (kept : c.Within rule)
    {w : World σ} (lodges : w.Lodges rule) : Upheld rule R (closeBlock id c) w := by
  have chained := law.toChained
  refine .bind_still chained (block_still id w) lodges fun b found => ?_
  have predicates := lodges.predicates b (block_ok found).1
  refine .bind chained (discardBlock_upheld law id lodges) fun _ w _ lodges => ?_
  refine pushEntry_upheld law b.scenario ⟨kept, ?_⟩ lodges
  intro group same
  cases same
  exact predicates

/-! Publishing. -/

theorem subscribe_upheld (law : R.Law rule) (topic : String) {handler : Reaction σ}
    (kept : handler.Within rule) {w : World σ} (lodges : w.Lodges rule) :
    Upheld rule R (subscribe topic handler) w :=
  .of_change law (subscribe_run topic handler w) (.subscribe kept) lodges

theorem unsubscribe_upheld (law : R.Law rule) (id : Nat) {w : World σ} (lodges : w.Lodges rule) :
    Upheld rule R (unsubscribe id) w :=
  .of_change law (unsubscribe_run id w) .unsubscribe lodges

theorem Reaction.program_within (allowed : rule.Open) {r : Reaction σ} (kept : r.Within rule)
    (arguments : List Value) : (r.program arguments).Within rule := by
  cases r with
  | custom react => exact kept arguments
  | expiry name => exact kept.elim
  | deviceReport =>
    change (Reaction.reportProgram arguments).Within rule
    unfold Reaction.reportProgram
    split
    · trivial
    split
    · exact Program.perform_within (allowed.setFeature _ _ _)
    · trivial
  | trigger t scenario =>
    have asserted : ∀ payload,
        (Program.perform (.assert scenario payload) : Program σ).Within rule :=
      fun payload => Program.perform_within (allowed.assert scenario payload)
    change (t.program scenario arguments).Within rule
    cases t with
    | every | event => exact asserted _
    | «at» time =>
      intro v
      dsimp only
      split
      · trivial
      split
      · exact asserted _
      · trivial
    | variableChanges | deviceChanges =>
      cases arguments with
      | nil => trivial
      | cons change rest =>
        change (ite _ _ _ : Program σ).Within rule
        split
        · exact asserted _
        · trivial

/-! Registering jobs. -/

theorem every_upheld (law : R.Law rule) (s : Schedule) {task : Reaction σ} (kept : task.Within rule)
    {w : World σ} (lodges : w.Lodges rule) : Upheld rule R (every s task) w := by
  have registered : { w with agenda := w.agenda.register s task }.Lodges rule := by
    refine ⟨lodges.1, ?_, lodges.3, lodges.4, lodges.5, lodges.6⟩
    intro j member
    rcases List.mem_append.mp member with earlier | new
    · exact lodges.jobs j earlier
    · rw [List.mem_singleton.mp new]
      exact kept
  exact upheld_told law (every_run s task w)
    ⟨rfl, rfl, rfl, rfl, rfl, rfl, rfl, rfl, rfl, rfl, rfl⟩ rfl registered

theorem remove_upheld (law : R.Law rule) (id : Nat) {w : World σ} (lodges : w.Lodges rule) :
    Upheld rule R (remove id) w := by
  have removed : { w with agenda := w.agenda.remove id }.Lodges rule := by
    refine ⟨lodges.1, ?_, lodges.3, lodges.4, lodges.5, lodges.6⟩
    exact fun j member => lodges.jobs j (List.mem_filter.mp member).1
  exact upheld_told law (remove_run id w)
    ⟨rfl, rfl, rfl, rfl, rfl, rfl, rfl, rfl, rfl, rfl, rfl⟩ rfl removed

/-! Resolving names. -/

theorem mergeAll_entries {φ : Type} {P : String × φ → Prop} {kind : VocabularyKind}
    (vocabularies : List (Vocabulary φ)) {v merged : Vocabulary φ}
    (start : ∀ entry ∈ v.entries, P entry)
    (each : ∀ other ∈ vocabularies, ∀ entry ∈ other.entries, P entry)
    (ok : Vocabulary.mergeAll kind v vocabularies = .ok merged) :
    ∀ entry ∈ merged.entries, P entry := by
  induction vocabularies generalizing v with
  | nil =>
    cases ok
    exact start
  | cons other rest ih =>
    obtain ⟨first, others⟩ := List.forall_mem_cons.mp each
    unfold Vocabulary.mergeAll Vocabulary.merge at ok
    split at ok
    · cases ok
    · refine ih (fun entry member => ?_) others ok
      rcases List.mem_append.mp member with left | right
      · exact start entry left
      · exact first entry right

theorem resolve_mem {φ : Type} {kind : VocabularyKind} {v : Vocabulary φ} {name : String}
    {factory : φ} (ok : v.resolve kind name = .ok factory) : (name, factory) ∈ v.entries := by
  unfold Vocabulary.resolve Vocabulary.get? at ok
  split at ok
  · rename_i f known
    cases ok
    obtain ⟨front, back, split, -⟩ := List.lookup_eq_some_iff.mp known
    rw [split]
    exact List.mem_append_right _ List.mem_cons_self
  · cases ok

theorem ofInvalid_ok {e : Except Invalid α} {a : α} {w next : World σ}
    (ok : ofInvalid e w = (.ok a, next)) : e = .ok a := by
  cases e with
  | ok b =>
    cases ok
    rfl
  | error cause => cases ok

theorem triggerVocabulary_within {w : World σ} (lodges : w.Lodges rule)
    {v : Vocabulary (TriggerFactory σ)} (merged : w.triggerVocabulary = .ok v) :
    ∀ entry ∈ v.entries, entry.2.Within rule := by
  refine mergeAll_entries _ (by simp [Vocabulary.empty]) (fun other member => ?_) merged
  obtain ⟨c, known, rfl⟩ := List.mem_map.mp member
  exact (lodges.components c known).triggers

theorem constraintVocabulary_within {w : World σ} (lodges : w.Lodges rule)
    {v : Vocabulary (ConstraintFactory σ)} (merged : w.constraintVocabulary = .ok v) :
    ∀ entry ∈ v.entries, entry.2.Within rule := by
  refine mergeAll_entries _ (by simp [Vocabulary.empty]) (fun other member => ?_) merged
  obtain ⟨c, known, rfl⟩ := List.mem_map.mp member
  exact (lodges.components c known).constraints

theorem installTrigger_upheld (law : R.Law rule) (id : Nat) (t : Trigger) {w : World σ}
    (lodges : w.Lodges rule) : Upheld rule R (installTrigger id t) w := by
  unfold installTrigger
  split
  · exact .discard law.toChained (subscribe_upheld law _ (Reaction.trigger_within t id) lodges)
  · exact .discard law.toChained (every_upheld law _ (Reaction.trigger_within t id) lodges)

section Calling

variable (law : R.Law rule) (allowed : rule.Open) {X : String → Link σ} {call : Call σ}
  (calls : Calls rule R X call)
include law calls

theorem call_discarded {p : Program σ} (kept : p.Within rule) {w : World σ}
    (lodges : w.Lodges rule) : Upheld rule R (discard (call p)) w :=
  .discard law.toChained (calls.code kept lodges)

include allowed in
theorem deliver_upheld (arguments : List Value) (subscriptions : List (Subscription (Reaction σ)))
    (kept : ∀ s ∈ subscriptions, s.handler.Within rule) {w : World σ} (lodges : w.Lodges rule) :
    Upheld rule R (deliver call arguments subscriptions) w := by
  have chained := law.toChained
  induction subscriptions generalizing w with
  | nil => exact .pure chained _ lodges
  | cons s rest ih =>
    obtain ⟨first, others⟩ := List.forall_mem_cons.mp kept
    have program := Reaction.program_within allowed first arguments
    refine .bind chained (mark_upheld law rfl lodges) fun _ w _ lodges => ?_
    refine .bind chained (call_discarded law calls program lodges) fun _ w _ lodges => ?_
    exact ih others lodges

include allowed in
theorem emit_upheld (topic : String) (arguments : List Value) {w : World σ}
    (lodges : w.Lodges rule) : Upheld rule R (emit call topic arguments) w := by
  have subscribers : ∀ s ∈ w.bus.subscribers topic, s.handler.Within rule :=
    fun s member => lodges.subscriptions s (List.mem_filter.mp member).1
  refine .read (get_run w) (.bind law.toChained (mark_upheld law rfl lodges) ?_)
  exact fun _ w _ lodges => deliver_upheld law allowed calls arguments _ subscribers lodges

/-! Passes over scenarios. -/

theorem allHold_upheld (group : List (Predicate σ)) (kept : ∀ p ∈ group, p.Within rule)
    {w : World σ} (lodges : w.Lodges rule) : Upheld rule R (allHold call group) w := by
  have chained := law.toChained
  induction group generalizing w with
  | nil => exact .pure chained _ lodges
  | cons p rest ih =>
    obtain ⟨first, others⟩ := List.forall_mem_cons.mp kept
    refine .bind chained (calls.code (Predicate.program_within first) lodges) fun b w _ lodges => ?_
    split
    · exact ih others lodges
    · exact .pure chained _ lodges

theorem applies_upheld {e : Entry σ} (kept : e.Within rule) (tally : Tally) {w : World σ}
    (lodges : w.Lodges rule) : Upheld rule R (applies call e.group tally) w := by
  unfold applies
  split
  · exact .pure law.toChained _ lodges
  · rename_i group declared
    exact allHold_upheld law calls group (kept.group group declared) lodges

include allowed in
theorem runCallback_upheld (description : String) {c : Callback σ} (kept : c.Within rule)
    (payload : Option Value) {w : World σ} (lodges : w.Lodges rule) :
    Upheld rule R (runCallback call description c payload) w := by
  have chained := law.toChained
  refine .bind chained (calls.code (c.program_within allowed kept payload) lodges).attempt
    fun outcome w _ lodges => ?_
  cases outcome with
  | ok => exact .pure chained _ lodges
  | error => exact .fail chained _ lodges

include allowed in
theorem visit_upheld (id : Nat) (description : String) (payload : Option Value) (place : Nat)
    (tally : Tally) (entries : List (Entry σ)) (kept : ∀ e ∈ entries, e.Within rule) {w : World σ}
    (lodges : w.Lodges rule) :
    Upheld rule R (visit call id description payload place tally entries) w := by
  have chained := law.toChained
  induction entries generalizing place tally w with
  | nil => exact .pure chained _ lodges
  | cons e rest ih =>
    obtain ⟨first, others⟩ := List.forall_mem_cons.mp kept
    refine .bind chained (applies_upheld law calls first tally lodges) fun b w _ lodges => ?_
    split
    · refine .bind chained (mark_upheld law rfl lodges) fun _ w _ lodges => ?_
      refine .bind chained (runCallback_upheld law allowed calls description first.callback payload
        lodges) fun _ w _ lodges => ?_
      exact ih _ _ others lodges
    · exact ih _ _ others lodges

include allowed in
theorem runPass_upheld {id : Nat} {s : Scenario σ} {w : World σ} (admits : w.Admits id s)
    (payload : Option Value) (lodges : w.Lodges rule) :
    Upheld rule R (runPass call id s payload) w := by
  have kept := lodges.entries s (List.mem_of_getElem? admits.found)
  have visited := visit_upheld law allowed calls id s.description payload 0 ⟨0, 0⟩ s.entries kept
    (lodges.begun id)
  rcases ran : visit call id s.description payload 0 ⟨0, 0⟩ s.entries (begun id w) with
    ⟨outcome, last⟩
  obtain ⟨lodges, link⟩ := visited.after_run ran
  have came : ended (outcome.map Tally.ran) = ended outcome := by cases outcome <;> rfl
  exact .of_run (runPass_closed ran) (lodges.closed id _) (law.pass _ admits (came ▸ link))

include allowed in
theorem assert_upheld (id : Nat) (payload : Option Value) {w : World σ} (lodges : w.Lodges rule) :
    Upheld rule R (assert call id payload) w := by
  have chained := law.toChained
  refine .bind_still chained (scenario_still id w) lodges fun s found => .read (get_run w) ?_
  have known := (scenario_ok found).1
  dsimp only
  split
  · exact .pure chained _ lodges
  rename_i runnable
  split
  · exact .pure chained _ lodges
  rename_i unsuppressed
  split
  · exact .bind chained (mark_upheld law rfl lodges) fun _ _ _ lodges => .pure chained _ lodges
  rename_i idle
  have admits : w.Admits id s :=
    ⟨known, by simpa using runnable, by simpa using unsuppressed, by simpa using idle⟩
  exact runPass_upheld law allowed calls admits payload lodges

include allowed in
theorem publishFeature_upheld (d : Device) (device feature : String) (value : Value)
    {w : World σ} (lodges : w.Lodges rule) :
    Upheld rule R (publishFeature call w d device feature value)
      (w.adjusting d device feature value) := by
  have chained := law.toChained
  have subscribers : ∀ s ∈ w.bus.subscribers attributeTopic, s.handler.Within rule :=
    fun s member => lodges.subscriptions s (List.mem_filter.mp member).1
  have made := lodges.adjusting d device feature value
  unfold publishFeature
  split
  · exact .bind chained (deliver_upheld law allowed calls _ _ subscribers made)
      fun _ _ _ lodges => .pure chained _ lodges
  · exact .pure chained _ made

include allowed in
theorem setFeature_upheld (device feature : String) (value : Value) {w : World σ}
    (lodges : w.Lodges rule) : Upheld rule R (setFeature call device feature value) w := by
  have chained := law.toChained
  cases known : Table.find? device w.devices with
  | none =>
    refine .still chained ?_ lodges
    rw [setFeature_missing call feature value known]
  | some d =>
    have told := publishFeature_upheld law allowed calls d device feature value lodges
    constructor <;> rw [setFeature_run call feature value known]
    · exact told.lodges
    · exact chained.trans (law.change (.adjust known)) told.link

/-! Calls by name, and setting a runtime up. -/

theorem invokeTrigger_upheld (id : Nat) (name : String) (arguments : List Value) {w : World σ}
    (lodges : w.Lodges rule) : Upheld rule R (invokeTrigger call id name arguments) w := by
  have chained := law.toChained
  refine .read (get_run w) (.bind_still chained (ofInvalid_still _ w) lodges fun v merged => ?_)
  refine .bind_still chained (ofInvalid_still _ w) lodges fun factory resolved => ?_
  have kept := triggerVocabulary_within lodges (ofInvalid_ok merged) _
    (resolve_mem (ofInvalid_ok resolved))
  cases factory with
  | builtin k =>
    exact .bind_still chained (ofInvalid_still _ w) lodges fun t _ =>
      installTrigger_upheld law id t lodges
  | custom make => exact call_discarded law calls (kept id arguments) lodges

theorem invokeConstraint_upheld (id : Nat) (name : String) (arguments : List Value) {w : World σ}
    (lodges : w.Lodges rule) : Upheld rule R (invokeConstraint call id name arguments) w := by
  have chained := law.toChained
  refine .read (get_run w) (.bind_still chained (ofInvalid_still _ w) lodges fun v merged => ?_)
  refine .bind_still chained (ofInvalid_still _ w) lodges fun factory resolved => ?_
  have kept := constraintVocabulary_within lodges (ofInvalid_ok merged) _
    (resolve_mem (ofInvalid_ok resolved))
  cases factory with
  | builtin k =>
    exact .bind_still chained (ofInvalid_still _ w) lodges fun c _ =>
      pushPredicate_upheld law id (p := .condition c) trivial lodges
  | custom make => exact call_discarded law calls (kept id arguments) lodges

theorem runSetup_upheld {s : Setup σ} (kept : s.Within rule) {w : World σ}
    (lodges : w.Lodges rule) : Upheld rule R (runSetup call s) w := by
  have chained := law.toChained
  cases s with
  | nothing => exact .pure chained _ lodges
  | devices =>
    refine .bind chained (.of_change law (modify_run _ w) .bind lodges) fun _ _ _ lodges => ?_
    exact .discard chained (subscribe_upheld law _ Reaction.deviceReport_within lodges)
  | custom run => exact call_discarded law calls kept lodges

theorem runSetups_upheld (components : List (Component σ))
    (kept : ∀ c ∈ components, c.Within rule) {w : World σ} (lodges : w.Lodges rule) :
    Upheld rule R (runSetups call components) w := by
  have chained := law.toChained
  induction components generalizing w with
  | nil => exact .pure chained _ lodges
  | cons c rest ih =>
    obtain ⟨first, others⟩ := List.forall_mem_cons.mp kept
    refine .bind chained (runSetup_upheld law calls first.setup lodges) fun _ w _ lodges => ?_
    exact ih others lodges

/-- Setting components up, and the runtime that exists when all succeeded. -/
theorem build_upheld (finish : ∀ (w : World σ) components,
      R w true { w with components, registry := some [] })
    (components : List (Component σ)) (kept : ∀ c ∈ components, c.Within rule)
    {w : World σ} (lodges : w.Lodges rule) : Upheld rule R (build call components) w := by
  refine .bind law.toChained (runSetups_upheld law calls components kept lodges)
    fun _ w _ lodges => ?_
  exact .of_run (modify_run _ w) ⟨lodges.1, lodges.2, lodges.3, lodges.4, lodges.5, kept⟩
    (finish w components)

/-! Programs. -/

/-- The operations that do touch time, timers or variables do what the link says, too. -/
structure Timed (rule : Rule) (R : Link σ) (call : Call σ) : Prop where
  once {d : Span} {task : Reaction σ} {w : World σ} : task.Within rule → w.Lodges rule →
    Upheld rule R (once d task) w
  cancel {id : Nat} {w : World σ} : rule _ (.cancel id) → w.Lodges rule →
    Upheld rule R (cancel id) w
  drop {withStore : Bool} {w : World σ} : rule _ (.dropRuntime withStore) → w.Lodges rule →
    Upheld rule R (dropRuntime withStore) w
  set {name : String} {value : Value} {ttl : Option Span} {w : World σ} : w.Lodges rule →
    Upheld rule R (setVariable call name value ttl) w
  expire {name : String} {w : World σ} : rule _ (.expire name) → w.Lodges rule →
    Upheld rule R (expireVariable call name) w
  tick {w : World σ} : w.Lodges rule → Upheld rule R (tick call) w

variable (timed : Timed rule R call)
include allowed timed

theorem perform_upheld {r : Reply} (q : Request r) (permitted : rule r q) {w : World σ}
    (lodges : w.Lodges rule) : Upheld rule R (perform call q) w := by
  cases q with
  | registerDevice d => exact .of_change law rfl (.equip (d := d)) lodges
  | setClock | setMaxCatchUp =>
    exact upheld_aside law rfl ⟨rfl, rfl, rfl, rfl, rfl, rfl, rfl, rfl, rfl, rfl, rfl⟩
      ⟨lodges.1, lodges.2, lodges.3, lodges.4, lodges.5, lodges.6⟩
  | unsubscribe => exact unsubscribe_upheld law _ lodges
  | remove => exact remove_upheld law _ lodges
  | cancel => exact timed.cancel permitted lodges
  | createScenario => exact createScenario_upheld law _ _ lodges
  | setTestMode => exact setTestMode_upheld law _ _ lodges
  | clearScenarios => exact clearScenarios_upheld law lodges
  | dropRuntime => exact timed.drop permitted lodges
  | openTriggers => exact openTriggers_upheld law _ lodges
  | openBlock => exact openBlock_upheld law _ lodges
  | discardBlock => exact discardBlock_upheld law _ lodges
  | emit => exact emit_upheld law allowed calls _ _ lodges
  | set => exact timed.set lodges
  | expire => exact timed.expire permitted lodges
  | setFeature => exact setFeature_upheld law allowed calls _ _ _ lodges
  | assert => exact assert_upheld law allowed calls _ _ lodges
  | tick => exact timed.tick lodges
  | invokeTrigger => exact invokeTrigger_upheld law calls _ _ _ lodges
  | invokeConstraint => exact invokeConstraint_upheld law calls _ _ _ lodges

theorem interpret_upheld {p : Program σ} (kept : p.Within rule) {w : World σ}
    (lodges : w.Lodges rule) : Upheld rule R (interpret call p) w := by
  have chained := law.toChained
  induction p generalizing w with
  | done => exact .pure chained _ lodges
  | fail => exact .fail chained _ lodges
  | look _ ih => exact .read (get_run w) (ih _ (kept _) lodges)
  | load _ ih => exact .read (get_run w) (ih _ (kept _) lodges)
  | save memory next ih =>
    have saved : { w with memory }.Lodges rule :=
      ⟨lodges.1, lodges.2, lodges.3, lodges.4, lodges.5, lodges.6⟩
    refine .bind chained (upheld_aside law (modify_run _ w) ?_ saved) fun _ _ _ lodges =>
      ih kept lodges
    exact ⟨rfl, rfl, rfl, rfl, rfl, rfl, rfl, rfl, rfl, rfl, rfl⟩
  | note m next ih =>
    refine .bind chained (mark_upheld law ?_ lodges) fun _ _ _ lodges => ih kept lodges
    cases m <;> rfl
  | request q next ih =>
    exact .bind chained (perform_upheld law allowed calls timed q kept.1 lodges).attempt
      fun answer _ _ lodges => ih answer (kept.2 answer) lodges
  | subscribe topic handler next _ ih =>
    refine .bind chained (subscribe_upheld law topic ?_ lodges)
      fun id _ _ lodges => ih id (kept.2 id) lodges
    exact kept.1
  | every s job next _ ih =>
    refine .bind chained (every_upheld law s ?_ lodges)
      fun id _ _ lodges => ih id (kept.2 id) lodges
    exact fun _ => kept.1
  | once d job next _ ih =>
    refine .bind chained (timed.once ?_ lodges) fun id _ _ lodges => ih id (kept.2 id) lodges
    exact fun _ => kept.1
  | check block predicate next _ ih =>
    refine .bind chained (pushPredicate_upheld law block ?_ lodges)
      fun _ _ _ lodges => ih kept.2 lodges
    exact kept.1
  | fallback id callback next _ ih =>
    have within : Entry.Within rule ⟨none, .custom callback⟩ := ⟨kept.1, fun _ none => nomatch none⟩
    exact .bind chained (pushEntry_upheld law id within lodges) fun _ _ _ lodges => ih kept.2 lodges
  | close block callback next _ ih =>
    refine .bind chained (closeBlock_upheld law block ?_ lodges)
      fun _ _ _ lodges => ih kept.2 lodges
    exact kept.1

end Calling

end Reflex.Engine
