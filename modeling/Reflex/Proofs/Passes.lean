import Mathlib.Data.List.Nodup
import Reflex.Proofs.Evaluation
import Reflex.Proofs.History
import Reflex.Proofs.Laws
import Reflex.Proofs.Moves

/-! The passes in progress. A scenario that is in a pass takes no second one, so however
code nests, each pass in progress is over a scenario of its own and there are at most as
many as scenarios. Those that are not in a pass are what nested code can still use up. -/
namespace Reflex
open Act Engine

variable {σ α β : Type}

namespace History

/-- The scenarios that are in a pass, the latest first. -/
def passes : History → List Nat
  | [] => []
  | .passBegan id :: earlier => id :: passes earlier
  | .passEnded id _ :: earlier => (passes earlier).erase id
  | _ :: earlier => passes earlier

/-- A pass begins over one of the first `n` scenarios that is not in a pass. -/
def EntersIdle (n : Nat) (earlier : History) : Mark → Prop
  | .passBegan id => id ∉ passes earlier ∧ id < n
  | _ => True

abbrev Distinct (n : Nat) : History → Prop := Everywhere (EntersIdle n)

variable {n : Nat} {J later : History}

theorem passes_append (apart : ∀ m ∈ later, m.isPass = false) :
    passes (later ++ J) = passes J := by
  refine append_of_silent ?_ apart
  intro m J first
  cases m <;> first | rfl | cases first

namespace Distinct

theorem nodup (distinct : Distinct n J) : (passes J).Nodup := by
  induction J with
  | nil => exact List.nodup_nil
  | cons m earlier ih =>
    have before := ih distinct.tail
    cases m with
    | passBegan id => exact List.nodup_cons.mpr ⟨distinct.head.1, before⟩
    | passEnded id => exact before.erase id
    | _ => exact before

theorem below (distinct : Distinct n J) : ∀ id ∈ passes J, id < n := by
  induction J with
  | nil => exact fun _ none => nomatch none
  | cons m earlier ih =>
    have before := ih distinct.tail
    cases m with
    | passBegan id => exact List.forall_mem_cons.mpr ⟨distinct.head.2, before⟩
    | passEnded id => exact fun other member => before other (List.mem_of_mem_erase member)
    | _ => exact before

theorem length_le (distinct : Distinct n J) : (passes J).length ≤ n := by
  have within : passes J ⊆ List.range n :=
    fun id member => List.mem_range.mpr (distinct.below id member)
  have bound := distinct.nodup.length_le_of_subset within
  rw [List.length_range] at bound
  exact bound

theorem mono {k : Nat} (le : n ≤ k) (distinct : Distinct n J) : Distinct k J := by
  induction distinct with
  | nil => exact .nil
  | cons head _ ih =>
    refine .cons ?_ ih
    rename_i m _ _
    cases m with
    | passBegan id => exact ⟨head.1, Nat.lt_of_lt_of_le head.2 le⟩
    | _ => trivial

theorem append (distinct : Distinct n J) (apart : ∀ m ∈ later, m.isPass = false) :
    Distinct n (later ++ J) := by
  refine Everywhere.append distinct fun m member J => ?_
  have quiet := apart m member
  cases m with
  | passBegan => cases quiet
  | _ => trivial

end Distinct

end History

open History

/-! Worlds whose code was declared: all that they hold is built in. -/

/-- A device report listens on its own topic only. -/
def Subscription.Declared (s : Subscription (Reaction σ)) : Prop :=
  (∃ t id, s.handler = .trigger t id) ∨ s.handler = .deviceReport ∧ s.topic = deviceTopic

def Predicate.Declared (p : Predicate σ) : Prop := ∃ c, p = .condition c

structure Entry.Declared (e : Entry σ) : Prop where
  callback : ∃ scenario d, e.callback = .deed scenario d
  group : ∀ predicates, e.group = some predicates → ∀ p ∈ predicates, p.Declared

structure Component.Declared (c : Component σ) : Prop where
  setup : ∀ run, c.setup ≠ .custom run
  triggers : ∀ entry ∈ c.triggers.entries, ∃ k, entry.2 = .builtin k
  constraints : ∀ entry ∈ c.constraints.entries, ∃ k, entry.2 = .builtin k

namespace World

structure Declared (w : World σ) : Prop where
  subscriptions : ∀ s ∈ w.bus.subscriptions, s.Declared
  jobs : ∀ j ∈ w.agenda.jobs, ∃ t id, j.task = .trigger t id
  timers : ∀ x ∈ w.agenda.timers, ∃ name, x.task = .expiry name
  entries : ∀ s ∈ w.scenarios, ∀ e ∈ s.entries, e.Declared
  predicates : ∀ b ∈ w.blocks, ∀ p ∈ b.predicates, p.Declared
  components : ∀ c ∈ w.components, c.Declared

/-- Scenarios are marked as being in a pass when they are in one, and never entered twice. -/
structure Sound (w : World σ) : Prop extends w.Declared where
  flags : ∀ id s, w.scenarios[id]? = some s → (s.evaluating = true ↔ id ∈ passes w.journal)
  distinct : Distinct w.scenarios.length w.journal

/-- The scenarios that are not in a pass. -/
def idle (w : World σ) : Nat := w.scenarios.length - (passes w.journal).length

end World

/-- What a run that comes to its end leaves alone in a scenario. -/
def Scenario.kernel (s : Scenario σ) : List (Entry σ) × Bool := (s.entries, s.evaluating)

namespace World

/-- No code was added but timers that end lifetimes. -/
structure Retains (w w' : World σ) : Prop where
  subscriptions : w'.bus.subscriptions ⊆ w.bus.subscriptions
  jobs : w'.agenda.jobs ⊆ w.agenda.jobs
  timers : ∀ x ∈ w'.agenda.timers, x ∈ w.agenda.timers ∨ ∃ name, x.task = .expiry name
  scenarios : w'.scenarios.map Scenario.kernel = w.scenarios.map Scenario.kernel
  blocks : w'.blocks = w.blocks
  components : w'.components = w.components

/-- The same passes are in progress. -/
structure Kept (w w' : World σ) : Prop extends w.Retains w' where
  passes : passes w'.journal = passes w.journal
  distinct : Distinct w'.scenarios.length w'.journal

/-- No pass has begun or ended. -/
structure Mild (w w' : World σ) : Prop extends w.Retains w' where
  journal : ∃ later, w'.journal = later ++ w.journal ∧ ∀ m ∈ later, m.isPass = false

variable {w w' w'' : World σ}

namespace Retains

/-- Neither subscriptions nor the agenda were touched. -/
theorem of_same (bus : w'.bus = w.bus) (agenda : w'.agenda = w.agenda)
    (scenarios : w'.scenarios.map Scenario.kernel = w.scenarios.map Scenario.kernel)
    (blocks : w'.blocks = w.blocks) (components : w'.components = w.components) :
    w.Retains w' := by
  refine ⟨?_, ?_, ?_, scenarios, blocks, components⟩
  · rw [bus]
    exact List.Subset.refl _
  · rw [agenda]
    exact List.Subset.refl _
  · rw [agenda]
    exact fun _ member => .inl member

theorem refl (w : World σ) : w.Retains w := of_same rfl rfl rfl rfl rfl

theorem trans (first : w.Retains w') (second : w'.Retains w'') : w.Retains w'' := by
  refine ⟨List.Subset.trans second.subscriptions first.subscriptions,
    List.Subset.trans second.jobs first.jobs, ?_, second.scenarios.trans first.scenarios,
    second.blocks.trans first.blocks, second.components.trans first.components⟩
  intro x member
  rcases second.timers x member with old | expiry
  · exact first.timers x old
  · exact .inr expiry

theorem length (retains : w.Retains w') : w'.scenarios.length = w.scenarios.length := by
  have same := congrArg List.length retains.scenarios
  rw [List.length_map, List.length_map] at same
  exact same

theorem scenario (retains : w.Retains w') {id : Nat} {s' : Scenario σ}
    (found : w'.scenarios[id]? = some s') :
    ∃ s, w.scenarios[id]? = some s ∧ s'.entries = s.entries ∧ s'.evaluating = s.evaluating := by
  have kernels := congrArg (·[id]?) retains.scenarios
  simp only [List.getElem?_map, found, Option.map_some] at kernels
  obtain ⟨s, known, same⟩ := Option.map_eq_some_iff.mp kernels.symm
  exact ⟨s, known, congrArg Prod.fst same.symm, congrArg Prod.snd same.symm⟩

theorem declared (retains : w.Retains w') (declared : w.Declared) : w'.Declared where
  subscriptions s member := declared.subscriptions s (retains.subscriptions member)
  jobs j member := declared.jobs j (retains.jobs member)
  timers x member := by
    rcases retains.timers x member with old | expiry
    · exact declared.timers x old
    · exact expiry
  entries s member e entry := by
    obtain ⟨id, found⟩ := List.getElem?_of_mem member
    obtain ⟨t, known, same, -⟩ := retains.scenario found
    rw [same] at entry
    exact declared.entries t (List.mem_of_getElem? known) e entry
  predicates := by
    rw [retains.blocks]
    exact declared.predicates
  components := by
    rw [retains.components]
    exact declared.components

end Retains

namespace Kept

theorem refl (sound : w.Sound) : w.Kept w := ⟨.refl w, rfl, sound.distinct⟩

theorem trans (first : w.Kept w') (second : w'.Kept w'') : w.Kept w'' :=
  ⟨first.toRetains.trans second.toRetains, second.passes.trans first.passes, second.distinct⟩

theorem sound (kept : w.Kept w') (sound : w.Sound) : w'.Sound where
  toDeclared := kept.declared sound.toDeclared
  flags id s found := by
    obtain ⟨t, known, -, same⟩ := kept.scenario found
    rw [same, kept.passes]
    exact sound.flags id t known
  distinct := kept.distinct

theorem idle (kept : w.Kept w') : w'.idle = w.idle := by
  unfold World.idle
  rw [kept.length, kept.passes]

end Kept

namespace Mild

theorem trans (first : w.Mild w') (second : w'.Mild w'') : w.Mild w'' :=
  ⟨first.toRetains.trans second.toRetains, Without.trans first.journal second.journal⟩

theorem kept (mild : w.Mild w') (sound : w.Sound) : w.Kept w' := by
  obtain ⟨later, journal, apart⟩ := mild.journal
  refine ⟨mild.toRetains, ?_, ?_⟩
  · rw [journal, passes_append apart]
  · rw [journal, mild.length]
    exact sound.distinct.append apart

/-- What was changed holds no code and tells nothing. -/
theorem of_retains (retains : w.Retains w') (journal : w'.journal = w.journal) : w.Mild w' :=
  ⟨retains, Without.of_same journal⟩

theorem refl (w : World σ) : w.Mild w := .of_retains (.refl w) rfl

theorem marked (w : World σ) {m : Mark} (apart : m.isPass = false) : w.Mild (w.marked m) :=
  ⟨.of_same rfl rfl rfl rfl rfl, Without.marked w apart⟩

/-- The agenda has the same jobs and no timers but old ones and ends of lifetimes. -/
theorem of_agenda (w : World σ) (agenda : Agenda (Reaction σ)) (jobs : agenda.jobs ⊆ w.agenda.jobs)
    (timers : ∀ x ∈ agenda.timers, x ∈ w.agenda.timers ∨ ∃ name, x.task = .expiry name) :
    w.Mild { w with agenda } :=
  .of_retains ⟨List.Subset.refl _, jobs, timers, rfl, rfl, rfl⟩ rfl

theorem unsubscribing (w : World σ) (id : Nat) : w.Mild (w.unsubscribing id) := by
  have removed : w.Mild { w with bus := w.bus.unsubscribe id } :=
    .of_retains ⟨List.filter_subset_self _, List.Subset.refl _, fun _ member => .inl member, rfl,
      rfl, rfl⟩ rfl
  exact removed.trans (.marked _ rfl)

theorem cancelling (w : World σ) (id : Nat) : w.Mild (w.cancelling id) := by
  have filtered := of_agenda w (w.agenda.cancel id) (List.Subset.refl _)
    fun x member => .inl (List.mem_filter.mp member).1
  exact filtered.trans (.marked _ rfl)

theorem taking (w : World σ) (t : Instant) : w.Mild (w.taking t) := by
  have filtered := of_agenda w (w.agenda.takeDue t) (List.Subset.refl _)
    fun x member => .inl (List.mem_filter.mp member).1
  exact filtered.trans (.marked _ rfl)

theorem arming (w : World σ) (d : Span) (name : String) : w.Mild (w.arming d (.expiry name)) := by
  have armed := of_agenda w (w.agenda.arm (w.clock.add d) (.expiry name)) (List.Subset.refl _)
    fun x member => by
      rcases List.mem_append.mp member with old | new
      · exact .inl old
      · rw [List.mem_singleton.mp new]
        exact .inr ⟨name, rfl⟩
  exact armed.trans (.marked _ rfl)

theorem storing (w : World σ) (name : String) (slot : Slot) : w.Mild (w.storing name slot) :=
  .of_retains (.of_same rfl rfl rfl rfl rfl) rfl

theorem absorbs : Absorbs (Mild : World σ → World σ → Prop) where
  refl := refl
  trans := trans
  store := storing
  arm := arming
  cancel := cancelling
  written w _ := marked w rfl

theorem writing (w : World σ) (name : String) (value : Value) (ttl : Option Span) :
    w.Mild (w.writing name value ttl) :=
  absorbs.writing w name value ttl

theorem lapsing (w : World σ) (name : String) : w.Mild (w.lapsing name) :=
  absorbs.lapsing (fun w => marked w rfl) w

theorem beginning (w : World σ) : w.Mild w.beginning := by
  have followed := of_agenda w { w.agenda with lastTick := some w.clock.truncate }
    (List.Subset.refl _) fun _ member => .inl member
  exact followed.trans (.marked _ rfl)

end Mild

/-- A change that leaves the entries of a scenario alone, and whether it is in a pass. -/
theorem Mild.modifyScenario (w : World σ) (id : Nat) {change : Scenario σ → Scenario σ}
    (same : ∀ s, (change s).kernel = s.kernel) : w.Mild (w.modifyScenario id change) :=
  .of_retains (.of_same rfl rfl (modifyScenario_map _ w id same) rfl rfl) rfl

/-- Scenarios are marked as being in a pass when they are in one, whatever code they hold. -/
structure Flagged (w : World σ) : Prop where
  flags : ∀ id s, w.scenarios[id]? = some s → (s.evaluating = true ↔ id ∈ passes w.journal)
  distinct : Distinct w.scenarios.length w.journal

theorem Sound.flagged (sound : w.Sound) : w.Flagged := ⟨sound.flags, sound.distinct⟩

namespace Flagged

variable {id : Nat} {s : Scenario σ} (flagged : w.Flagged) (found : w.scenarios[id]? = some s)
  (resting : s.evaluating = false)
include flagged found resting

theorem idle_fresh : id ∉ passes w.journal := by
  intro member
  have busy := (flagged.flags id s found).mpr member
  rw [resting] at busy
  cases busy

theorem begun : (Evaluation.begun id w).Flagged := by
  constructor
  · intro n t known
    obtain ⟨t, old, rfl⟩ := Option.map_eq_some_iff.mp
      ((getElem?_modifyScenario w id _ n).symm.trans known)
    change _ ↔ n ∈ id :: passes w.journal
    by_cases here : id = n
    · simp [here]
    · rw [if_neg here, List.mem_cons, flagged.flags n t old]
      exact ⟨.inr, fun either => either.resolve_left fun same => here same.symm⟩
  · have within : id < w.scenarios.length := (List.getElem?_eq_some_iff.mp found).1
    have length : (Evaluation.begun id w).scenarios.length = w.scenarios.length :=
      List.length_modify ..
    rw [length]
    exact .cons ⟨flagged.idle_fresh found resting, within⟩ flagged.distinct

end Flagged

/-! One pass: it begins over an idle scenario, which is idle again when it has ended. -/

section Pass

variable {id : Nat} {s : Scenario σ} {last u : World σ}

variable (sound : w.Sound) (found : w.scenarios[id]? = some s) (resting : s.evaluating = false)
include sound found resting

theorem Sound.begun : (Evaluation.begun id w).Sound := by
  have flagged := sound.flagged.begun found resting
  refine ⟨⟨sound.subscriptions, sound.jobs, sound.timers, ?_, sound.predicates, sound.components⟩,
    flagged.flags, flagged.distinct⟩
  intro t member e entry
  obtain ⟨n, known⟩ := List.getElem?_of_mem member
  obtain ⟨t, old, rfl⟩ := Option.map_eq_some_iff.mp
    ((getElem?_modifyScenario w id _ n).symm.trans known)
  refine sound.entries t (List.mem_of_getElem? old) e ?_
  split at entry
  · exact entry
  · exact entry

theorem Sound.idle_begun : (Evaluation.begun id w).idle + 1 = w.idle := by
  have bound := (sound.begun found resting).distinct.length_le
  have length : (Evaluation.begun id w).scenarios.length = w.scenarios.length :=
    List.length_modify ..
  have entered : passes (Evaluation.begun id w).journal = id :: passes w.journal := rfl
  rw [entered, length, List.length_cons] at bound
  unfold World.idle
  rw [entered, length, List.length_cons]
  omega

omit sound in
/-- The scenario that the pass was over is marked as idle again. -/
theorem Kept.released_kernels (kept : (Evaluation.begun id w).Kept last) :
    (Evaluation.released id last).scenarios.map Scenario.kernel =
      w.scenarios.map Scenario.kernel := by
  have kernels : last.scenarios.map Scenario.kernel =
      (Evaluation.begun id w).scenarios.map Scenario.kernel := kept.scenarios
  apply List.ext_getElem?
  intro n
  have same := congrArg (·[n]?) kernels
  have before := getElem?_modifyScenario w id (fun s => { s with evaluating := true }) n
  have after := getElem?_modifyScenario last id (fun s => { s with evaluating := false }) n
  change (Evaluation.begun id w).scenarios[n]? = _ at before
  change (Evaluation.released id last).scenarios[n]? = _ at after
  simp only [List.getElem?_map, before] at same
  rw [List.getElem?_map, List.getElem?_map, after]
  cases old : w.scenarios[n]? with
  | none =>
    rw [old] at same
    cases now : last.scenarios[n]? with
    | none => rfl
    | some t =>
      rw [now] at same
      cases same
  | some t =>
    rw [old] at same
    obtain ⟨t', now, kernel⟩ := Option.map_eq_some_iff.mp same
    rw [now]
    refine congrArg some ?_
    dsimp only at kernel ⊢
    by_cases here : id = n
    · subst here
      obtain rfl : s = t := Option.some.inj (found.symm.trans old)
      rw [if_pos rfl] at kernel
      have entries : t'.entries = s.entries := congrArg Prod.fst kernel
      simp [Scenario.kernel, entries, resting]
    · rw [if_neg here] at kernel ⊢
      exact kernel

omit sound in
theorem Kept.ended (kept : (Evaluation.begun id w).Kept last)
    (mild : (Evaluation.released id last).Mild u) (outcome : Option Nat) :
    w.Kept (u.marked (.passEnded id outcome)) := by
  obtain ⟨later, journal, apart⟩ := mild.journal
  have kernels := mild.scenarios.trans (kept.released_kernels found resting)
  have length : u.scenarios.length = w.scenarios.length := by
    have same := congrArg List.length kernels
    rw [List.length_map, List.length_map] at same
    exact same
  have inner : History.passes u.journal = id :: History.passes w.journal := by
    rw [journal, passes_append apart]
    exact kept.passes
  have distinct : Distinct w.scenarios.length u.journal := by
    have before := kept.distinct
    rw [kept.length] at before
    have same : (Evaluation.begun id w).scenarios.length = w.scenarios.length :=
      List.length_modify ..
    rw [same] at before
    rw [journal]
    exact before.append apart
  refine ⟨⟨List.Subset.trans mild.subscriptions kept.subscriptions,
    List.Subset.trans mild.jobs kept.jobs, ?_, kernels, mild.blocks.trans kept.blocks,
    mild.components.trans kept.components⟩, ?_, ?_⟩
  · intro x member
    rcases mild.timers x member with old | expiry
    · exact kept.timers x old
    · exact .inr expiry
  · change (History.passes u.journal).erase id = _
    rw [inner, List.erase_cons_head]
  · change Distinct u.scenarios.length (_ :: u.journal)
    rw [length]
    exact .cons trivial distinct

omit sound in
/-- Suppression has no bearing on what a scenario holds. -/
theorem Kept.concluded (kept : (Evaluation.begun id w).Kept last) (ran : Nat) :
    w.Kept (Evaluation.concluded id ran last) := by
  refine kept.ended found resting (.modifyScenario _ id fun t => ?_) _
  split
  · split
    · rfl
    · rfl
  · rfl

end Pass

end World

end Reflex
