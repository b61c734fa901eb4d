import Reflex.Proofs.Evolution
import Reflex.Proofs.Wiring

/-! What happens to constraint blocks, to the entries of scenarios and to the list of registered
scenarios, told as a path of steps from world to world. Those that concern a block or an entry
leave a record. -/
namespace Reflex
open Engine Evaluation

variable {σ β : Type}

/-- What is recorded of blocks and entries. -/
inductive Draft (σ : Type) where
  | opened (block scenario : Nat)
  | added (block : Nat) (p : Predicate σ)
  | closed (block : Nat) (c : Callback σ)
  | discarded (block : Nat)
  /-- An entry without constraints. -/
  | bare (scenario : Nat) (c : Callback σ)

/-- Records, the latest first. -/
abbrev Ledger (σ : Type) := List (Draft σ)

/-- What was declared of a scenario, leaving aside whether it would run now. -/
def Scenario.outline (s : Scenario σ) : Scenario σ :=
  { s with runnable := true, evaluating := false, suppressedUntil := none }

namespace World

/-- A predicate is added at the end of an open block. -/
def gathering (block : Nat) (w : World σ) (p : Predicate σ) : World σ :=
  { w with
    blocks := w.blocks.map fun b =>
      if b.id = block then { b with predicates := b.predicates ++ [p] } else b }

def discarding (w : World σ) (block : Nat) : World σ :=
  { w with blocks := w.blocks.filter (·.id != block) }

/-- An open block becomes an entry of its scenario. -/
def sealing (w : World σ) (b : Block σ) (c : Callback σ) : World σ :=
  (w.discarding b.id).extending b.scenario ⟨some b.predicates, c⟩

/-- Nothing is declared. -/
structure Spares (w w' : World σ) : Prop where
  blocks : w'.blocks = w.blocks
  nextBlock : w'.nextBlock = w.nextBlock
  components : w'.components = w.components
  registry : w'.registry = w.registry
  outlines : w'.scenarios.map Scenario.outline = w.scenarios.map Scenario.outline

/-- The steps, each with its record if it leaves one. -/
inductive Drafts : World σ → Option (Draft σ) → World σ → Prop
  | spare {w w' : World σ} : w.Spares w' → Drafts w none w'
  | create {w : World σ} {ids : List Nat} {description : String} {options : Options} :
      w.registry = some ids → isTaken w ids description = false →
      Drafts w none (w.creating ids description options)
  | test {w : World σ} {ids : List Nat} {id : Nat} {enabled : Bool} : w.registry = some ids →
      Drafts w none (w.testing ids id enabled)
  | clear {w : World σ} {ids : List Nat} : w.registry = some ids → Drafts w none (w.clearing ids)
  | drop {w : World σ} {withStore : Bool} : Drafts w none (w.dropping withStore)
  | complete {w : World σ} {components : List (Component σ)} :
      Drafts w none (w.completed components)
  | open {w : World σ} {id : Nat} : id < w.scenarios.length →
      Drafts w (some (.opened w.nextBlock id)) (w.drafting id)
  | add {w : World σ} {block : Nat} {b : Block σ} {p : Predicate σ} : w.block? block = some b →
      Drafts w (some (.added block p)) (w.gathering block p)
  | close {w : World σ} {block : Nat} {b : Block σ} {c : Callback σ} : w.block? block = some b →
      Drafts w (some (.closed block c)) (w.sealing b c)
  | discard {w : World σ} {block : Nat} {b : Block σ} : w.block? block = some b →
      Drafts w (some (.discarded block)) (w.discarding block)
  | bare {w : World σ} {id : Nat} {c : Callback σ} : id < w.scenarios.length →
      Drafts w (some (.bare id c)) (w.extending id ⟨none, c⟩)

/-- Steps in a row, with what they recorded. -/
inductive Drafted (w : World σ) : Ledger σ → World σ → Prop
  | refl : Drafted w [] w
  | next {w' last : World σ} {ds : Ledger σ} {d : Option (Draft σ)} : Drafted w ds w' →
      w'.Drafts d last → Drafted w (d.toList ++ ds) last

/-- The records of a history that leads to the world. -/
def Recorded (w : World σ) (ds : Ledger σ) : Prop :=
  ∃ clock devices memory, (World.start clock devices memory).Drafted ds w

variable {w w' last : World σ}

namespace Spares

theorem of_same (blocks : w'.blocks = w.blocks) (nextBlock : w'.nextBlock = w.nextBlock)
    (components : w'.components = w.components) (registry : w'.registry = w.registry)
    (scenarios : w'.scenarios = w.scenarios) : w.Spares w' :=
  ⟨blocks, nextBlock, components, registry, by rw [scenarios]⟩

theorem refl (w : World σ) : w.Spares w := of_same rfl rfl rfl rfl rfl

theorem trans (first : w.Spares w') (rest : w'.Spares last) : w.Spares last where
  blocks := rest.blocks.trans first.blocks
  nextBlock := rest.nextBlock.trans first.nextBlock
  components := rest.components.trans first.components
  registry := rest.registry.trans first.registry
  outlines := rest.outlines.trans first.outlines

theorem marked (w : World σ) (m : Mark) : w.Spares (w.marked m) := of_same rfl rfl rfl rfl rfl

theorem noting (w : World σ) (report : Option Mark) : w.Spares (w.noting report) := by
  cases report with
  | none => exact refl w
  | some m => exact marked w m

theorem absorbs : Absorbs (Spares : World σ → World σ → Prop) where
  refl := refl
  trans := trans
  store _ _ _ := of_same rfl rfl rfl rfl rfl
  arm _ _ _ := of_same rfl rfl rfl rfl rfl
  cancel _ _ := of_same rfl rfl rfl rfl rfl
  written w _ := marked w _

theorem writing (w : World σ) (name : String) (value : Value) (ttl : Option Span) :
    w.Spares (w.writing name value ttl) :=
  absorbs.writing w name value ttl

theorem lapsing (w : World σ) (name : String) : w.Spares (w.lapsing name) :=
  absorbs.lapsing (fun w => marked w _) w

theorem adjusting (w : World σ) (d : Device) (device feature : String) (value : Value) :
    w.Spares (w.adjusting d device feature value) := by
  unfold World.adjusting
  split <;> exact of_same rfl rfl rfl rfl rfl

theorem modifyScenario (w : World σ) (id : Nat) {change : Scenario σ → Scenario σ}
    (same : ∀ s, (change s).outline = s.outline) : w.Spares (w.modifyScenario id change) :=
  ⟨rfl, rfl, rfl, rfl, w.modifyScenario_map _ id same⟩

theorem begun (id : Nat) (w : World σ) : w.Spares (begun id w) :=
  ⟨rfl, rfl, rfl, rfl, w.modifyScenario_map _ id fun _ => rfl⟩

theorem closed (id : Nat) (outcome : Except Interrupt Nat) (w : World σ) :
    w.Spares (closed id outcome w) := by
  have released : w.Spares (released id w) := modifyScenario w id fun _ => rfl
  match outcome with
  | .ok n =>
    refine (released.trans (modifyScenario _ id fun s => ?_)).trans (marked _ _)
    split
    · split <;> rfl
    · rfl
  | .error (.failed _) => exact released.trans (marked _ _)
  | .error .exhausted => exact refl w

end Spares

namespace Drafted

variable {ds es : Ledger σ}

theorem single {d : Option (Draft σ)} (step : w.Drafts d w') : w.Drafted d.toList w' := by
  simpa only [List.append_nil] using Drafted.next .refl step

theorem of_spares (spares : w.Spares w') : w.Drafted [] w' := single (.spare spares)

theorem trans (first : w.Drafted ds w') (rest : w'.Drafted es last) :
    w.Drafted (es ++ ds) last := by
  induction rest with
  | refl => exact first
  | next _ step ih => simpa only [List.append_assoc] using ih.next step

end Drafted

theorem Recorded.trans {ds es : Ledger σ} (recorded : w.Recorded ds)
    (drafted : w.Drafted es w') : w'.Recorded (es ++ ds) := by
  obtain ⟨clock, devices, memory, before⟩ := recorded
  exact ⟨clock, devices, memory, before.trans drafted⟩

theorem Recorded.next {ds : Ledger σ} {d : Option (Draft σ)} (recorded : w.Recorded ds)
    (step : w.Drafts d w') : w'.Recorded (d.toList ++ ds) :=
  recorded.trans (.single step)

/-- What holds at the start and is kept by every step holds of the records of every history. -/
theorem Recorded.invariant {P : Ledger σ → World σ → Prop}
    (start : ∀ clock devices memory, P [] (.start clock devices memory))
    (step : ∀ {ds w d w'}, w.Recorded ds → P ds w → w.Drafts d w' → P (d.toList ++ ds) w')
    {ds : Ledger σ} (recorded : w.Recorded ds) : P ds w := by
  obtain ⟨clock, devices, memory, drafted⟩ := recorded
  induction drafted with
  | refl => exact start clock devices memory
  | next before next ih => exact step ⟨clock, devices, memory, before⟩ ih next

/-! Readings of scenarios that do not tell whether they are runnable. -/

section Readings

variable {f : Scenario σ → β}

theorem extending_map (unread : ∀ (s : Scenario σ) entries, f { s with entries } = f s)
    (w : World σ) (id : Nat) (e : Entry σ) :
    (w.extending id e).scenarios.map f = w.scenarios.map f :=
  w.modifyScenario_map f id fun s => unread s _

variable (blind : ∀ (s : Scenario σ) runnable, f { s with runnable } = f s)
include blind

theorem refreshing_map (w : World σ) (ids : List Nat) :
    (w.refreshing ids).scenarios.map f = w.scenarios.map f := by
  refine mapIdx_map f w.scenarios fun n s => ?_
  split
  · exact blind s _
  · rfl

theorem clearing_map (w : World σ) (ids : List Nat) :
    (w.clearing ids).scenarios.map f = w.scenarios.map f := by
  refine mapIdx_map f w.scenarios fun n s => ?_
  split
  · exact blind s _
  · rfl

theorem creating_map (w : World σ) (ids : List Nat) (description : String) (options : Options) :
    (w.creating ids description options).scenarios.map f = w.scenarios.map f ++
      [f { Scenario.new description options.suppressFor with testMode := options.only }] :=
  (refreshing_map blind _ _).trans List.map_append

theorem testing_map (w : World σ) (ids : List Nat) (id : Nat) (enabled : Bool)
    (untested : ∀ (s : Scenario σ) testMode, f { s with testMode } = f s) :
    (w.testing ids id enabled).scenarios.map f = w.scenarios.map f :=
  (refreshing_map blind _ _).trans (w.modifyScenario_map f id fun s => untested s enabled)

end Readings

/-- No scenario is ever lost or renamed; a new one comes after all others. -/
theorem Drafts.descriptions {d : Option (Draft σ)} (step : w.Drafts d w') :
    w.scenarios.map Scenario.description <+: w'.scenarios.map Scenario.description := by
  cases step with
  | spare spares =>
    have descriptions := congrArg (List.map Scenario.description) spares.outlines
    rw [List.map_map, List.map_map] at descriptions
    exact descriptions ▸ List.prefix_refl _
  | create =>
    rw [creating_map fun _ _ => rfl]
    exact List.prefix_append _ _
  | test =>
    have same := testing_map (f := Scenario.description) (fun _ _ => rfl) w
    exact same _ _ _ (fun _ _ => rfl) ▸ List.prefix_refl _
  | clear =>
    exact clearing_map (f := Scenario.description) (fun _ _ => rfl) w _ ▸ List.prefix_refl _
  | drop | complete | «open» | add | discard => exact List.prefix_refl _
  | close | bare =>
    exact extending_map (f := Scenario.description) (fun _ _ => rfl) _ _ _ ▸ List.prefix_refl _

theorem Drafted.descriptions {ds : Ledger σ} (drafted : w.Drafted ds w') :
    w.scenarios.map Scenario.description <+: w'.scenarios.map Scenario.description := by
  induction drafted with
  | refl => exact List.prefix_refl _
  | next _ step ih => exact ih.trans step.descriptions

/-- A scenario keeps its number and its description. -/
theorem Drafted.scenario {ds : Ledger σ} (drafted : w.Drafted ds w') {id : Nat} {s : Scenario σ}
    (found : w.scenarios[id]? = some s) :
    ∃ t, w'.scenarios[id]? = some t ∧ t.description = s.description := by
  have named : (w.scenarios.map Scenario.description)[id]? = some s.description := by
    rw [List.getElem?_map, found, Option.map_some]
  obtain ⟨more, kept⟩ := drafted.descriptions
  have within := (List.getElem?_eq_some_iff.mp named).1
  have there : (w'.scenarios.map Scenario.description)[id]? = some s.description := by
    rw [← kept, List.getElem?_append_left within, named]
  rw [List.getElem?_map] at there
  exact Option.map_eq_some_iff.mp there

theorem gathering_missing {block : Nat} (missing : w.block? block = none) (p : Predicate σ) :
    w.gathering block p = w := by
  rw [block?, List.find?_eq_none] at missing
  rw [gathering, List.map_congr_left (g := id), List.map_id]
  intro b member
  exact if_neg (by simpa using missing b member)

theorem discarding_missing {block : Nat} (missing : w.block? block = none) :
    w.discarding block = w := by
  rw [block?, List.find?_eq_none] at missing
  rw [discarding, List.filter_eq_self.mpr]
  intro b member
  simpa using missing b member

theorem extending_missing {id : Nat} (missing : w.scenarios.length ≤ id) (e : Entry σ) :
    w.extending id e = w := by
  rw [extending, modifyScenario, List.modify_eq_self missing]

end World

end Reflex
