import Mathlib.Logic.Relation
import Reflex.Proofs.Alterations

/-! All that ever happens to the world, as single steps. A scenario in a pass is in it until
the pass ends, so being led to by steps is passed on by passes and holds of every run of
code; whatever the steps keep then holds at every moment of every history. -/
namespace Reflex
open Act Engine Evaluation

variable {σ α : Type} {rule : Rule}

namespace World

/-- The steps that code takes, those of passes included. -/
inductive Evolves (rule : Rule) : World σ → World σ → Prop
  | alter {w w' : World σ} : w.Alters rule w' → Evolves rule w w'
  | begin {w : World σ} {id : Nat} {s : Scenario σ} : w.Admits id s → Evolves rule w (begun id w)
  | conclude {w : World σ} {id n : Nat} {s : Scenario σ} : w.scenarios[id]? = some s →
      s.evaluating = true → Evolves rule w (concluded id n w)
  | stop {w : World σ} {id : Nat} {s : Scenario σ} : w.scenarios[id]? = some s →
      s.evaluating = true → Evolves rule w ((released id w).marked (.passEnded id none))

/-- What running code makes of a world, at any moment of it. -/
abbrev Becomes (rule : Rule) : World σ → World σ → Prop := Relation.ReflTransGen (Evolves rule)

/-- A runtime was built of components, with no scenario. -/
def completed (w : World σ) (components : List (Component σ)) : World σ :=
  { w with components, registry := some [] }

/-- What building runtimes and running code make of a world. -/
inductive Leads (rule : Rule) (w : World σ) : World σ → Prop
  | refl : Leads rule w w
  | code {w' next : World σ} : Leads rule w w' → w'.Evolves rule next → Leads rule w next
  | build {w' : World σ} {components : List (Component σ)} : Leads rule w w' →
      (∀ c ∈ components, c.Within rule) → Leads rule w (w'.completed components)

/-- The worlds at all moments of all histories. -/
def Arises (rule : Rule) (w : World σ) : Prop :=
  ∃ clock devices memory, (World.start clock devices memory).Leads rule w

variable {w w' last : World σ}

theorem Evolves.lodges (step : w.Evolves rule w') (lodges : w.Lodges rule) : w'.Lodges rule := by
  cases step with
  | alter alters =>
    cases alters with
    | change change => exact change.lodges lodges
    | arm within => exact lodges.arming _ (.inr within)
    | cancel => exact lodges.cancelling _
    | drop => exact ⟨lodges.1, lodges.2, lodges.3, lodges.4, lodges.5, lodges.6⟩
    | write => exact (lodges.writing _ _ _).marked _
    | expire => exact ((lodges.storing _ _).marked _).marked _
    | begin =>
      exact (lodges.agenda_kept { w.agenda with lastTick := some w.clock.truncate } rfl
        lodges.timers).marked _
    | second | start | serve | finish => exact lodges.marked _
    | take => exact lodges.taking _
  | begin => exact lodges.begun _
  | conclude => exact lodges.closed _ (.ok _)
  | stop => exact (lodges.released _).marked _

theorem Leads.trans (first : w.Leads rule w') (rest : w'.Leads rule last) : w.Leads rule last := by
  induction rest with
  | refl => exact first
  | code _ step ih => exact ih.code step
  | build _ kept ih => exact ih.build kept

theorem Becomes.leads (becomes : w.Becomes rule w') : w.Leads rule w' := by
  induction becomes with
  | refl => exact .refl
  | tail _ step ih => exact ih.code step

theorem Lodges.completed (lodges : w.Lodges rule) {components : List (Component σ)}
    (kept : ∀ c ∈ components, c.Within rule) : (w.completed components).Lodges rule :=
  ⟨lodges.1, lodges.2, lodges.3, lodges.4, lodges.5, kept⟩

theorem Leads.lodges (leads : w.Leads rule w') (lodges : w.Lodges rule) : w'.Lodges rule := by
  induction leads with
  | refl => exact lodges
  | code _ step ih => exact step.lodges ih
  | build _ kept ih => exact ih.completed kept

namespace Arises

theorem leads (arises : w.Arises rule) (leads : w.Leads rule w') : w'.Arises rule := by
  obtain ⟨clock, devices, memory, before⟩ := arises
  exact ⟨clock, devices, memory, before.trans leads⟩

theorem lodges (arises : w.Arises rule) : w.Lodges rule := by
  obtain ⟨clock, devices, memory, before⟩ := arises
  exact before.lodges (start_lodges clock devices memory)

/-- What holds at the start and is kept by every step and by building holds at every moment. -/
theorem invariant {P : World σ → Prop}
    (start : ∀ clock devices memory, P (.start clock devices memory))
    (code : ∀ {w w'}, w.Arises rule → P w → w.Evolves rule w' → P w')
    (build : ∀ {w components}, (∀ c ∈ components, Component.Within rule c) → P w →
      P (w.completed components)) (arises : w.Arises rule) : P w := by
  obtain ⟨clock, devices, memory, before⟩ := arises
  induction before with
  | refl => exact start clock devices memory
  | code leads step ih => exact code ⟨clock, devices, memory, leads⟩ ih step
  | build _ kept ih => exact build kept ih

end Arises

end World

/-- A scenario that is in a pass when code starts is in it afterwards. -/
def Attending : Link σ := fun w _ w' =>
  ∀ (id : Nat) (s : Scenario σ), w.scenarios[id]? = some s → s.evaluating = true →
    ∃ s', w'.scenarios[id]? = some s' ∧ s'.pace = s.pace

theorem Attending.alter {w w' : World σ} {e : Bool} (alters : w.Alters rule w') :
    Attending w e w' := by
  intro id s found _
  obtain ⟨new, paces, -⟩ := alters.touches.paces
  have within : id < (w.scenarios.map Scenario.pace).length := by
    rw [List.length_map]
    exact (List.getElem?_eq_some_iff.mp found).1
  have same := congrArg (·[id]?) paces
  simp only [List.getElem?_append_left within, List.getElem?_map, found, Option.map_some] at same
  obtain ⟨s', known, pace⟩ := Option.map_eq_some_iff.mp same
  exact ⟨s', known, pace⟩

theorem Evaluation.closed_other {id n : Nat} (other : id ≠ n) (outcome : Except Interrupt Nat)
    (w : World σ) : (closed id outcome w).scenarios[n]? = w.scenarios[n]? := by
  have released : (released id w).scenarios[n]? = w.scenarios[n]? := w.modifyScenario_other other _
  match outcome with
  | .ok _ => exact (World.modifyScenario_other _ other _).trans released
  | .error (.failed _) => exact released
  | .error .exhausted => rfl

variable (rule) in
/-- No pass is over a scenario that is in one. -/
theorem attending_entire : (Attending : Link σ).Entire rule where
  refl _ _ s found _ := ⟨s, found, rfl⟩
  cut attends := attends
  trans := by
    intro w w' last e first rest id s found busy
    obtain ⟨t, there, same⟩ := first id s found busy
    obtain ⟨u, here, alike⟩ := rest id t there ((congrArg Prod.fst same).trans busy)
    exact ⟨u, here, alike.trans same⟩
  alter := Attending.alter
  pass := by
    intro w last id s outcome admits visited n t found busy
    have other : id ≠ n := by
      rintro rfl
      obtain rfl := Option.some.inj (admits.found.symm.trans found)
      exact Bool.false_ne_true (admits.idle.symm.trans busy)
    rw [closed_other other]
    exact visited n t ((w.modifyScenario_other other _).trans found) busy

/-- Steps lead from the world before a run to the world after, however it ends. -/
def Becoming (rule : Rule) : Link σ := fun w e w' => Attending w e w' ∧ w.Becomes rule w'

theorem becoming_entire : (Becoming rule : Link σ).Entire rule where
  refl w := ⟨(attending_entire rule).refl w, .refl⟩
  cut become := become
  trans first rest :=
    ⟨(attending_entire rule).trans first.1 rest.1,
      Relation.ReflTransGen.trans first.2 rest.2⟩
  alter alters := ⟨.alter alters, .single (.alter alters)⟩
  pass := by
    rintro w last id s outcome admits ⟨attends, visited⟩
    have began : w.Becomes rule last := .head (.begin admits) visited
    -- The visits leave the scenario in its pass, which is therefore there to be ended.
    obtain ⟨t, found, pace⟩ := attends id _ (begun_at admits.found) rfl
    have busy : t.evaluating = true := congrArg Prod.fst pace
    constructor
    · exact (attending_entire rule).pass outcome admits attends
    · match outcome with
      | .ok n => exact began.tail (.conclude found busy)
      | .error (.failed cause) => exact began.tail (.stop found busy)
      | .error .exhausted => exact began

namespace Engine

variable {w next : World σ}

theorem run_becomes (allowed : rule.Open) {depth : Nat} {p : Program σ}
    {outcome : Except Interrupt Bool} (kept : p.Within rule) (lodges : w.Lodges rule)
    (ran : Engine.run depth p w = (outcome, next)) : w.Becomes rule next :=
  (((exec_entire becoming_entire allowed depth).code kept lodges).after_run ran).2.2

/-- The subscribers of a write run once it is stored. -/
theorem setVariable_becomes (allowed : rule.Open) {depth : Nat} {name : String} {value : Value}
    {ttl : Option Span} {outcome : Except Interrupt Unit} (lodges : w.Lodges rule)
    (ran : setVariable (exec depth) name value ttl w = (outcome, next)) :
    (w.publishing name value ttl).Becomes rule next := by
  have published := published_entire becoming_entire allowed (exec_entire becoming_entire allowed
    depth) variableTopic [variableChange name value (w.value name)] (lodges.writing name value ttl)
  rw [setVariable_run, publishVariable, emit_run] at ran
  exact (published.after_run ran).2.2

/-- The subscribers of a write of a feature run once it is made. -/
theorem setFeature_becomes (allowed : rule.Open) {depth : Nat} {device feature : String}
    {value : Value} {d : Device} {outcome : Except Interrupt Bool} (lodges : w.Lodges rule)
    (known : Table.find? device w.devices = some d)
    (ran : setFeature (exec depth) device feature value w = (outcome, next)) :
    (w.adjusting d device feature value).Becomes rule next := by
  rw [setFeature_run _ feature value known] at ran
  have told := publishFeature_upheld becoming_entire.law allowed
    (exec_entire becoming_entire allowed depth) d device feature value lodges
  exact (told.after_run ran).2.2

/-- A runtime exists after building it if all components were set up. -/
theorem buildIn_cases (allowed : rule.Open) {depth : Nat} {components : List (Component σ)}
    {outcome : Except Interrupt Unit} (kept : ∀ c ∈ components, c.Within rule)
    (lodges : w.Lodges rule) (built : buildIn depth components w = (outcome, next)) :
    (∃ last, w.Becomes rule last ∧ outcome = .ok () ∧ next = last.completed components) ∨
      ∃ cause, w.Becomes rule next ∧ outcome = .error cause := by
  have setups := runSetups_upheld becoming_entire.law
    (exec_entire becoming_entire allowed depth) components kept lodges
  rcases ran : runSetups (exec depth) components w with ⟨answer, last⟩
  have becomes : w.Becomes rule last := (setups.after_run ran).2.2
  cases answer with
  | error cause =>
    obtain ⟨rfl, rfl⟩ := Prod.mk.inj ((bind_error ran).symm.trans built)
    exact .inr ⟨cause, becomes, rfl⟩
  | ok _ =>
    obtain ⟨rfl, rfl⟩ := Prod.mk.inj ((bind_ok ran).symm.trans built)
    exact .inl ⟨last, becomes, rfl, rfl⟩

end Engine

/-- Every world of a history arises. -/
theorem Session.arises (allowed : rule.Open) {e : Bool} {w : World σ} (session : Session rule e w) :
    w.Arises rule := by
  induction session with
  | start clock devices memory => exact ⟨clock, devices, memory, .refl⟩
  | build _ kept built ih =>
    rcases buildIn_cases allowed kept ih.lodges built with
      ⟨last, becomes, -, rfl⟩ | ⟨cause, becomes, -⟩
    · exact ih.leads (becomes.leads.build kept)
    · exact ih.leads becomes.leads
  | run _ kept ran ih => exact ih.leads (run_becomes allowed kept ih.lodges ran).leads

end Reflex
