import Reflex.Proofs.Manners

/-! Running code is a path of recorded steps: blocks, entries and the list of registered scenarios
change in no other way than by these, whatever the code does. -/
namespace Reflex
open Act Engine Evaluation

variable {σ α β : Type} {rule : Rule}

/-- A step is a path, however it ends. -/
def Act.Drafting (x : Act σ α) (w : World σ) : Prop := ∃ ds, w.Drafted ds (x w).2

namespace Act.Drafting

variable {x : Act σ α} {f : α → Act σ β} {w next : World σ}

theorem of_run {outcome : Except Interrupt α} {ds : Ledger σ} (ran : x w = (outcome, next))
    (drafted : w.Drafted ds next) : Drafting x w :=
  ⟨ds, by rw [ran]; exact drafted⟩

theorem still (unchanged : (x w).2 = w) : Drafting x w :=
  ⟨[], by rw [unchanged]; exact .refl⟩

theorem bind (first : Drafting x w)
    (rest : ∀ a next, x w = (.ok a, next) → Drafting (f a) next) : Drafting (x >>= f) w := by
  obtain ⟨ds, drafted⟩ := first
  rcases ran : x w with ⟨outcome, next⟩
  rw [ran] at drafted
  cases outcome with
  | ok a =>
    obtain ⟨es, further⟩ := rest a next ran
    exact ⟨es ++ ds, by rw [bind_ok ran]; exact drafted.trans further⟩
  | error i => exact ⟨ds, by rw [bind_error ran]; exact drafted⟩

theorem composes : Manner.Composes (σ := σ) fun _ x w => Drafting x w where
  still := still
  bind := bind
  around ran before after _ run := by
    obtain ⟨ds, drafted⟩ := run
    have began := World.Drafted.of_spares before.spares
    exact of_run ran ((began.trans drafted).trans (.of_spares after.spares))

theorem mark (m : Mark) : Drafting (mark m) w := of_run (mark_run m w) (.of_spares (.marked w m))

end Act.Drafting

namespace Engine

/-! Operations that run no code. -/

section Plain

variable {w : World σ}

theorem setTestMode_drafting (id : Nat) (enabled : Bool) : Drafting (setTestMode id enabled) w := by
  cases known : w.registry with
  | none =>
    apply Drafting.still
    rw [setTestMode, bind_error (discard_error (registry_dropped known))]
  | some ids =>
    cases found : w.scenarios[id]? with
    | none =>
      apply Drafting.still
      rw [setTestMode, bind_ok (discard_ok (registry_found known)),
        bind_error (discard_error (scenario_missing id found))]
    | some s => exact .of_run (setTestMode_run known found enabled) (.single (.test known))

theorem createScenario_drafting (description : String) (options : Options) :
    Drafting (createScenario description options) w := by
  rcases createScenario_cases description options w with ⟨_, failed⟩ | ⟨ids, known, untaken, ran⟩
  · exact .of_run failed .refl
  · exact .of_run ran (.single (.create known untaken))

theorem clearScenarios_drafting : Drafting clearScenarios w := by
  apply Drafting.composes.bind_still (registry_still w)
  intro ids found
  exact .of_run (modify_run _ w) (.single (.clear (registry_ok found).1))

/-- A block is opened for a scenario that was created. -/
theorem openBlock_found (id : Nat) (w : World σ) :
    (∃ i, openBlock id w = (.error i, w)) ∨
      id < w.scenarios.length ∧ openBlock id w = (.ok w.nextBlock, w.drafting id) := by
  rcases openBlock_cases id w with refused | opened
  · exact .inl refused
  cases found : w.scenarios[id]? with
  | some s => exact .inr ⟨(List.getElem?_eq_some_iff.mp found).1, opened⟩
  | none =>
    have refused : scenario id w = (.error _, w) := scenario_missing id found
    cases known : w.registry with
    | none =>
      left
      exact ⟨_, by rw [openBlock, bind_error (discard_error (registry_dropped known))]⟩
    | some ids =>
      left
      exact ⟨_, by rw [openBlock, bind_ok (discard_ok (registry_found known)),
        bind_error (discard_error refused)]⟩

theorem openBlock_drafting (id : Nat) : Drafting (openBlock id) w := by
  rcases openBlock_found id w with ⟨_, failed⟩ | ⟨created, ran⟩
  · exact .of_run failed .refl
  · exact .of_run ran (.single (.open created))

theorem discardBlock_drafting (block : Nat) : Drafting (discardBlock block) w := by
  have ran : discardBlock block w = (.ok (), w.discarding block) := rfl
  cases found : w.block? block with
  | none => exact .of_run ran (by rw [World.discarding_missing found]; exact .refl)
  | some b => exact .of_run ran (.single (.discard found))

theorem pushPredicate_drafting (block : Nat) (p : Predicate σ) :
    Drafting (pushPredicate block p) w := by
  have ran : pushPredicate block p w = (.ok (), w.gathering block p) := rfl
  cases found : w.block? block with
  | none => exact .of_run ran (by rw [World.gathering_missing found]; exact .refl)
  | some b => exact .of_run ran (.single (.add found))

theorem pushBare_drafting (id : Nat) (c : Callback σ) : Drafting (pushEntry id ⟨none, c⟩) w := by
  rcases Nat.lt_or_ge id w.scenarios.length with created | missing
  · exact .of_run (pushEntry_run id _ w) (.single (.bare created))
  · exact .of_run (pushEntry_run id _ w) (by rw [World.extending_missing missing]; exact .refl)

/-- Only an open block is closed. -/
theorem closeBlock_found (block : Nat) (c : Callback σ) (w : World σ) :
    (w.block? block = none ∧ ∃ i, closeBlock block c w = (.error i, w)) ∨
      ∃ b, w.block? block = some b ∧ closeBlock block c w = (.ok (), w.sealing b c) := by
  cases found : w.block? block with
  | none =>
    have refused : Engine.block block w =
        (.error (.failed (.missing "block" (toString block))), w) := by
      rw [Engine.block, bind_ok (get_run _), found]
      rfl
    exact .inl ⟨rfl, _, bind_error refused⟩
  | some b =>
    have opened : Engine.block block w = (.ok b, w) := by
      rw [Engine.block, bind_ok (get_run _), found]
      rfl
    have same : b.id = block := by simpa using List.find?_some found
    subst same
    exact .inr ⟨b, rfl, bind_ok opened⟩

theorem closeBlock_drafting (block : Nat) (c : Callback σ) : Drafting (closeBlock block c) w := by
  rcases closeBlock_found block c w with ⟨-, _, failed⟩ | ⟨b, found, ran⟩
  · exact .of_run failed .refl
  · exact .of_run ran (.single (.close found))

end Plain

section Ticks

variable {call : Call σ} (calls : ∀ p w, Drafting (call p) w) {w : World σ}
include calls

theorem runTimers_drafting (batch : List (Timer (Reaction σ))) :
    Drafting (runTimers call batch) w := by
  induction batch generalizing w with
  | nil => exact .still rfl
  | cons x rest ih =>
    apply Drafting.bind (.mark _)
    intro _ w _
    exact .bind (Drafting.composes.reporting (fun _ => rfl) (calls _ w)) fun _ _ _ => ih

theorem fireTimers_drafting (t : Instant) : Drafting (fireTimers call t) w :=
  Drafting.composes.behind (fireTimers_run call t w)
    (.of_same rfl rfl rfl rfl rfl (.taking w t)) (runTimers_drafting calls _)

theorem notify_drafting (topic : String) (arguments : List Value) :
    Drafting (notify call topic arguments) w := by
  apply Drafting.bind (.mark _)
  intro _ w _
  have emitted := emit_manner Drafting.composes calls topic arguments (w := w)
  exact Drafting.composes.reporting (fun _ => rfl) emitted

theorem publishSecond_drafting (t : Instant) : Drafting (publishSecond call t) w := by
  apply Drafting.bind (notify_drafting calls _ _)
  intro _ w _
  split
  · apply Drafting.bind (notify_drafting calls _ _)
    intro _ w _
    split
    · exact notify_drafting calls _ _
    · exact .still rfl
  · exact .still rfl

theorem runJobs_drafting (t : Instant) (jobs : List (Job (Reaction σ))) :
    Drafting (runJobs call t jobs) w := by
  induction jobs generalizing w with
  | nil => exact .still rfl
  | cons j rest ih =>
    apply Drafting.bind (.mark _)
    intro _ w _
    exact .bind (Drafting.composes.reporting (fun _ => rfl) (calls _ w)) fun _ _ _ => ih

omit calls in
theorem setCurrent_drafting (t : Option Instant) : Drafting (setCurrent t) w :=
  .of_run (modify_run _ w) (.of_spares (.of_same rfl rfl rfl rfl rfl))

theorem evaluateSecond_drafting (t : Instant) : Drafting (evaluateSecond call t) w := by
  have second : Drafting (runSecond call t) w := by
    apply Drafting.composes.behind (bind_ok (get_run w)) (.refl w)
    apply Drafting.bind (setCurrent_drafting _)
    intro _ w _
    apply Drafting.bind (.mark _)
    intro _ w _
    apply Drafting.bind (fireTimers_drafting calls t)
    intro _ w _
    apply Drafting.bind (.bind (publishSecond_drafting calls t) fun _ _ _ => .mark _)
    intro _ w _
    apply Drafting.composes.behind (bind_ok (get_run w)) (.refl w)
    exact .bind (runJobs_drafting calls t _) fun _ _ _ => setCurrent_drafting _
  exact .bind second fun _ _ _ => .mark _

theorem runSeconds_drafting (t : Instant) (n : Nat) : Drafting (runSeconds call t n) w := by
  induction n generalizing t w with
  | zero => exact .still rfl
  | succ n ih => exact .bind (evaluateSecond_drafting calls t) fun _ _ _ => ih _

theorem tick_drafting : Drafting (tick call) w := by
  have began : w.Spares w.beginning := .of_same rfl rfl rfl rfl rfl
  apply Drafting.composes.behind (tick_run call w) ⟨began.trans (.noting _ _), .beginning w⟩
  apply Drafting.bind (runSeconds_drafting calls _ _)
  intro _ w _
  apply Drafting.bind (fireTimers_drafting calls _)
  intro _ w _
  exact .bind (.mark _) fun _ _ _ => .still rfl

end Ticks

theorem drafting_covers : Manner.Covers (σ := σ) fun _ x w => Drafting x w where
  toComposes := Drafting.composes
  every s task w := .of_run (every_run s task w) (.of_spares (.of_same rfl rfl rfl rfl rfl))
  remove id w := .of_run (remove_run id w) (.of_spares (.of_same rfl rfl rfl rfl rfl))
  createScenario description options _ := createScenario_drafting description options
  setTestMode id enabled _ := setTestMode_drafting id enabled
  clearScenarios _ := clearScenarios_drafting
  dropRuntime _ w := .of_run (modify_run _ w) (.single .drop)
  openBlock id _ := openBlock_drafting id
  discardBlock block _ := discardBlock_drafting block
  pushPredicate block p _ := pushPredicate_drafting block p
  pushBare id c _ := pushBare_drafting id c
  closeBlock block c _ := closeBlock_drafting block c
  complete _ w := .of_run (modify_run _ w) (.single .complete)
  tick calls _ := tick_drafting calls

theorem exec_drafting (depth : Nat) (p : Program σ) (w : World σ) : Drafting (exec depth p) w :=
  exec_manner drafting_covers depth p w

theorem build_drafting (depth : Nat) (components : List (Component σ)) (w : World σ) :
    Drafting (build (exec depth) components) w :=
  build_manner drafting_covers (exec_drafting depth) components

theorem declare_drafting (depth : Nat) (d : Declaration) (w : World σ) :
    Drafting (declare (exec depth) d) w :=
  declare_manner drafting_covers (exec_drafting depth) d

end Engine

/-! Whole histories. -/

namespace Bootstrap

theorem runStages_drafted (stages : List (Stage × Act σ Unit))
    (each : ∀ stage ∈ stages, ∀ w, Drafting stage.2 w) (w : World σ) :
    ∃ ds, w.Drafted ds (runStages stages w).2 := by
  induction stages generalizing w with
  | nil => exact ⟨[], .refl⟩
  | cons first rest ih =>
    obtain ⟨stage, act⟩ := first
    obtain ⟨here, others⟩ := List.forall_mem_cons.mp each
    obtain ⟨ds, drafted⟩ : Drafting act w := here w
    unfold runStages
    rcases ran : act w with ⟨outcome, next⟩
    rw [ran] at drafted
    cases outcome with
    | error cause => exact ⟨ds, drafted⟩
    | ok _ =>
      obtain ⟨es, further⟩ := ih others next
      exact ⟨es ++ ds, drafted.trans further⟩

end Bootstrap

theorem bootstrap_drafted (depth : Nat) (c : Config) (w : World σ) :
    ∃ ds, w.Drafted ds (bootstrap depth c w).2 := by
  have calls := exec_drafting (σ := σ) depth
  refine Bootstrap.runStages_drafted _ ?_ w
  simp only [Bootstrap.stages, List.forall_mem_cons]
  exact ⟨build_drafting depth _, fun _ => seed_manner Drafting.composes calls _,
    fun _ => declareAll_manner drafting_covers calls _, List.forall_mem_nil _⟩

/-- Every world of a history has records. -/
theorem Session.recorded {e : Bool} {w : World σ} (session : Session rule e w) :
    ∃ ds, w.Recorded ds := by
  induction session with
  | start clock devices memory => exact ⟨[], clock, devices, memory, .refl⟩
  | @build w next components depth outcome _ _ built ih =>
    obtain ⟨ds, recorded⟩ := ih
    obtain ⟨es, drafted⟩ := build_drafting depth components w
    rw [buildIn] at built
    rw [built] at drafted
    exact ⟨es ++ ds, recorded.trans drafted⟩
  | @run w next p depth outcome _ _ ran ih =>
    obtain ⟨ds, recorded⟩ := ih
    obtain ⟨es, drafted⟩ := exec_drafting depth p w
    rw [Engine.run] at ran
    rw [ran] at drafted
    exact ⟨es ++ ds, recorded.trans drafted⟩

end Reflex
