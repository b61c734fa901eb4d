import Reflex.Proofs.Drafting
import Reflex.Proofs.Roster

/-! What holds of a run when it holds of the runs it is made of holds of all code once it holds
of the operations that run none. The ways through the operations are gone here once, for all that
may be told of runs from a world; only of ticks is it left open how they are told. -/
namespace Reflex
open Act Engine Evaluation

variable {σ α β : Type}

/-- Nothing is declared, and nothing happens to jobs and to the second being evaluated. -/
structure World.Minor (w w' : World σ) : Prop where
  spares : w.Spares w'
  idles : w.Idles w'

namespace World.Minor

theorem of_same {w w' : World σ} (blocks : w'.blocks = w.blocks)
    (nextBlock : w'.nextBlock = w.nextBlock) (components : w'.components = w.components)
    (registry : w'.registry = w.registry) (scenarios : w'.scenarios = w.scenarios)
    (idles : w.Idles w') : w.Minor w' :=
  ⟨.of_same blocks nextBlock components registry scenarios, idles⟩

theorem refl (w : World σ) : w.Minor w := ⟨.refl w, .refl w⟩

theorem marked (w : World σ) {m : Mark} (quiet : m.isWork = false) : w.Minor (w.marked m) :=
  ⟨.marked w m, .marked w quiet⟩

theorem writing (w : World σ) (name : String) (value : Value) (ttl : Option Span) :
    w.Minor (w.writing name value ttl) :=
  ⟨.writing w name value ttl, .writing w name value ttl⟩

theorem lapsing (w : World σ) (name : String) : w.Minor (w.lapsing name) :=
  ⟨.lapsing w name, .lapsing w name⟩

theorem adjusting (w : World σ) (d : Device) (device feature : String) (value : Value) :
    w.Minor (w.adjusting d device feature value) :=
  ⟨.adjusting w d device feature value, .adjusting w d device feature value⟩

theorem begun (id : Nat) (w : World σ) : w.Minor (begun id w) := ⟨.begun id w, .begun id w⟩

theorem closed (id : Nat) (outcome : Except Interrupt Nat) (w : World σ) :
    w.Minor (closed id outcome w) :=
  ⟨.closed id outcome w, .closed id outcome w⟩

end World.Minor

/-- A way in which steps may run from worlds. -/
abbrev Manner (σ : Type) := (α : Type) → Act σ α → World σ → Prop

/-- A run is in the manner when the runs it is made of are. -/
structure Manner.Composes (M : Manner σ) : Prop where
  /-- A step that reads the world, and may fail or stop there. -/
  still {α : Type} {x : Act σ α} {w : World σ} : (x w).2 = w → M α x w
  bind {α β : Type} {x : Act σ α} {f : α → Act σ β} {w : World σ} : M α x w →
    (∀ a next, x w = (.ok a, next) → M β (f a) next) → M β (x >>= f) w
  /-- A run with minor changes before and after, however it ends. -/
  around {α β : Type} {x : Act σ α} {y : Act σ β} {w v next : World σ}
    {outcome : Except Interrupt β} : y w = (outcome, next) → w.Minor v → (x v).2.Minor next →
    ended outcome = ended (x v).1 → M α x v → M β y w

/-- So are the operations that do more than minor things and run no code, and ticks if the code
is that they run. -/
structure Manner.Covers (M : Manner σ) : Prop extends M.Composes where
  every (s : Schedule) (task : Reaction σ) (w : World σ) : M _ (every s task) w
  remove (id : Nat) (w : World σ) : M _ (remove id) w
  createScenario (description : String) (options : Options) (w : World σ) :
    M _ (createScenario description options) w
  setTestMode (id : Nat) (enabled : Bool) (w : World σ) : M _ (setTestMode id enabled) w
  clearScenarios (w : World σ) : M _ clearScenarios w
  dropRuntime (withStore : Bool) (w : World σ) : M _ (dropRuntime withStore) w
  openBlock (id : Nat) (w : World σ) : M _ (openBlock id) w
  discardBlock (block : Nat) (w : World σ) : M _ (discardBlock block) w
  pushPredicate (block : Nat) (p : Predicate σ) (w : World σ) : M _ (pushPredicate block p) w
  pushBare (id : Nat) (c : Callback σ) (w : World σ) : M _ (pushEntry id ⟨none, c⟩) w
  closeBlock (block : Nat) (c : Callback σ) (w : World σ) : M _ (closeBlock block c) w
  complete (components : List (Component σ)) (w : World σ) :
    M _ (modify fun w => { w with components, registry := some [] } : Act σ Unit) w
  tick {call : Call σ} (calls : ∀ p w, M _ (call p) w) (w : World σ) : M _ (tick call) w

variable {M : Manner σ}

namespace Manner.Composes

variable (composes : M.Composes) {x : Act σ α} {f : α → Act σ β} {w next : World σ}
include composes

/-- A run that is a run from further along. -/
theorem behind {y : Act σ α} (same : x w = y next) (minor : w.Minor next) (rest : M α y next) :
    M α x w :=
  composes.around same minor (.refl _) rfl rest

theorem of_minor {outcome : Except Interrupt α} (ran : x w = (outcome, next))
    (minor : w.Minor next) : M α x w := by
  have rest : M α (fun v => (outcome, v)) next := composes.still rfl
  exact composes.behind ran minor rest

theorem mark {m : Mark} (quiet : m.isWork = false) : M Unit (mark m) w :=
  composes.of_minor (mark_run m w) (.marked w quiet)

theorem bind_still (unchanged : (x w).2 = w) (rest : ∀ a, x w = (.ok a, w) → M β (f a) w) :
    M β (x >>= f) w := by
  apply composes.bind (composes.still unchanged)
  intro a next ran
  obtain rfl : next = w := by rw [ran] at unchanged; exact unchanged
  exact rest a ran

theorem discard (run : M α x w) : M PUnit (discard x) w :=
  composes.bind run fun _ _ _ => composes.still rfl

theorem attempt (run : M α x w) : M _ (attempt x) w := by
  rcases ran : x w with ⟨outcome, next⟩
  have after : (x w).2.Minor next := by rw [ran]; exact .refl next
  have answer : (x w).1 = outcome := by rw [ran]
  match outcome, ran, answer with
  | .ok a, ran, answer =>
    exact composes.around (attempt_ok ran) (.refl w) after (by rw [answer]; rfl) run
  | .error (.failed cause), ran, answer =>
    exact composes.around (attempt_failed ran) (.refl w) after (by rw [answer]; rfl) run
  | .error .exhausted, ran, answer =>
    exact composes.around (attempt_exhausted ran) (.refl w) after (by rw [answer]; rfl) run

theorem reporting {report : Failure → Mark} (quiet : ∀ cause, (report cause).isWork = false)
    (run : M α x w) : M Unit (reporting report x) w := by
  apply composes.bind (composes.attempt run)
  intro outcome next _
  cases outcome with
  | ok => exact composes.still rfl
  | error cause => exact composes.mark (quiet cause)

end Manner.Composes

namespace Engine

theorem subscribe_manner (composes : M.Composes) (topic : String) (handler : Reaction σ)
    (w : World σ) : M _ (subscribe topic handler) w :=
  composes.of_minor (subscribe_run topic handler w)
    (.of_same rfl rfl rfl rfl rfl ⟨rfl, rfl, rfl, .of_mark rfl rfl⟩)

theorem once_manner (composes : M.Composes) (d : Span) (task : Reaction σ) (w : World σ) :
    M _ (once d task) w :=
  composes.of_minor (once_run d task w) (.of_same rfl rfl rfl rfl rfl (.arming w d task))

/-! What publications and passes run. -/

section Composed

variable (composes : M.Composes) {call : Call σ} (calls : ∀ p w, M _ (call p) w) {w : World σ}
include composes calls

theorem deliver_manner (arguments : List Value)
    (subscriptions : List (Subscription (Reaction σ))) :
    M _ (deliver call arguments subscriptions) w := by
  induction subscriptions generalizing w with
  | nil => exact composes.still rfl
  | cons s rest ih =>
    apply composes.bind (composes.mark rfl)
    intro _ w _
    exact composes.bind (composes.discard (calls _ w)) fun _ _ _ => ih

theorem emit_manner (topic : String) (arguments : List Value) :
    M _ (emit call topic arguments) w :=
  composes.behind (emit_run call topic arguments w) (.marked w rfl)
    (deliver_manner composes calls _ _)

theorem setVariable_manner (name : String) (value : Value) (ttl : Option Span) :
    M _ (setVariable call name value ttl) w :=
  composes.behind (setVariable_run call name value ttl w) (.writing w name value ttl)
    (emit_manner composes calls _ _)

theorem expireVariable_manner (name : String) : M _ (expireVariable call name) w := by
  apply composes.behind (expireVariable_run call name w) (.lapsing w name)
  unfold publishLapse
  split
  · exact emit_manner composes calls _ _
  · exact composes.still rfl

theorem setFeature_manner (device feature : String) (value : Value) :
    M _ (setFeature call device feature value) w := by
  cases known : Table.find? device w.devices with
  | none =>
    apply composes.still
    rw [setFeature_missing call feature value known]
  | some d =>
    apply composes.behind (setFeature_run call feature value known)
      (.adjusting w d device feature value)
    unfold publishFeature
    split
    · exact composes.bind (deliver_manner composes calls _ _) fun _ _ _ => composes.still rfl
    · exact composes.still rfl

theorem allHold_manner (group : List (Predicate σ)) : M _ (allHold call group) w := by
  induction group generalizing w with
  | nil => exact composes.still rfl
  | cons p rest ih =>
    apply composes.bind (calls _ w)
    intro holds w _
    cases holds with
    | true => exact ih
    | false => exact composes.still rfl

theorem applies_manner (group : Option (List (Predicate σ))) (tally : Tally) :
    M _ (applies call group tally) w := by
  cases group with
  | none => exact composes.still rfl
  | some predicates => exact allHold_manner composes calls predicates

theorem runCallback_manner (description : String) (c : Callback σ) (payload : Option Value) :
    M _ (runCallback call description c payload) w := by
  apply composes.bind (composes.attempt (calls _ w))
  intro outcome w _
  cases outcome <;> exact composes.still rfl

theorem visit_manner (id : Nat) (description : String) (payload : Option Value) (place : Nat)
    (tally : Tally) (entries : List (Entry σ)) :
    M _ (visit call id description payload place tally entries) w := by
  induction entries generalizing place tally w with
  | nil => exact composes.still rfl
  | cons e rest ih =>
    apply composes.bind (applies_manner composes calls e.group tally)
    intro holds w _
    cases holds with
    | true =>
      apply composes.bind (composes.mark rfl)
      intro _ w _
      have ran := runCallback_manner composes calls description e.callback payload (w := w)
      exact composes.bind ran fun _ _ _ => ih _ _
    | false => exact ih _ _

theorem runPass_manner (id : Nat) (s : Scenario σ) (payload : Option Value) :
    M _ (runPass call id s payload) w := by
  have visited := visit_manner composes calls id s.description payload 0 ⟨0, 0⟩ s.entries
    (w := begun id w)
  rcases ran : visit call id s.description payload 0 ⟨0, 0⟩ s.entries (begun id w) with
    ⟨answer, last⟩
  refine composes.around (runPass_closed ran) (.begun id w) ?_ ?_ visited
  · rw [ran]
    exact .closed id _ last
  · rw [ran]
    cases answer <;> rfl

theorem assert_manner (id : Nat) (payload : Option Value) : M _ (assert call id payload) w := by
  cases found : w.scenarios[id]? with
  | none => exact composes.still (by rw [assert_missing call id payload found])
  | some s =>
    rcases assert_cases call payload found with ignored | reentered | ⟨-, passed⟩
    · exact composes.of_minor ignored (.refl w)
    · exact composes.of_minor reentered (.marked w rfl)
    · exact composes.behind passed (.refl w) (runPass_manner composes calls id s payload)

theorem seed_manner (presets : Table Value) : M _ (seed call presets) w := by
  induction presets generalizing w with
  | nil => exact composes.still rfl
  | cons preset rest ih =>
    exact composes.bind (setVariable_manner composes calls _ _ _) fun _ _ _ => ih

end Composed

/-! Calls by name, programs, and setting a runtime up. -/

section Covered

variable (covers : M.Covers)
include covers

theorem installTrigger_manner (id : Nat) (t : Trigger) (w : World σ) :
    M _ (installTrigger id t) w := by
  unfold installTrigger
  split
  · exact covers.discard (subscribe_manner covers.toComposes _ _ w)
  · exact covers.discard (covers.every _ _ w)

variable {call : Call σ} (calls : ∀ p w, M _ (call p) w) {w : World σ}
include calls

theorem invokeTrigger_manner (id : Nat) (name : String) (arguments : List Value) :
    M _ (invokeTrigger call id name arguments) w := by
  apply covers.bind_still rfl
  rintro w ⟨⟩
  apply covers.bind_still (ofInvalid_still _ w)
  intro names _
  apply covers.bind_still (ofInvalid_still _ w)
  intro factory _
  cases factory with
  | builtin k =>
    apply covers.bind_still (ofInvalid_still _ w)
    exact fun t _ => installTrigger_manner covers id t w
  | custom make => exact covers.discard (calls _ w)

theorem invokeConstraint_manner (block : Nat) (name : String) (arguments : List Value) :
    M _ (invokeConstraint call block name arguments) w := by
  apply covers.bind_still rfl
  rintro w ⟨⟩
  apply covers.bind_still (ofInvalid_still _ w)
  intro names _
  apply covers.bind_still (ofInvalid_still _ w)
  intro factory _
  cases factory with
  | builtin k =>
    apply covers.bind_still (ofInvalid_still _ w)
    exact fun q _ => covers.pushPredicate block (.condition q) w
  | custom make => exact covers.discard (calls _ w)

theorem perform_manner {r : Reply} (q : Request r) : M _ (perform call q) w := by
  have composes := covers.toComposes
  cases q with
  | setClock | setMaxCatchUp =>
    exact composes.of_minor (modify_run _ w)
      (.of_same rfl rfl rfl rfl rfl ⟨rfl, rfl, rfl, .of_same rfl⟩)
  | registerDevice d =>
    exact composes.of_minor rfl (.of_same rfl rfl rfl rfl rfl (.equipping w d))
  | unsubscribe id =>
    exact composes.of_minor (unsubscribe_run id w)
      (.of_same rfl rfl rfl rfl rfl ⟨rfl, rfl, rfl, .of_mark rfl rfl⟩)
  | cancel id =>
    exact composes.of_minor (cancel_run id w)
      (.of_same rfl rfl rfl rfl rfl (.cancelling w id))
  | remove id => exact covers.remove id w
  | createScenario description options => exact covers.createScenario description options w
  | setTestMode id enabled => exact covers.setTestMode id enabled w
  | clearScenarios => exact covers.clearScenarios w
  | dropRuntime withStore => exact covers.dropRuntime withStore w
  | openTriggers id => exact composes.still (openTriggers_still id w)
  | openBlock id => exact covers.openBlock id w
  | discardBlock block => exact covers.discardBlock block w
  | emit topic arguments => exact emit_manner composes calls topic arguments
  | set name value ttl => exact setVariable_manner composes calls name value ttl
  | expire name => exact expireVariable_manner composes calls name
  | setFeature device feature value =>
    exact setFeature_manner composes calls device feature value
  | assert id payload => exact assert_manner composes calls id payload
  | tick => exact covers.tick calls w
  | invokeTrigger id name arguments => exact invokeTrigger_manner covers calls id name arguments
  | invokeConstraint block name arguments =>
    exact invokeConstraint_manner covers calls block name arguments

theorem interpret_manner (p : Program σ) : M _ (interpret call p) w := by
  induction p generalizing w with
  | done | fail => exact covers.still rfl
  | look _ ih | load _ ih => exact covers.behind (bind_ok (get_run w)) (.refl w) (ih _)
  | save memory _ ih =>
    exact covers.behind (bind_ok (modify_run _ w))
      (.of_same rfl rfl rfl rfl rfl (.of_same rfl rfl)) ih
  | note m _ ih =>
    apply covers.bind (covers.mark ?_) fun _ _ _ => ih
    cases m <;> rfl
  | request q _ ih =>
    exact covers.bind (covers.attempt (perform_manner covers calls q)) fun answer _ _ => ih answer
  | subscribe topic handler _ _ ih =>
    exact covers.bind (subscribe_manner covers.toComposes topic _ w) fun id _ _ => ih id
  | every s job _ _ ih => exact covers.bind (covers.every s _ w) fun id _ _ => ih id
  | once d job _ _ ih =>
    exact covers.bind (once_manner covers.toComposes d _ w) fun id _ _ => ih id
  | check block p _ _ ih => exact covers.bind (covers.pushPredicate block _ w) fun _ _ _ => ih
  | fallback id callback _ _ ih => exact covers.bind (covers.pushBare id _ w) fun _ _ _ => ih
  | close block callback _ _ ih => exact covers.bind (covers.closeBlock block _ w) fun _ _ _ => ih

theorem runSetups_manner (components : List (Component σ)) :
    M _ (runSetups call components) w := by
  induction components generalizing w with
  | nil => exact covers.still rfl
  | cons c rest ih =>
    apply covers.bind ?_ fun _ _ _ => ih
    unfold runSetup
    split
    · exact covers.still rfl
    · apply covers.behind (bind_ok (modify_run _ w))
        (.of_same rfl rfl rfl rfl rfl (.of_same rfl rfl))
      exact covers.discard (subscribe_manner covers.toComposes _ _ _)
    · exact covers.discard (calls _ w)

theorem build_manner (components : List (Component σ)) : M _ (build call components) w :=
  covers.bind (runSetups_manner covers calls components) fun _ w _ =>
    covers.complete components w

/-! Declarations. -/

theorem invokeTriggers_manner (id : Nat) (cs : List NamedCall) :
    M _ (invokeTriggers call id cs) w := by
  induction cs generalizing w with
  | nil => exact covers.still rfl
  | cons c rest ih =>
    exact covers.bind (invokeTrigger_manner covers calls id _ _) fun _ _ _ => ih

theorem invokeConstraints_manner (block : Nat) (cs : List NamedCall) :
    M _ (invokeConstraints call block cs) w := by
  induction cs generalizing w with
  | nil => exact covers.still rfl
  | cons c rest ih =>
    exact covers.bind (invokeConstraint_manner covers calls block _ _) fun _ _ _ => ih

theorem declareBranch_manner (id : Nat) (description : String) (b : Branch) :
    M _ (declareBranch call id description b) w := by
  apply covers.bind_still (ofInvalid_still _ w)
  intro d _
  split
  · exact covers.pushBare id _ w
  · apply covers.bind (covers.openBlock id w)
    intro block w _
    apply covers.bind (covers.attempt (invokeConstraints_manner covers calls block _))
    intro outcome w _
    cases outcome with
    | ok => exact covers.closeBlock block _ w
    | error cause =>
      exact covers.bind (covers.discardBlock block w) fun _ _ _ => covers.still rfl

theorem declareBranches_manner (id : Nat) (description : String) (branches : List Branch) :
    M _ (declareBranches call id description branches) w := by
  induction branches generalizing w with
  | nil => exact covers.still rfl
  | cons b rest ih =>
    exact covers.bind (declareBranch_manner covers calls id description b) fun _ _ _ => ih

theorem declare_manner (d : Declaration) : M _ (declare call d) w := by
  apply covers.bind_still (ofInvalid_still _ w)
  intro options _
  apply covers.bind (covers.createScenario _ _ w)
  intro id w _
  apply covers.bind (covers.discard (covers.still (openTriggers_still id w)))
  intro _ w _
  apply covers.bind (invokeTriggers_manner covers calls id _)
  intro _ w _
  apply covers.bind (declareBranches_manner covers calls id _ _)
  intro _ w _
  exact covers.bind (covers.mark rfl) fun _ _ _ => covers.still rfl

theorem declareAll_manner (declarations : List Declaration) :
    M _ (declareAll call declarations) w := by
  induction declarations generalizing w with
  | nil => exact covers.still rfl
  | cons d rest ih =>
    exact covers.bind (covers.discard (declare_manner covers calls d)) fun _ _ _ => ih

omit calls in
theorem exec_manner (depth : Nat) (p : Program σ) (w : World σ) : M _ (exec depth p) w := by
  induction depth generalizing p w with
  | zero => exact covers.still rfl
  | succ depth ih => exact interpret_manner covers ih p

end Covered

end Engine

end Reflex
