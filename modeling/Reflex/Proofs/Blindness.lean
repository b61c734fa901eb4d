import Reflex.Proofs.Changes
import Reflex.Proofs.Faults

/-! Code cannot read the journal. So a failure that is only reported there changes nothing of
what runs later: two ticks whose code has the same effects do the same, whatever fails. -/
namespace Reflex
open Act Engine History World

variable {σ α β : Type}

/-- What the step does has nothing to do with the reports in the journal. -/
def Act.Blind (x : Act σ α) : Prop := ∀ ⦃w w' : World σ⦄, w.Same w' → Even x x w w'

namespace Act.Blind

variable {x : Act σ α} {f : α → Act σ β}

theorem pure (a : α) : Blind (pure a : Act σ α) := fun _ _ same => .pure same a

theorem fail (cause : Failure) : Blind (fail cause : Act σ α) := fun _ _ same => .fail same cause

theorem mark (m : Mark) : Blind (mark m : Act σ Unit) := fun _ _ same => .mark same m

theorem ofInvalid (e : Except Invalid α) : Blind (ofInvalid e : Act σ α) := by
  cases e with
  | ok a => exact pure a
  | error cause => exact fail _

theorem modify {change : World σ → World σ} (appends : World.Appends change) :
    Blind (modify change : Act σ PUnit) :=
  fun _ _ same => .modify same appends

theorem bind (first : Blind x) (rest : ∀ a, Blind (f a)) : Blind (x >>= f) :=
  fun _ _ same => .bind (first same) fun a _ _ same => rest a same

/-- A step that looks at the world, but not at the journal. -/
theorem got {f : World σ → Act σ β} (same : ∀ w J, f { w with journal := J } = f w)
    (rest : ∀ w, Blind (f w)) : Blind (get >>= f) := by
  intro w w' alike
  have there : f w' = f w := alike.agree f same
  apply Even.got
  rw [there]
  exact rest w alike

/-- A step whose answer and change the journal has no part in. -/
theorem of_run {a : World σ → α} {change : World σ → World σ}
    (ran : ∀ w, x w = (.ok (a w), change w))
    (answer : ∀ w J, a { w with journal := J } = a w) (appends : World.Appends change) :
    Blind x := by
  intro w w' same
  have there := ran w'
  rw [same.agree a answer] at there
  exact ⟨_, _, _, ran w, there, same.change change appends⟩

theorem discard (blind : Blind x) : Blind (discard x : Act σ PUnit) := bind blind fun _ => pure _

theorem attempt (blind : Blind x) : Blind (attempt x) := by
  intro w w' same
  obtain ⟨r, v, v', ran, ran', last⟩ := blind same
  match r, ran, ran' with
  | .ok a, ran, ran' => exact ⟨_, v, v', attempt_ok ran, attempt_ok ran', last⟩
  | .error (.failed cause), ran, ran' =>
    exact ⟨_, v, v', attempt_failed ran, attempt_failed ran', last⟩
  | .error .exhausted, ran, ran' =>
    exact ⟨_, v, v', attempt_exhausted ran, attempt_exhausted ran', last⟩

end Act.Blind

namespace World

theorem replacing_appends (name : String) (slot : Slot) :
    Appends (replacing · name slot : World σ → World σ) := by
  intro w J
  have same : (w.after J).slot? name = w.slot? name := rfl
  dsimp only [replacing]
  rw [same]
  cases (w.slot? name).bind (·.expiry) <;> rfl

theorem writing_appends (name : String) (value : Value) (ttl : Option Span) :
    Appends (writing · name value ttl : World σ → World σ) := by
  intro w J
  cases ttl with
  | none =>
    change World.marked ((w.after J).replacing name _) _ = _
    rw [show (w.after J).replacing name _ = _ from replacing_appends name _ w J]
    rfl
  | some d =>
    change World.marked (((w.arming d (.expiry name)).after J).replacing name _) _ = _
    rw [show ((w.arming d (.expiry name)).after J).replacing name _ = _ from
      replacing_appends name _ _ J]
    rfl

theorem lapsing_appends (name : String) : Appends (lapsing · name : World σ → World σ) := by
  intro w J
  dsimp only [lapsing]
  change (if w.storeAlive && (w.slot? name).isSome then _ else _) = _
  split <;> rfl

theorem adjusting_appends (d : Device) (device feature : String) (value : Value) :
    Appends (adjusting · d device feature value : World σ → World σ) := by
  intro w J
  dsimp only [adjusting]
  change (if !(d.get feature).identical value && w.devicesBound then _ else _) = _
  split <;> rfl

end World

namespace Engine

/-! Operations that run no code. -/

theorem registry_blind : Blind (registry : Act σ (List Nat)) := by
  apply Blind.got fun _ _ => rfl
  intro w
  split
  · exact .pure _
  · exact .fail _

theorem scenario_blind (id : Nat) : Blind (scenario id : Act σ (Scenario σ)) := by
  apply Blind.got fun _ _ => rfl
  intro w
  split
  · exact .pure _
  · exact .fail _

theorem block_blind (id : Nat) : Blind (block id : Act σ (Block σ)) := by
  apply Blind.got fun _ _ => rfl
  intro w
  split
  · exact .pure _
  · exact .fail _

theorem modifyScenario_blind (id : Nat) (change : Scenario σ → Scenario σ) :
    Blind (modifyScenario id change : Act σ Unit) :=
  .modify fun _ _ => rfl

theorem every_blind (s : Schedule) (task : Reaction σ) : Blind (every s task) :=
  .of_run (every_run s task) (fun _ _ => rfl) fun _ _ => rfl

theorem remove_blind (id : Nat) : Blind (remove id : Act σ Bool) :=
  .of_run (remove_run id) (fun _ _ => rfl) fun _ _ => rfl

theorem once_blind (d : Span) (task : Reaction σ) : Blind (once d task) :=
  .of_run (once_run d task) (fun _ _ => rfl) fun _ _ => rfl

theorem cancel_blind (id : Nat) : Blind (cancel id : Act σ Bool) :=
  .of_run (cancel_run id) (fun _ _ => rfl) fun _ _ => rfl

theorem subscribe_blind (topic : String) (handler : Reaction σ) : Blind (subscribe topic handler) :=
  .of_run (subscribe_run topic handler) (fun _ _ => rfl) fun _ _ => rfl

theorem unsubscribe_blind (id : Nat) : Blind (unsubscribe id : Act σ Bool) :=
  .of_run (unsubscribe_run id) (fun _ _ => rfl) fun _ _ => rfl

theorem registerDevice_blind (d : Device) : Blind (registerDevice d : Act σ Unit) :=
  .bind (.modify fun _ _ => rfl) fun _ => .mark _

theorem refresh_blind : Blind (refresh : Act σ Unit) :=
  .bind registry_blind fun _ => .modify fun _ _ => rfl

theorem setTestMode_blind (id : Nat) (enabled : Bool) :
    Blind (setTestMode id enabled : Act σ Unit) := by
  apply Blind.bind registry_blind.discard
  intro _
  apply Blind.bind (scenario_blind id).discard
  intro _
  exact .bind (modifyScenario_blind id _) fun _ => refresh_blind

theorem clearScenarios_blind : Blind (clearScenarios : Act σ Unit) :=
  .bind registry_blind fun _ => .modify fun _ _ => rfl

theorem createScenario_blind (description : String) (options : Options) :
    Blind (createScenario description options : Act σ Nat) := by
  intro w w' same
  apply Even.bind (registry_blind same)
  intro ids v v' same
  apply Even.got
  obtain ⟨J, rfl, told⟩ := same
  have same : v.Same { v with journal := J } := ⟨J, rfl, told⟩
  apply Even.ite Iff.rfl (.failed same _)
  apply Even.ite Iff.rfl (.failed same _)
  apply Even.bind ((Blind.ofInvalid v.triggerVocabulary).discard same)
  intro _ v₁ v₁' same₁
  apply Even.bind ((Blind.ofInvalid v.constraintVocabulary).discard same₁)
  intro _ v₂ v₂' same₂
  refine .bind (.set ⟨J, rfl, told⟩) fun _ v₃ v₃' same₃ => ?_
  apply Even.ite Iff.rfl
  · exact .bind (setTestMode_blind _ true same₃) fun _ _ _ same => .pure same _
  · exact .bind (refresh_blind same₃) fun _ _ _ same => .pure same _

theorem openTriggers_blind (id : Nat) : Blind (openTriggers id : Act σ (List String)) := by
  apply Blind.bind registry_blind.discard
  intro _
  apply Blind.bind (scenario_blind id).discard
  intro _
  apply Blind.got fun _ _ => rfl
  intro w
  exact .bind (.ofInvalid _) fun _ => .pure _

theorem openBlock_blind (id : Nat) : Blind (openBlock id : Act σ Nat) := by
  intro w w' same
  apply Even.bind (registry_blind.discard same)
  intro _ v v' same
  apply Even.bind ((scenario_blind id).discard same)
  intro _ v v' same
  apply Even.got
  obtain ⟨J, rfl, told⟩ := same
  apply Even.bind ((Blind.ofInvalid v.constraintVocabulary).discard ⟨J, rfl, told⟩)
  intro _ v₁ v₁' _
  exact .bind (.set ⟨J, rfl, told⟩) fun _ _ _ same => .pure same _

theorem closeBlock_blind (id : Nat) (c : Callback σ) : Blind (closeBlock id c) := by
  apply Blind.bind (block_blind id)
  intro b
  exact .bind (.modify fun _ _ => rfl) fun _ => modifyScenario_blind _ _

theorem installTrigger_blind (id : Nat) (t : Trigger) :
    Blind (installTrigger id t : Act σ Unit) := by
  unfold installTrigger
  split
  · exact (subscribe_blind _ _).discard
  · exact (every_blind _ _).discard

/-! Operations that run code. -/

section Calling

variable {call : Call σ} (blind : ∀ p, Blind (call p))
include blind

theorem deliver_blind (arguments : List Value) (subscriptions : List (Subscription (Reaction σ))) :
    Blind (deliver call arguments subscriptions) := by
  induction subscriptions with
  | nil => exact .pure ()
  | cons s rest ih => exact .bind (.mark _) fun _ => .bind (blind _).discard fun _ => ih

theorem emit_blind (topic : String) (arguments : List Value) :
    Blind (emit call topic arguments) := by
  apply Blind.got fun _ _ => rfl
  intro w
  exact .bind (.mark _) fun _ => deliver_blind blind _ _

theorem setVariable_blind (name : String) (value : Value) (ttl : Option Span) :
    Blind (setVariable call name value ttl) := by
  intro w w' same
  apply Even.of_eq (setVariable_run call name value ttl w) (setVariable_run call name value ttl w')
  rw [same.agree (World.value · name) fun _ _ => rfl]
  exact emit_blind blind _ _ (same.change _ (writing_appends name value ttl))

theorem expireVariable_blind (name : String) : Blind (expireVariable call name) := by
  intro w w' same
  apply Even.of_eq (expireVariable_run call name w) (expireVariable_run call name w')
  rw [same.agree (publishLapse call name) fun _ _ => rfl]
  have lapsed := same.change _ (lapsing_appends name)
  unfold publishLapse
  split
  · exact emit_blind blind _ _ lapsed
  · exact .pure lapsed ()

theorem setFeature_blind (device feature : String) (value : Value) :
    Blind (setFeature call device feature value) := by
  intro w w' same
  have alike := same.agree (fun w => Table.find? device w.devices) fun _ _ => rfl
  cases known : Table.find? device w.devices with
  | none =>
    exact ⟨_, w, w', setFeature_missing call feature value known,
      setFeature_missing call feature value (alike.trans known), same⟩
  | some d =>
    apply Even.of_eq (setFeature_run call feature value known)
      (setFeature_run call feature value (alike.trans known))
    rw [same.agree (publishFeature call · d device feature value) fun _ _ => rfl]
    have adjusted := same.change _ (adjusting_appends d device feature value)
    unfold publishFeature
    split
    · exact .bind (deliver_blind blind _ _ adjusted) fun _ _ _ same => .pure same _
    · exact .pure adjusted _

theorem allHold_blind (group : List (Predicate σ)) : Blind (allHold call group) := by
  induction group with
  | nil => exact .pure true
  | cons p rest ih =>
    apply Blind.bind (blind _)
    intro holds
    cases holds with
    | true => exact ih
    | false => exact .pure false

theorem applies_blind (group : Option (List (Predicate σ))) (tally : Tally) :
    Blind (applies call group tally) := by
  cases group with
  | none => exact .pure _
  | some predicates => exact allHold_blind blind predicates

theorem runCallback_blind (description : String) (c : Callback σ) (payload : Option Value) :
    Blind (runCallback call description c payload) := by
  apply Blind.bind (blind _).attempt
  intro answer
  cases answer with
  | ok _ => exact .pure ()
  | error cause => exact .fail _

theorem visit_blind (id : Nat) (description : String) (payload : Option Value) (place : Nat)
    (tally : Tally) (entries : List (Entry σ)) :
    Blind (visit call id description payload place tally entries) := by
  induction entries generalizing place tally with
  | nil => exact .pure tally
  | cons e rest ih =>
    apply Blind.bind (applies_blind blind e.group tally)
    intro holds
    cases holds with
    | true =>
      apply Blind.bind (.mark _)
      intro _
      exact .bind (runCallback_blind blind description e.callback payload) fun _ => ih _ _
    | false => exact ih _ _

omit blind in
theorem armSuppression_blind (id : Nat) (tally : Tally) :
    Blind (armSuppression id tally : Act σ Unit) :=
  .got (fun _ _ => rfl) fun _ => modifyScenario_blind id _

theorem runPass_blind (id : Nat) (s : Scenario σ) (payload : Option Value) :
    Blind (runPass call id s payload) := by
  apply Blind.bind (modifyScenario_blind id _)
  intro _
  apply Blind.bind (.mark _)
  intro _
  apply Blind.bind (visit_blind blind id s.description payload 0 ⟨0, 0⟩ s.entries).attempt
  intro outcome
  apply Blind.bind (modifyScenario_blind id _)
  intro _
  cases outcome with
  | ok tally =>
    exact .bind (armSuppression_blind id tally) fun _ => .bind (.mark _) fun _ => .pure _
  | error cause => exact .bind (.mark _) fun _ => .fail cause

theorem assert_blind (id : Nat) (payload : Option Value) : Blind (assert call id payload) := by
  apply Blind.bind (scenario_blind id)
  intro s
  apply Blind.got fun _ _ => rfl
  intro w
  dsimp only
  split
  · exact .pure 0
  split
  · exact .pure 0
  split
  · exact .bind (.mark _) fun _ => .pure 0
  · exact runPass_blind blind id s payload

theorem tick_blind : Blind (tick call) := by
  have akin : call.Akin call := {
    tasks := fun _ _ _ same => (blind _ same).akin
    publications := fun topic t _ _ _ same => (emit_blind blind topic [Tick.payload t] same).akin }
  exact fun _ _ same => tick_even akin same

theorem invokeTrigger_blind (id : Nat) (name : String) (arguments : List Value) :
    Blind (invokeTrigger call id name arguments) := by
  apply Blind.got fun _ _ => rfl
  intro w
  apply Blind.bind (.ofInvalid _)
  intro names
  apply Blind.bind (.ofInvalid _)
  intro factory
  cases factory with
  | builtin k => exact .bind (.ofInvalid _) fun t => installTrigger_blind id t
  | custom make => exact (blind _).discard

theorem invokeConstraint_blind (id : Nat) (name : String) (arguments : List Value) :
    Blind (invokeConstraint call id name arguments) := by
  apply Blind.got fun _ _ => rfl
  intro w
  apply Blind.bind (.ofInvalid _)
  intro names
  apply Blind.bind (.ofInvalid _)
  intro factory
  cases factory with
  | builtin k => exact .bind (.ofInvalid _) fun _ => .modify fun _ _ => rfl
  | custom make => exact (blind _).discard

theorem perform_blind {r : Reply} (q : Request r) : Blind (perform call q) := by
  cases q with
  | setClock | setMaxCatchUp | dropRuntime | discardBlock => exact .modify fun _ _ => rfl
  | unsubscribe id => exact unsubscribe_blind id
  | remove id => exact remove_blind id
  | cancel id => exact cancel_blind id
  | registerDevice d => exact registerDevice_blind d
  | createScenario description options => exact createScenario_blind description options
  | setTestMode id enabled => exact setTestMode_blind id enabled
  | clearScenarios => exact clearScenarios_blind
  | openTriggers id => exact openTriggers_blind id
  | openBlock id => exact openBlock_blind id
  | emit topic arguments => exact emit_blind blind topic arguments
  | set name value ttl => exact setVariable_blind blind name value ttl
  | expire name => exact expireVariable_blind blind name
  | setFeature device feature value => exact setFeature_blind blind device feature value
  | assert id payload => exact assert_blind blind id payload
  | tick => exact tick_blind blind
  | invokeTrigger id name arguments => exact invokeTrigger_blind blind id name arguments
  | invokeConstraint id name arguments => exact invokeConstraint_blind blind id name arguments

theorem interpret_blind (p : Program σ) : Blind (interpret call p) := by
  induction p with
  | done holds => exact .pure holds
  | fail cause => exact .fail cause
  | look next ih | load next ih => exact .got (fun _ _ => rfl) fun w => ih _
  | save memory next ih => exact .bind (.modify fun _ _ => rfl) fun _ => ih
  | note m next ih => exact .bind (.mark _) fun _ => ih
  | request q next ih => exact .bind (perform_blind blind q).attempt fun answer => ih answer
  | subscribe topic handler next _ ih => exact .bind (subscribe_blind _ _) fun id => ih id
  | every s job next _ ih => exact .bind (every_blind _ _) fun id => ih id
  | once d job next _ ih => exact .bind (once_blind _ _) fun id => ih id
  | check block predicate next _ ih => exact .bind (.modify fun _ _ => rfl) fun _ => ih
  | fallback id callback next _ ih => exact .bind (modifyScenario_blind _ _) fun _ => ih
  | close block callback next _ ih => exact .bind (closeBlock_blind _ _) fun _ => ih

end Calling

/-- What code does has nothing to do with the reports in the journal. -/
theorem exec_blind (depth : Nat) (p : Program σ) : Blind (exec depth p) := by
  induction depth generalizing p with
  | zero => exact fun w w' same => ⟨.error .exhausted, w, w', rfl, rfl, same⟩
  | succ depth ih => exact interpret_blind ih p

end Engine

end Reflex
