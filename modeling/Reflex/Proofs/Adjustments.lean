import Reflex.Proofs.Daily
import Reflex.Proofs.Devices

/-! The events that the registry of devices publishes, as a log of it. A write is published
if it changes the value, once and before any code runs; a report makes the write that it
asks for. Values are compared strictly, so what the log tells of a feature and what is
stored may differ in the signs of zeros. -/
namespace Reflex
open Act Engine Evaluation History

variable {σ : Type} {rule : Rule}

namespace Adjustment

def changes (x : Adjustment) : Bool := !x.previous.identical x.value

/-- What is published of a change. -/
def event (x : Adjustment) : Value := featureChange x.device x.feature x.value x.previous

end Adjustment

/-- Marks of registering devices and writing their features. -/
def Mark.isDevice : Mark → Bool
  | deviceRegistered _ | adjusted _ => true
  | _ => false

/-- Marks of writes that changed a feature. -/
def Mark.isAlteration : Mark → Bool
  | adjusted x => x.changes
  | _ => false

theorem Mark.isAlteration_of_other {m : Mark} (other : m.isDevice = false) :
    m.isAlteration = false := by
  cases m <;> first | rfl | cases other

/-- The device, if it is there, holds no attribute as null. -/
def View.NullFree (v : View) (device : String) : Prop := ∀ d, v.device device = some d → d.NullFree

namespace History

/-- The writes of features, the latest first. -/
def adjustments (J : History) : List Adjustment := J.filterMap fun
  | .adjusted x => some x
  | _ => none

/-- The names under which devices were registered, the latest first. -/
def equipped (J : History) : List String := J.filterMap fun
  | .deviceRegistered d => some d.name
  | _ => none

/-- The events that the registry has published, the latest first. -/
def featureEvents (J : History) : List Value := publications attributeTopic Mark.isAlteration J

/-- What a history since a view makes of a feature. -/
def tracked (v : View) (device feature : String) : History → Value
  | [] => v.feature device feature
  | .deviceRegistered d :: earlier =>
    if d.name = device then d.get feature else tracked v device feature earlier
  | .adjusted x :: earlier =>
    if x.device = device ∧ x.feature = feature then x.value else tracked v device feature earlier
  | _ :: earlier => tracked v device feature earlier

/-- What a history since a view makes of the time at which a device changed. -/
def stamped (v : View) (device : String) : History → Option Stamp
  | [] => (v.device device).bind Device.lastChanged
  | .deviceRegistered d :: earlier =>
    if d.name = device then d.lastChanged else stamped v device earlier
  | .adjusted x :: earlier =>
    if x.device = device ∧ x.changes = true then some ⟨x.reading, false⟩
    else stamped v device earlier
  | _ :: earlier => stamped v device earlier

/-- The value that the latest event of a feature tells, otherwise the one at the beginning. -/
def lastFeature (v : View) (device feature : String) (events : List Value) : Value :=
  match events.find? fun event => Trigger.isText (event.member "device") device &&
      Trigger.isText (event.member "attribute") feature with
  | some event => event.member "value"
  | none => v.feature device feature

/-- A write tells the value that was stored. -/
def Recalls (v : View) (earlier : History) : Mark → Prop
  | .adjusted x => x.previous = tracked v x.device x.feature earlier
  | _ => True

end History

/-- The marks that a write leaves before code runs. -/
def Adjustment.trail (x : Adjustment) : History :=
  if x.changes then [.emitted attributeTopic [x.event], .adjusted x] else [.adjusted x]

namespace History

variable {v : View} {J later : History}

theorem adjustments_append (quiet : ∀ m ∈ later, m.isDevice = false) :
    adjustments (later ++ J) = adjustments J := by
  refine append_of_silent ?_ quiet
  intro m J first
  cases m <;> first | rfl | cases first

theorem equipped_append (quiet : ∀ m ∈ later, m.isDevice = false) :
    equipped (later ++ J) = equipped J := by
  refine append_of_silent ?_ quiet
  intro m J first
  cases m <;> first | rfl | cases first

theorem tracked_append (quiet : ∀ m ∈ later, m.isDevice = false) (device feature : String) :
    tracked v device feature (later ++ J) = tracked v device feature J := by
  refine append_of_silent ?_ quiet
  intro m J first
  cases m <;> first | rfl | cases first

theorem stamped_append (quiet : ∀ m ∈ later, m.isDevice = false) (device : String) :
    stamped v device (later ++ J) = stamped v device J := by
  refine append_of_silent ?_ quiet
  intro m J first
  cases m <;> first | rfl | cases first

/-! What the marks of a write add. -/

theorem adjustments_trail (x : Adjustment) : adjustments (x.trail ++ J) = x :: adjustments J := by
  unfold Adjustment.trail
  split <;> rfl

theorem equipped_trail (x : Adjustment) : equipped (x.trail ++ J) = equipped J := by
  unfold Adjustment.trail
  split <;> rfl

theorem tracked_trail (x : Adjustment) (device feature : String) :
    tracked v device feature (x.trail ++ J) =
      if x.device = device ∧ x.feature = feature then x.value else tracked v device feature J := by
  unfold Adjustment.trail
  split <;> rfl

theorem stamped_trail (x : Adjustment) (device : String) :
    stamped v device (x.trail ++ J) =
      if x.device = device ∧ x.changes = true then some ⟨x.reading, false⟩
      else stamped v device J := by
  unfold Adjustment.trail
  split <;> rfl

theorem featureEvents_trail (x : Adjustment) (published : Published Mark.isAlteration J) :
    Published Mark.isAlteration (x.trail ++ J) ∧
      featureEvents (x.trail ++ J) = (if x.changes then [x.event] else []) ++ featureEvents J := by
  unfold Adjustment.trail
  split
  · rename_i changed
    constructor
    · rintro _ ⟨rfl⟩
      rfl
    · exact publications_follow x.event changed published
  · rename_i unchanged
    refine publications_append attributeTopic published fun m member => ?_
    rw [List.mem_singleton.mp member]
    exact Bool.eq_false_iff.mpr unchanged

theorem lastFeature_cons (x : Adjustment) (device feature : String) (events : List Value) :
    lastFeature v device feature (x.event :: events) =
      if x.device = device ∧ x.feature = feature then x.value
      else lastFeature v device feature events := by
  have told : (Trigger.isText (x.event.member "device") device &&
      Trigger.isText (x.event.member "attribute") feature) =
      (x.device == device && x.feature == feature) := rfl
  unfold lastFeature
  rw [List.find?_cons, told]
  by_cases same : x.device = device ∧ x.feature = feature
  · have found : (x.device == device && x.feature == feature) = true := by simpa using same
    simp only [found, if_pos same]
    rfl
  · have missed : (x.device == device && x.feature == feature) = false := by simpa using same
    simp only [missed, if_neg same]

end History

/-! What steps do to devices. -/

namespace World

variable {w w' : World σ}

/-- The write of a feature, with the marks of it. -/
structure Adjusts (w : World σ) (d : Device) (x : Adjustment) (w' : World σ) : Prop where
  known : w.view.device x.device = some d
  previous : x.previous = d.get x.feature
  devices : w'.devices =
    Table.put x.device (d.setAttribute x.feature x.value x.reading).1 w.devices
  devicesBound : w'.devicesBound = w.devicesBound
  journal : w'.journal = x.trail ++ w.journal

theorem adjusting_adjusts {d : Device} {device : String} (feature : String) (value : Value)
    (bound : w.devicesBound = true) (known : Table.find? device w.devices = some d) :
    w.Adjusts d ⟨device, feature, value, d.get feature, w.clock⟩
      (w.adjusting d device feature value) := by
  unfold adjusting
  rw [bound, Bool.and_true]
  by_cases changed : !(d.get feature).identical value
  · have trail : (⟨device, feature, value, d.get feature, w.clock⟩ : Adjustment).trail =
        [_, _] := if_pos changed
    rw [if_pos changed]
    exact ⟨known, rfl, rfl, rfl, by rw [trail]; rfl⟩
  · have trail : (⟨device, feature, value, d.get feature, w.clock⟩ : Adjustment).trail =
        [_] := if_neg changed
    rw [if_neg changed]
    exact ⟨known, rfl, rfl, rfl, by rw [trail]; rfl⟩

/-- The steps as far as bound devices go. -/
inductive Tends : World σ → World σ → Prop
  | still {w w' : World σ} : w'.devices = w.devices → (w.devicesBound = true →
      w'.devicesBound = true) → w.Without Mark.isDevice w' → Tends w w'
  | equip {w : World σ} {d : Device} : Tends w (w.equipping d)
  | adjust {w : World σ} {d : Device} {device feature : String} {value : Value} :
      Table.find? device w.devices = some d → Tends w (w.adjusting d device feature value)

end World

theorem Change.tends {w w' : World σ} (change : Change rule w w') : w.Tends w' := by
  cases change with
  | @mark m bare =>
    refine .still rfl id (.marked w ?_)
    cases m <;> first | rfl | cases bare
  | aside aside =>
    exact .still aside.devices (fun bound => aside.devicesBound.trans bound)
      (.of_same aside.journal)
  | subscribe | unsubscribe => exact .still rfl id (.marked _ rfl)
  | extend | create | test | clear => exact .still rfl id (.of_same rfl)
  | bind => exact .still rfl (fun _ => rfl) (.of_same rfl)
  | equip => exact .equip
  | adjust known => exact .adjust known

theorem World.Evolves.tends {w w' : World σ} (step : w.Evolves rule w') : w.Tends w' := by
  cases step with
  | begin | conclude | stop => exact .still rfl id (.marked _ rfl)
  | alter alters =>
    cases alters with
    | change change => exact change.tends
    | arm | cancel | take | begin => exact .still rfl id (.of_mark rfl rfl)
    | second | start | serve | finish => exact .still rfl id (.marked w rfl)
    | drop => exact .still rfl id (.of_same rfl)
    | @write name value ttl =>
      obtain ⟨_, _, _, shape⟩ := w.publishing_shape name value ttl
      refine .still (by rw [shape]) (fun bound => by rw [shape]; exact bound)
        (.publishing w name value ttl ?_ ?_ ?_ ?_)
      all_goals intros; rfl
    | expire => exact .still rfl id ⟨[_, _], rfl, by simp [Mark.isDevice]⟩

/-! Devices after one of them was put in place. -/

namespace World

variable {w w' : World σ} {name : String} {d : Device}

theorem view_device_put (devices : w'.devices = Table.put name d w.devices) (device : String) :
    w'.view.device device = if name = device then some d else w.view.device device := by
  change Table.find? device w'.devices = _
  rw [devices, Table.find?_put]
  rfl

theorem view_feature_put (devices : w'.devices = Table.put name d w.devices)
    (device feature : String) :
    w'.view.feature device feature =
      if name = device then d.get feature else w.view.feature device feature := by
  unfold View.feature
  rw [view_device_put devices]
  by_cases here : name = device
  · rw [if_pos here, if_pos here]
  · rw [if_neg here, if_neg here]

theorem view_isSome_put (devices : w'.devices = Table.put name d w.devices) {device : String}
    (known : (w.view.device device).isSome = true) : (w'.view.device device).isSome = true := by
  rw [view_device_put devices]
  split
  · rfl
  · exact known

theorem nullFree_put (devices : w'.devices = Table.put name d w.devices) {device : String}
    (free : w.view.NullFree device) (new : name = device → d.NullFree) :
    w'.view.NullFree device := by
  intro e there
  rw [view_device_put devices] at there
  split at there
  · rename_i here
    cases there
    exact new here
  · exact free e there

namespace Adjusts

variable {x : Adjustment} (adjusts : w.Adjusts d x w')
include adjusts

theorem found : w.view.feature x.device x.feature = x.previous := by
  rw [View.feature, adjusts.known, adjusts.previous]

theorem feature (device feature : String) :
    w'.view.feature device feature =
      if x.device = device ∧ x.feature = feature then x.value
      else w.view.feature device feature := by
  rw [view_feature_put adjusts.devices, Device.setAttribute_get]
  by_cases here : x.device = device
  · subst here
    have held : w.view.feature x.device feature = d.get feature := by
      rw [View.feature, adjusts.known]
    rw [held, if_pos rfl]
    simp only [true_and]
  · rw [if_neg here, if_neg fun both => here both.1]

theorem lastChanged (device : String) :
    (w'.view.device device).bind Device.lastChanged =
      if x.device = device ∧ x.changes = true then some ⟨x.reading, false⟩
      else (w.view.device device).bind Device.lastChanged := by
  rw [view_device_put adjusts.devices]
  by_cases here : x.device = device
  · subst here
    have changes : x.changes = !(d.get x.feature).identical x.value := by
      rw [Adjustment.changes, adjusts.previous]
    rw [if_pos rfl, adjusts.known, changes]
    simp only [true_and]
    exact Device.setAttribute_lastChanged d x.feature x.value x.reading
  · rw [if_neg here, if_neg fun both => here both.1]

theorem nullFree {device : String} (free : w.view.NullFree device) : w'.view.NullFree device := by
  refine nullFree_put adjusts.devices free ?_
  rintro rfl
  exact (free d adjusts.known).setAttribute x.feature

end Adjusts

end World

/-! The log along a history. -/

/-- What a history since a view tells of the devices that there are. -/
structure Watched (v : View) (later : History) (w : World σ) : Prop where
  bound : w.devicesBound = true
  published : Published Mark.isAlteration later
  known : ∀ x ∈ adjustments later, (w.view.device x.device).isSome = true
  once : featureEvents later =
    ((adjustments later).filter Adjustment.changes).map Adjustment.event
  previous : Everywhere (Recalls v) later
  value : ∀ device feature, w.view.feature device feature = tracked v device feature later
  chain : ∀ newer event older device feature, featureEvents later = newer ++ event :: older →
    event.member "device" = .text device → event.member "attribute" = .text feature →
    device ∉ equipped later →
    (lastFeature v device feature older).identical (event.member "previous") = true
  told : ∀ device feature, device ∉ equipped later →
    (lastFeature v device feature (featureEvents later)).identical
      (w.view.feature device feature) = true
  lastChanged : ∀ device, (w.view.device device).bind Device.lastChanged = stamped v device later
  nullFree : ∀ device, v.NullFree device →
    (∀ d, .deviceRegistered d ∈ later → d.name = device → d.NullFree) → w.view.NullFree device

namespace Watched

variable {v : View} {later : History} {w w' : World σ}

theorem start (bound : w.devicesBound = true) : Watched w.view [] w where
  bound := bound
  published _ none := nomatch none
  known _ none := nomatch none
  once := rfl
  previous := .nil
  value _ _ := rfl
  chain newer _ _ _ _ split := by cases newer <;> cases split
  told device feature _ := Value.identical_refl (w.view.feature device feature)
  lastChanged _ := rfl
  nullFree _ free _ := free

theorem still (watched : Watched v later w) (devices : w'.devices = w.devices)
    (bound : w'.devicesBound = true) {marks : History} (quiet : ∀ m ∈ marks, m.isDevice = false) :
    Watched v (marks ++ later) w' := by
  have there : w'.view.device = w.view.device := by
    change (fun name => Table.find? name w'.devices) = _
    rw [devices]
    rfl
  have held : w'.view.feature = w.view.feature := by
    unfold View.feature
    rw [there]
  obtain ⟨published, events⟩ := publications_append attributeTopic watched.published
    fun m member => Mark.isAlteration_of_other (quiet m member)
  have others : ∀ m ∈ marks, ∀ J, Recalls v J m := by
    intro m member J
    have first := quiet m member
    cases m <;> trivial
  constructor
  · exact bound
  · exact published
  · rw [adjustments_append quiet, there]
    exact watched.known
  · rw [featureEvents, events, adjustments_append quiet]
    exact watched.once
  · exact watched.previous.append others
  · intro device feature
    rw [held, tracked_append quiet]
    exact watched.value device feature
  · rw [featureEvents, events, equipped_append quiet]
    exact watched.chain
  · rw [featureEvents, events, equipped_append quiet, held]
    exact watched.told
  · intro device
    rw [there, stamped_append quiet]
    exact watched.lastChanged device
  · intro device free new
    rw [View.NullFree, there]
    exact watched.nullFree device free fun d member => new d (List.mem_append_right _ member)

theorem equip (watched : Watched v later w) (d : Device) :
    Watched v (.deviceRegistered d :: later) (w.equipping d) := by
  have devices : (w.equipping d).devices = Table.put d.name d w.devices := rfl
  obtain ⟨published, events⟩ : Published Mark.isAlteration (.deviceRegistered d :: later) ∧
      featureEvents (.deviceRegistered d :: later) = featureEvents later :=
    publications_append attributeTopic watched.published (List.forall_mem_singleton.mpr rfl)
  have apart : ∀ {device}, device ∉ equipped (.deviceRegistered d :: later) →
      d.name ≠ device ∧ device ∉ equipped later := by
    intro device new
    obtain ⟨other, old⟩ := not_or.mp (mt List.mem_cons.mpr new)
    exact ⟨Ne.symm other, old⟩
  constructor
  · exact watched.bound
  · exact published
  · exact fun x member => World.view_isSome_put devices (watched.known x member)
  · rw [events]
    exact watched.once
  · exact .cons trivial watched.previous
  · intro device feature
    rw [World.view_feature_put devices, watched.value]
    rfl
  · intro newer event older device feature split named called new
    rw [events] at split
    exact watched.chain newer event older device feature split named called (apart new).2
  · intro device feature new
    rw [events, World.view_feature_put devices, if_neg (apart new).1]
    exact watched.told device feature (apart new).2
  · intro device
    rw [World.view_device_put devices]
    change _ = if d.name = device then _ else _
    rw [← watched.lastChanged]
    split <;> rfl
  · intro device free new
    have before := watched.nullFree device free fun e member => new e (.tail _ member)
    exact World.nullFree_put devices before (new d (.head _))

theorem adjust (watched : Watched v later w) {d : Device} {x : Adjustment}
    (adjusts : w.Adjusts d x w') : Watched v (x.trail ++ later) w' := by
  obtain ⟨published, events⟩ := featureEvents_trail x watched.published
  constructor
  · exact adjusts.devicesBound.trans watched.bound
  · exact published
  · intro y member
    rw [adjustments_trail] at member
    apply World.view_isSome_put adjusts.devices
    rcases List.mem_cons.mp member with rfl | before
    · rw [adjusts.known]
      rfl
    · exact watched.known y before
  · rw [events, adjustments_trail, List.filter_cons, watched.once]
    split <;> rfl
  · have finds : Recalls v later (.adjusted x) := by
      change x.previous = _
      rw [← adjusts.found, watched.value]
    unfold Adjustment.trail
    split
    · exact .cons trivial (.cons finds watched.previous)
    · exact .cons finds watched.previous
  · intro device feature
    rw [adjusts.feature, tracked_trail, watched.value]
  · intro newer event older device feature split named called new
    rw [equipped_trail] at new
    rw [events] at split
    cases changed : x.changes with
    | false =>
      rw [changed] at split
      exact watched.chain newer event older device feature split named called new
    | true =>
      rw [changed] at split
      cases newer with
      | cons first rest =>
        have inner := (List.cons.inj split).2
        exact watched.chain rest event older device feature inner named called new
      | nil =>
        obtain ⟨rfl, rfl⟩ := List.cons.inj split
        obtain rfl : x.device = device := by
          injection named
        obtain rfl : x.feature = feature := by
          injection called
        have before := watched.told x.device x.feature new
        rw [adjusts.found] at before
        exact before
  · intro device feature new
    rw [equipped_trail] at new
    rw [events, adjusts.feature]
    have before := watched.told device feature new
    cases changed : x.changes with
    | true =>
      change (lastFeature v device feature (x.event :: featureEvents later)).identical _ = true
      rw [lastFeature_cons]
      by_cases same : x.device = device ∧ x.feature = feature
      · rw [if_pos same, if_pos same]
        exact Value.identical_refl x.value
      · rw [if_neg same, if_neg same]
        exact before
    | false =>
      change (lastFeature v device feature (featureEvents later)).identical _ = true
      by_cases same : x.device = device ∧ x.feature = feature
      · -- The value before is strictly equal to what is stored now, signs of zeros aside.
        obtain ⟨rfl, rfl⟩ := same
        have equal : x.previous.identical x.value = true := by
          simpa [Adjustment.changes] using changed
        rw [adjusts.found] at before
        rw [if_pos ⟨rfl, rfl⟩]
        exact Value.identical_trans before equal
      · rw [if_neg same]
        exact before
  · intro device
    rw [adjusts.lastChanged, stamped_trail, watched.lastChanged]
  · intro device free new
    apply adjusts.nullFree
    exact watched.nullFree device free fun e member => new e (List.mem_append_right _ member)

end Watched

theorem World.Leads.watched {origin w : World σ} (leads : origin.Leads rule w)
    (bound : origin.devicesBound = true) :
    ∃ later, w.journal = later ++ origin.journal ∧ Watched origin.view later w := by
  induction leads with
  | refl => exact ⟨[], rfl, .start bound⟩
  | code _ step ih =>
    obtain ⟨later, journal, watched⟩ := ih
    cases step.tends with
    | still devices keeps quiet =>
      obtain ⟨marks, extended, quiet⟩ := quiet
      refine ⟨marks ++ later, ?_, watched.still devices (keeps watched.bound) quiet⟩
      rw [extended, journal, List.append_assoc]
    | equip => exact ⟨_ :: later, congrArg _ journal, watched.equip _⟩
    | @adjust d device feature value known =>
      have adjusts := World.adjusting_adjusts feature value watched.bound known
      refine ⟨_, ?_, watched.adjust adjusts⟩
      rw [adjusts.journal, journal, List.append_assoc]
  | @build w' components _ _ ih =>
    obtain ⟨later, journal, watched⟩ := ih
    have devices : (w'.completed components).devices = w'.devices := rfl
    have built : Watched origin.view ([] ++ later) (w'.completed components) :=
      watched.still devices watched.bound (List.forall_mem_nil _)
    exact ⟨later, journal, built⟩

/-! One write, and one report. -/

/-- A write of a feature as it stands in the registry. -/
structure World.Placed (w : World σ) (device : String) (d : Device) (feature : String)
    (value : Value) (w' : World σ) : Prop where
  entry : ∃ d', w'.view.device device = some d' ∧ d'.name = d.name ∧
    (∀ other, Table.find? other d'.attributes =
      if feature = other then (if value.isNull then none else some value)
      else Table.find? other d.attributes) ∧
    d'.lastChanged =
      if (d.get feature).identical value then d.lastChanged else some ⟨w.clock, false⟩
  others : ∀ other, other ≠ device → w'.view.device other = w.view.device other

theorem World.tuning_placed (w : World σ) (device : String) (d : Device) (feature : String)
    (value : Value) : w.Placed device d feature value (w.tuning d device feature value) := by
  have devices : (w.tuning d device feature value).devices =
      Table.put device (d.setAttribute feature value w.clock).1 w.devices := rfl
  constructor
  · refine ⟨(d.setAttribute feature value w.clock).1, ?_, rfl, ?_, ?_⟩
    · rw [view_device_put devices, if_pos rfl]
    · exact fun other => d.setAttribute_find? feature other value w.clock
    · rw [Device.setAttribute_lastChanged]
      cases (d.get feature).identical value <;> rfl
  · intro other apart
    rw [view_device_put devices, if_neg (Ne.symm apart)]

namespace Engine

variable {w : World σ} {device : String} {d : Device}

theorem setFeature_unchanged (call : Call σ) {feature : String} {value : Value}
    (known : Table.find? device w.devices = some d)
    (same : (d.get feature).identical value = true) :
    setFeature call device feature value w = (.ok false, w.tuning d device feature value) := by
  rw [setFeature_run call feature value known, publishFeature, World.adjusting, same]
  rfl

/-- A change is told to the subscribers, the first failure of whom is the answer. -/
theorem setFeature_changed (call : Call σ) {feature : String} {value : Value}
    (known : Table.find? device w.devices = some d) (bound : w.devicesBound = true)
    (differs : (d.get feature).identical value = false) :
    ∃ result, Dispatch call [featureChange device feature value (d.get feature)]
        (w.bus.subscribers attributeTopic) ((w.tuning d device feature value).marked
          (.emitted attributeTopic [featureChange device feature value (d.get feature)])) result ∧
      setFeature call device feature value w = (result.1.map fun _ => true, result.2) := by
  refine ⟨_, deliver_dispatch call _ _ _, ?_⟩
  rw [setFeature_run call feature value known, publishFeature, World.adjusting, differs, bound]
  exact map_run _ (fun _ => true) _

/-- A report makes the write that it asks for. -/
theorem report_performed (call : Call σ) {report : Value} (rest : List Value)
    {feature : String} (names : report.member "device" = .text device)
    (tells : report.member "attribute" = .text feature) :
    interpret call ((Reaction.deviceReport : Reaction σ).program (report :: rest)) w =
      ((setFeature call device feature (report.member "value") w).1.map fun _ => true,
        (setFeature call device feature (report.member "value") w).2) := by
  have asks : (Reaction.deviceReport : Reaction σ).program (report :: rest) =
      .perform (.setFeature device feature (report.member "value")) := by
    change Reaction.reportProgram (report :: rest) = _
    rw [Reaction.reportProgram, names, tells]
  rw [asks, interpret_performed]
  change ((setFeature call device feature (report.member "value") >>= fun _ => pure PUnit.unit) >>=
    fun _ => pure true : Act σ Bool) w = _
  rw [map_run _ (fun _ => true), map_run _ (fun _ => PUnit.unit)]
  cases (setFeature call device feature (report.member "value") w).1 <;> rfl

theorem report_malformed (call : Call σ) {report : Value} (rest : List Value)
    (nameless : (∀ s, report.member "device" ≠ .text s) ∨
      ∀ s, report.member "attribute" ≠ .text s) :
    interpret call ((Reaction.deviceReport : Reaction σ).program (report :: rest)) w =
      (.error (.failed (.invalid
        (.arguments deviceTopic "expected string device and attribute names"))), w) := by
  have refuses : (Reaction.deviceReport : Reaction σ).program (report :: rest) =
      .fail (.invalid (.arguments deviceTopic "expected string device and attribute names")) := by
    change Reaction.reportProgram (report :: rest) = _
    rw [Reaction.reportProgram]
    split
    · rename_i device feature names tells
      rcases nameless with none | none
      · exact absurd names (none device)
      · exact absurd tells (none feature)
    · rfl
  rw [refuses]
  rfl

/-- A report that is published reaches the listener of the registry, where that is the only
one. -/
theorem emit_report {depth : Nat} {s : Subscription (Reaction σ)} {report : Value}
    {feature : String} (alone : w.bus.subscribers deviceTopic = [s])
    (listens : s.handler = .deviceReport) (names : report.member "device" = .text device)
    (tells : report.member "attribute" = .text feature) :
    emit (exec (depth + 1)) deviceTopic [report] w =
      let heard := (w.marked (.emitted deviceTopic [report])).marked (.delivered s.id [report])
      let written := setFeature (exec depth) device feature (report.member "value") heard
      (written.1.map fun _ => (), written.2) := by
  have reported := report_performed (exec depth) [] names tells
    (w := (w.marked (.emitted deviceTopic [report])).marked (.delivered s.id [report]))
  rw [emit_run, alone, deliver, bind_ok (mark_run _ _), listens]
  change ((interpret (exec depth) (Reaction.deviceReport.program [report]) >>=
    fun _ => pure PUnit.unit) >>= fun _ => pure () : Act σ Unit) _ = _
  rw [map_run _ (fun _ => ()), map_run _ (fun _ => PUnit.unit), reported]
  dsimp only
  cases (setFeature (exec depth) device feature (report.member "value") _).1 <;> rfl

end Engine

/-- What the registry is at a moment since another one, and what writes and reports do to it
then. -/
structure DevicesKept (origin w : World σ) (later : History) : Prop where
  journal : w.journal = later ++ origin.journal
  bound : w.devicesBound = true
  known : ∀ x ∈ adjustments later, (w.view.device x.device).isSome = true
  once : featureEvents later =
    ((adjustments later).filter Adjustment.changes).map Adjustment.event
  previous : ∀ newer x older, later = newer ++ .adjusted x :: older →
    x.previous = tracked origin.view x.device x.feature older
  value : ∀ device feature,
    w.view.feature device feature = tracked origin.view device feature later
  chain : ∀ newer event older device feature, featureEvents later = newer ++ event :: older →
    event.member "device" = .text device → event.member "attribute" = .text feature →
    device ∉ equipped later →
    (lastFeature origin.view device feature older).identical (event.member "previous") = true
  told : ∀ device feature, device ∉ equipped later →
    (lastFeature origin.view device feature (featureEvents later)).identical
      (w.view.feature device feature) = true
  lastChanged : ∀ device,
    (w.view.device device).bind Device.lastChanged = stamped origin.view device later
  nullFree : ∀ device, origin.view.NullFree device →
    (∀ d, .deviceRegistered d ∈ later → d.name = device → d.NullFree) → w.view.NullFree device
  places : ∀ device d feature value, w.view.device device = some d →
    w.Placed device d feature value (w.tuning d device feature value)
  unknown : ∀ (call : Call σ) device feature value, w.view.device device = none →
    setFeature call device feature value w = (.error (.failed (.missing "device" device)), w)
  unchanged : ∀ (call : Call σ) device d feature value, w.view.device device = some d →
    (d.get feature).identical value = true →
    setFeature call device feature value w = (.ok false, w.tuning d device feature value)
  changed : ∀ (call : Call σ) device d feature value, w.view.device device = some d →
    (d.get feature).identical value = false →
    ∃ result, Dispatch call [featureChange device feature value (d.get feature)]
        (w.bus.subscribers attributeTopic) ((w.tuning d device feature value).marked
          (.emitted attributeTopic [featureChange device feature value (d.get feature)])) result ∧
      setFeature call device feature value w = (result.1.map fun _ => true, result.2)
  stays : ∀ depth device d feature value outcome next, w.view.device device = some d →
    setFeature (exec depth) device feature value w = (outcome, next) →
    origin.Leads Rule.free (w.adjusting d device feature value) ∧
      (w.adjusting d device feature value).Leads Rule.free next
  reports : ∀ (call : Call σ) report rest device feature,
    report.member "device" = .text device → report.member "attribute" = .text feature →
    interpret call ((Reaction.deviceReport : Reaction σ).program (report :: rest)) w =
      ((setFeature call device feature (report.member "value") w).1.map fun _ => true,
        (setFeature call device feature (report.member "value") w).2)
  hears : ∀ depth s report device feature, w.bus.subscribers deviceTopic = [s] →
    s.handler = .deviceReport → report.member "device" = .text device →
    report.member "attribute" = .text feature →
    emit (exec (depth + 1)) deviceTopic [report] w =
      let heard := (w.marked (.emitted deviceTopic [report])).marked (.delivered s.id [report])
      let written := setFeature (exec depth) device feature (report.member "value") heard
      (written.1.map fun _ => (), written.2)
  silent : ∀ call : Call σ, interpret call ((Reaction.deviceReport : Reaction σ).program []) w =
    (.error (.failed (.invalid (.arguments deviceTopic "expected a report"))), w)
  malformed : ∀ (call : Call σ) report rest, (∀ s, report.member "device" ≠ .text s) ∨
      (∀ s, report.member "attribute" ≠ .text s) →
    interpret call ((Reaction.deviceReport : Reaction σ).program (report :: rest)) w =
      (.error (.failed (.invalid
        (.arguments deviceTopic "expected string device and attribute names"))), w)

/-- At every moment since one at which the registry is bound. -/
theorem devices_kept {origin w : World σ} (arises : origin.Arises Rule.free)
    (bound : origin.devicesBound = true) (leads : origin.Leads Rule.free w) :
    ∃ later, DevicesKept origin w later := by
  obtain ⟨later, journal, watched⟩ := leads.watched bound
  refine ⟨later, ?_⟩
  constructor
  · exact journal
  · exact watched.bound
  · exact watched.known
  · exact watched.once
  · rintro newer x older rfl
    exact watched.previous.split
  · exact watched.value
  · exact watched.chain
  · exact watched.told
  · exact watched.lastChanged
  · exact watched.nullFree
  · exact fun device d feature value _ => w.tuning_placed device d feature value
  · exact fun call device feature value unknown => setFeature_missing call feature value unknown
  · exact fun call device d feature value known => setFeature_unchanged call known
  · exact fun call device d feature value known => setFeature_changed call known watched.bound
  · intro depth device d feature value outcome next known ran
    have made : w.Leads Rule.free (w.adjusting d device feature value) :=
      .code .refl (.alter (.change (.adjust known)))
    have becomes := setFeature_becomes Rule.free_open (leads.lodges arises.lodges) known ran
    exact ⟨leads.trans made, becomes.leads⟩
  · exact fun call report rest device feature => report_performed call rest
  · exact fun depth s report device feature => emit_report
  · exact fun call => rfl
  · exact fun call report rest => report_malformed call rest

/-- Whoever hears of the first change writes another attribute and fails. Zero is written over
zero with the other sign, one over it, and null by a report without a value; a text is no
report, and there is no door. -/
def gauge : Program Unit :=
  .subscribe attributeTopic (fun _ => .look fun v =>
    if (v.feature "lamp" "echo").isNull then
      .request (.setFeature "lamp" "echo" (.int 1)) fun _ => .fail .dropped
    else .done true) fun _ =>
    .request (.setFeature "lamp" "level" (.double Double.zero.neg)) fun _ =>
      .request (.setFeature "lamp" "level" (.int 1)) fun _ =>
        .request (.setClock ⟨7⟩) fun _ =>
          .request (.emit deviceTopic [.ofMembers [("device", .text "lamp"),
            ("attribute", .text "level")]]) fun _ =>
            .request (.emit deviceTopic [.text "lamp"]) fun _ =>
              .perform (.setFeature "door" "open" (.bool true))

def lampStart : World Unit := .start ⟨5⟩ [⟨"lamp", [("level", .double Double.zero)], none⟩] ()

def lampHouse : World Unit := (buildIn 1 [Component.devices] lampStart).2

def gaugedHouse : World Unit := (run 4 gauge lampHouse).2

theorem lampHouse_session : Session Rule.free true lampHouse := by
  have built : buildIn 1 [Component.devices] lampStart = (.ok (), lampHouse) := rfl
  exact .build (.start _ _ _) (fun c _ => c.within_free) built

theorem lampHouse_leads : lampHouse.Leads Rule.free gaugedHouse :=
  (run_becomes Rule.free_open gauge.within_free
    (lampHouse_session.arises Rule.free_open).lodges rfl).leads

theorem devices_kept_gauge :
    lampHouse.Arises Rule.free ∧ lampHouse.devicesBound = true ∧
      lampHouse.Leads Rule.free gaugedHouse ∧
      (adjustments gaugedHouse.journal).map (fun x => (x.feature, x.changes)) =
        [("level", true), ("echo", true), ("level", true), ("level", false)] ∧
      (featureEvents gaugedHouse.journal).length = 3 ∧
      (gaugedHouse.view.device "lamp").map (fun d => (Table.keys d.attributes, d.lastChanged)) =
        some (["echo"], some ⟨⟨7⟩, false⟩) ∧
      ∃ later, DevicesKept lampHouse gaugedHouse later :=
  ⟨lampHouse_session.arises Rule.free_open, rfl, lampHouse_leads, by decide +kernel,
    by decide +kernel, by decide +kernel,
    devices_kept (lampHouse_session.arises Rule.free_open) rfl lampHouse_leads⟩

end Reflex
