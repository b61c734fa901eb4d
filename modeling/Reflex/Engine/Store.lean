import Reflex.Engine.Ticking

/-! Writing variables and device features. A write is stored before it is published, and
a failing subscriber does not undo it. -/
namespace Reflex.Engine

variable {σ : Type} (call : Call σ)

open Act

def variableChange (name : String) (value previous : Value) : Value :=
  .ofMembers [("name", .text name), ("value", value), ("previous", previous)]

def publishVariable (name : String) (value previous : Value) : Act σ Unit :=
  emit call variableTopic [variableChange name value previous]

/-- Stores a slot and cancels the timer of the slot before it. Returns the value before. -/
def replaceSlot (name : String) (slot : Slot) : Act σ Value := do
  let w ← get
  set { w with slots := Table.put name slot w.slots }
  match Table.find? name w.slots with
  | some old => do
    match old.expiry with
    | some timer => discard <| cancel timer
    | none => pure ()
    return old.value
  | none => return .null

/-- Writes a variable; with a lifetime, a timer will reset it to null. -/
def setVariable (name : String) (value : Value) (ttl : Option Span) : Act σ Unit := do
  let reading := (← get).clock
  let expiry ← match ttl with
    | some d => some <$> once d (.expiry name)
    | none => pure none
  let previous ← replaceSlot name ⟨value, expiry⟩
  mark (.written ⟨name, value, reading, ttl, expiry⟩)
  publishVariable call name value previous

/-- Resets a variable whose lifetime ended, unless nothing refers to the store any more. -/
def expireVariable (name : String) : Act σ Unit := do
  let w ← get
  if w.storeAlive then
    match Table.find? name w.slots with
    | some slot => do
      set { w with slots := Table.put name ⟨.null, none⟩ w.slots }
      mark (.expired name)
      publishVariable call name .null slot.value
    | none => pure ()

def featureChange (device feature : String) (value previous : Value) : Value :=
  .ofMembers [("device", .text device), ("attribute", .text feature), ("value", value),
    ("previous", previous)]

/-- Registers a device under its name, in place of one that had it. -/
def registerDevice (d : Device) : Act σ Unit := do
  modify fun w => { w with devices := Table.put d.name d w.devices }
  mark (.deviceRegistered d)

/-- Writes a feature of a registered device; a change is published once devices are bound
to the bus. Returns whether the value changed. -/
def setFeature (device feature : String) (value : Value) : Act σ Bool := do
  let w ← get
  match Table.find? device w.devices with
  | none => fail (.missing "device" device)
  | some d =>
    let (d, change) := d.setAttribute feature value w.clock
    set { w with devices := Table.put device d w.devices }
    mark (.adjusted ⟨device, feature, value, change.previous, w.clock⟩)
    if change.changed && w.devicesBound then
      emit call attributeTopic [featureChange device feature value change.previous]
    return change.changed

end Reflex.Engine
