import Reflex.Failure
import Reflex.Time.Stamp
import Reflex.Value

/-! Devices with named attributes. Attributes are members in key order; one that is unset
reads as null. -/
namespace Reflex

structure Device where
  name : String
  attributes : Table Value
  lastChanged : Option Stamp

namespace Device

def new (name : String) : Except Failure Device :=
  if Text.isBlankText name then .error (.invalid .emptyName) else .ok ⟨name, [], none⟩

def get (d : Device) (name : String) : Value := (Table.find? name d.attributes).getD .null

/-- What a write found and whether it changed anything. -/
structure Change where
  previous : Value
  changed : Bool

/-- Writes an attribute; null unsets it. The time of change moves only with the value, and
values are compared strictly. -/
def setAttribute (d : Device) (name : String) (value : Value) (now : Instant) : Device × Change :=
  let previous := d.get name
  let changed := !previous.identical value
  let attributes := if value.isNull then Table.erase name d.attributes
    else Table.put name value d.attributes
  (⟨d.name, attributes, if changed then some ⟨now, false⟩ else d.lastChanged⟩, ⟨previous, changed⟩)

def stampValue : Option Stamp → Value
  | some s => .text s.render
  | none => .null

def toValue (d : Device) : Value :=
  .ofMembers [("name", .text d.name), ("attributes", .object d.attributes),
    ("last_changed", stampValue d.lastChanged)]

def stampOf? : Value → Option (Option Stamp)
  | .null => some none
  | .text s => (Stamp.read s).map some
  | _ => none

def ofParts? (name attributes lastChanged : Value) : Option Device :=
  match name, attributes with
  | .text name, .object members => (stampOf? lastChanged).map (⟨name, members, ·⟩)
  | _, _ => none

/-- A device as an object, whose time of change may be missing and whose other keys are
ignored, or as an array of exactly its three parts. -/
def ofValue? : Value → Option Device
  | .object members => do
    ofParts? (← Table.find? "name" members) (← Table.find? "attributes" members)
      ((Table.find? "last_changed" members).getD .null)
  | .array [name, attributes, lastChanged] => ofParts? name attributes lastChanged
  | _ => none

end Device

end Reflex
