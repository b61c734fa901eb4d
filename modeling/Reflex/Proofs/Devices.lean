import Reflex.Proofs.ChangeLog

/-! Devices and strict equality of values. Values are equal in this sense when they differ in the
signs of zeros alone, which makes it an equivalence. What a write of an attribute leaves is told
attribute by attribute. -/
namespace Reflex

namespace Double

/-- The number with zero positive. -/
def unsigned (x : Double) : Double := if x.isZero then zero else x

theorem eq_iff (x y : Double) : x.eq y = true ↔ x.unsigned = y.unsigned := by
  obtain ⟨negative, m⟩ := x
  obtain ⟨other, n⟩ := y
  simp only [eq, units, unsigned, isZero, zero, beq_iff_eq]
  by_cases here : m = 0 <;> by_cases there : n = 0 <;> cases negative <;> cases other <;>
    simp [here, there] <;> omega

end Double

namespace Value

mutual

/-- The value with all zeros in it positive. -/
def unsigned : Value → Value
  | double x => double x.unsigned
  | array items => array (unsignedItems items)
  | object members => object (unsignedMembers members)
  | null => null
  | bool b => bool b
  | int n => int n
  | text s => text s

def unsignedItems : List Value → List Value
  | [] => []
  | x :: rest => unsigned x :: unsignedItems rest

def unsignedMembers : List (String × Value) → List (String × Value)
  | [] => []
  | (key, x) :: rest => (key, unsigned x) :: unsignedMembers rest

end

mutual

theorem identical_iff : ∀ v w : Value, v.identical w = true ↔ v.unsigned = w.unsigned
  | null, w => by cases w <;> simp [identical, unsigned]
  | bool _, w => by cases w <;> simp [identical, unsigned]
  | int _, w => by cases w <;> simp [identical, unsigned]
  | text _, w => by cases w <;> simp [identical, unsigned]
  | double x, w => by cases w <;> simp [identical, unsigned, Double.eq_iff]
  | array items, w => by
    cases w with
    | array others => simpa [identical, unsigned] using identicalItems_iff items others
    | _ => simp [identical, unsigned]
  | object members, w => by
    cases w with
    | object others => simpa [identical, unsigned] using identicalMembers_iff members others
    | _ => simp [identical, unsigned]

theorem identicalItems_iff : ∀ xs ys : List Value,
    identicalItems xs ys = true ↔ unsignedItems xs = unsignedItems ys
  | [], ys => by cases ys <;> simp [identicalItems, unsignedItems]
  | x :: xs, ys => by
    cases ys with
    | nil => simp [identicalItems, unsignedItems]
    | cons y ys =>
      simp [identicalItems, unsignedItems, identical_iff x y, identicalItems_iff xs ys]

theorem identicalMembers_iff : ∀ xs ys : List (String × Value),
    identicalMembers xs ys = true ↔ unsignedMembers xs = unsignedMembers ys
  | [], ys => by cases ys <;> simp [identicalMembers, unsignedMembers]
  | (k, x) :: xs, ys => by
    cases ys with
    | nil => simp [identicalMembers, unsignedMembers]
    | cons y ys =>
      obtain ⟨l, y⟩ := y
      simp [identicalMembers, unsignedMembers, identical_iff x y, identicalMembers_iff xs ys]

end

example : (double Double.zero).identical (double Double.zero.neg) = true := rfl

example : (int 1).identical (double (Double.ofInt 1)) = false := rfl

theorem identical_refl (v : Value) : v.identical v = true := (identical_iff v v).mpr rfl

theorem identical_trans {v w x : Value} (first : v.identical w = true)
    (rest : w.identical x = true) : v.identical x = true :=
  (identical_iff v x).mpr (((identical_iff v w).mp first).trans ((identical_iff w x).mp rest))

end Value

namespace Device

/-- No attribute is held as null. -/
def NullFree (d : Device) : Prop := ∀ entry ∈ d.attributes, entry.2.isNull = false

variable {d : Device} {value : Value} {now : Instant}

/-- A write puts its value in place, null by removing the attribute, and leaves the others. -/
theorem setAttribute_find? (d : Device) (name other : String) (value : Value) (now : Instant) :
    Table.find? other (d.setAttribute name value now).1.attributes =
      if name = other then (if value.isNull then none else some value)
      else Table.find? other d.attributes := by
  change Table.find? other (if value.isNull then Table.erase name d.attributes
    else Table.put name value d.attributes) = _
  split
  · exact Table.find?_erase name other d.attributes
  · exact Table.find?_put name other value d.attributes

theorem setAttribute_get (d : Device) (name other : String) (value : Value) (now : Instant) :
    (d.setAttribute name value now).1.get other = if name = other then value else d.get other := by
  rw [get, setAttribute_find?]
  split
  · split
    · rename_i null
      exact ((Value.isNull_iff value).mp null).symm
    · rfl
  · rfl

theorem setAttribute_lastChanged (d : Device) (name : String) (value : Value) (now : Instant) :
    (d.setAttribute name value now).1.lastChanged =
      if !(d.get name).identical value then some ⟨now, false⟩ else d.lastChanged := rfl

theorem NullFree.setAttribute (free : d.NullFree) (name : String) :
    (d.setAttribute name value now).1.NullFree := by
  intro entry member
  change entry ∈ (if value.isNull then Table.erase name d.attributes
    else Table.put name value d.attributes) at member
  split at member
  · exact free entry (List.mem_filter.mp member).1
  · rename_i present
    rcases Table.mem_put member with rfl | before
    · simpa using present
    · exact free entry before

end Device

end Reflex
