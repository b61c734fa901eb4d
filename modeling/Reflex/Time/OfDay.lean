import Reflex.Failure
import Reflex.Time.Instant

/-! Times of day to the minute, and windows between two of them. -/
namespace Reflex

structure TimeOfDay where
  hour : Fin 24
  minute : Fin 60
deriving Repr, DecidableEq

namespace TimeOfDay

def of (t : Instant) : TimeOfDay :=
  ⟨Fin.ofNat 24 t.hour, Fin.ofNat 60 t.minute⟩

def minutes (t : TimeOfDay) : Nat := t.hour * 60 + t.minute

/-- `HH:MM`, both with two digits. -/
def render (t : TimeOfDay) : String := Text.padded 2 t.hour ++ ":" ++ Text.padded 2 t.minute

def readChars : List Char → Option TimeOfDay
  | [a, b, ':', c, d] => do
    let hour := 10 * (← Text.digitOf a) + (← Text.digitOf b)
    let minute := 10 * (← Text.digitOf c) + (← Text.digitOf d)
    if h : hour < 24 ∧ minute < 60 then some ⟨⟨hour, h.1⟩, ⟨minute, h.2⟩⟩ else none
  | _ => none

def parse (text : String) : Except Invalid TimeOfDay :=
  match readChars text.toList with
  | some t => .ok t
  | none => .error (.timeOfDay text)

end TimeOfDay

/-- The times from `first` to `last`, both included; none when `first` is later. -/
structure TimeWindow where
  first : TimeOfDay
  last : TimeOfDay
deriving Repr, DecidableEq

namespace TimeWindow

def parse (first last : String) : Except Invalid TimeWindow := do
  return ⟨← TimeOfDay.parse first, ← TimeOfDay.parse last⟩

def contains (window : TimeWindow) (t : Instant) : Bool :=
  let minutes := (TimeOfDay.of t).minutes
  decide (window.first.minutes ≤ minutes) && decide (minutes ≤ window.last.minutes)

def render (window : TimeWindow) : String := window.first.render ++ ".." ++ window.last.render

end TimeWindow

end Reflex
