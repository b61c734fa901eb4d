import Reflex.Schedule.Phrase
import Reflex.Value

/-! Scenario options: how long a scenario stays quiet after it ran, and whether it is
singled out for testing. -/
namespace Reflex

structure Options where
  suppressFor : Option Span
  only : Bool
deriving Repr, DecidableEq

namespace Options

def default : Options := ⟨none, false⟩

/-- A window as written: a count of milliseconds or a duration in words. -/
inductive Window where
  | millis (n : Nat)
  | words (text : String)
deriving Repr, DecidableEq

def windowOf : Value → Except Invalid (Option Window)
  | .null => .ok none
  | .int n => if 0 ≤ n ∧ n < Word.size64 then .ok (some (.millis n.toNat)) else .error .options
  | .text s => .ok (some (.words s))
  | _ => .error .options

def flagOf : Value → Except Invalid Bool
  | .bool b => .ok b
  | _ => .error .options

/-- Options as written, each part at most once. -/
structure Raw where
  window : Option (Option Window)
  only : Option Bool

/-- Reads the members of an object from the left. -/
def readMembers (raw : Raw) : List (String × Value) → Except Invalid Raw
  | [] => .ok raw
  | (key, v) :: rest =>
    if key = "suppress_for" ∨ key = "suppressFor" then
      if raw.window.isSome then .error .options
      else do readMembers { raw with window := some (← windowOf v) } rest
    else if key = "only" then
      if raw.only.isSome then .error .options
      else do readMembers { raw with only := some (← flagOf v) } rest
    else .error .options

def readRaw : Value → Except Invalid Raw
  | .object members => readMembers ⟨none, none⟩ members
  | .array [] => .ok ⟨none, none⟩
  | .array [window] => do return ⟨some (← windowOf window), none⟩
  | .array [window, only] => do return ⟨some (← windowOf window), some (← flagOf only)⟩
  | _ => .error .options

/-- Null stands for the default options. The form is checked before the words of a
duration are read. -/
def ofValue : Value → Except Invalid Options
  | .null => .ok default
  | v => do
    let raw ← readRaw v
    let suppressFor ← match raw.window.join with
      | none => pure none
      | some (.millis n) => pure (some (Span.ofMillis n))
      | some (.words text) => do pure (some (← Span.parse text))
    return ⟨suppressFor, raw.only.getD false⟩

end Options

end Reflex
