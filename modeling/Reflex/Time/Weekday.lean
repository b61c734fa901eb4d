import Reflex.Failure
import Reflex.Json.Printer
import Reflex.Time.Instant

/-! Days of the week and sets of them. -/
namespace Reflex

inductive Weekday where
  | monday | tuesday | wednesday | thursday | friday | saturday | sunday
deriving Repr, DecidableEq

namespace Weekday

def week : List Weekday := [monday, tuesday, wednesday, thursday, friday, saturday, sunday]

def name : Weekday → String
  | monday => "monday"
  | tuesday => "tuesday"
  | wednesday => "wednesday"
  | thursday => "thursday"
  | friday => "friday"
  | saturday => "saturday"
  | sunday => "sunday"

/-- The day with this place in a week that starts on Monday. -/
def ofIndex (n : Nat) : Weekday :=
  match n with
  | 0 => monday
  | 1 => tuesday
  | 2 => wednesday
  | 3 => thursday
  | 4 => friday
  | 5 => saturday
  | _ => sunday

/-- The first of January 1970 was a Thursday. -/
def of (t : Instant) : Weekday := ofIndex ((t.day + 3) % 7).toNat

def isWorkday : Weekday → Bool
  | saturday => false
  | sunday => false
  | _ => true

end Weekday

structure DaySet where
  contains : Weekday → Bool

namespace DaySet

def empty : DaySet := ⟨fun _ => false⟩

def union (a b : DaySet) : DaySet := ⟨fun d => a.contains d || b.contains d⟩

def isEmpty (s : DaySet) : Bool := !Weekday.week.any s.contains

/-- The days that a name in lower case denotes: a group, or one day by its full name or the
first three letters. -/
def named? (name : String) : Option DaySet :=
  if name = "weekday" ∨ name = "weekdays" then some ⟨Weekday.isWorkday⟩
  else if name = "weekend" ∨ name = "weekends" then some ⟨fun d => !d.isWorkday⟩
  else
    (Weekday.week.find? fun d => name = d.name ∨ name.toList = d.name.toList.take 3).map
      fun day => ⟨(· == day)⟩

/-- One name in any case, between blanks. -/
def parse (day : String) : Except Invalid DaySet :=
  match named? (String.ofList ((Text.trimBlanks day.toList).map Char.toLower)) with
  | some days => .ok days
  | none => .error (.day day)

/-- The union of the named days, from the left up to the first unknown name. -/
def parseInto (days : DaySet) : List String → Except Invalid DaySet
  | [] => .ok days
  | name :: rest => do parseInto (days.union (← parse name)) rest

/-- At least one name. -/
def parseAll (names : List String) : Except Invalid DaySet := do
  let days ← parseInto empty names
  if days.isEmpty then .error (.day "") else .ok days

/-- The texts of a list, or the first item that is none. -/
def texts : List Value → Except Invalid (List String)
  | [] => .ok []
  | .text s :: rest => do return s :: (← texts rest)
  | v :: _ => .error (.day (Json.render v))

/-- A name or a list of names. -/
def ofValue : Value → Except Invalid DaySet
  | .text day => parse day
  | .array items => do parseAll (← texts items)
  | v => .error (.day (Json.render v))

def matchesAt (days : DaySet) (t : Instant) : Bool := days.contains (Weekday.of t)

/-- Full names in the order of the week, with commas between. -/
def render (days : DaySet) : String :=
  ",".intercalate ((Weekday.week.filter days.contains).map Weekday.name)

end DaySet

end Reflex
