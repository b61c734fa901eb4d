import Reflex.Failure
import Reflex.Time.Instant
import Reflex.Word

/-! Periodic schedules. A count that a clock field can step by is due when the field is
a multiple of it; a longer one is due at multiples of its period from the epoch. -/
namespace Reflex

inductive TimeUnit where
  | second
  | minute
  | hour
deriving Repr, DecidableEq

namespace TimeUnit

def seconds : TimeUnit → Nat
  | second => 1
  | minute => 60
  | hour => 3600

/-- The largest count by which the unit's clock field can step. -/
def maxStep : TimeUnit → Nat
  | second => 59
  | minute => 59
  | hour => 23

def name : TimeUnit → String
  | second => "second"
  | minute => "minute"
  | hour => "hour"

end TimeUnit

/-- Every `count` units. -/
structure Schedule where
  count : Nat
  unit : TimeUnit
  count_pos : 0 < count
  count_lt : count < Word.size32
deriving Repr, DecidableEq

namespace Schedule

def periodSeconds (s : Schedule) : Nat := s.count * s.unit.seconds

def period (s : Schedule) : Span := .ofSeconds s.periodSeconds

def isAligned (s : Schedule) : Bool := decide (s.count ≤ s.unit.maxStep)

def isDue (s : Schedule) (t : Instant) : Bool :=
  if s.isAligned then
    match s.unit with
    | .second => t.secondOfMinute % s.count == 0
    | .minute => t.secondOfMinute == 0 && t.minute % s.count == 0
    | .hour => t.secondOfMinute == 0 && t.minute == 0 && t.hour % s.count == 0
  else t.second % s.periodSeconds == 0

/-- The published form: six clock fields, or a period in seconds. -/
def expression (s : Schedule) : String :=
  if s.isAligned then
    match s.unit with
    | .second => "*/" ++ toString s.count ++ " * * * * *"
    | .minute => "0 */" ++ toString s.count ++ " * * * *"
    | .hour => "0 0 */" ++ toString s.count ++ " * * *"
  else "@every " ++ toString s.periodSeconds ++ "s"

def render (s : Schedule) : String :=
  if s.count = 1 then "every " ++ s.unit.name
  else "every " ++ toString s.count ++ " " ++ s.unit.name ++ "s"

/-- A count of zero is no schedule. -/
def every (count : UInt32) (unit : TimeUnit) : Except Invalid Schedule :=
  if positive : 0 < count.toNat then .ok ⟨count.toNat, unit, positive, count.toNat_lt⟩
  else .error (.duration (toString count.toNat ++ " " ++ unit.name))

def minutely : Schedule := ⟨1, .minute, by decide, by decide⟩

end Schedule

end Reflex
