import Reflex.Time.Span
import Reflex.Time.Date

/-! Instants of local wall-clock time, counted in nanoseconds from 1970-01-01T00:00:00.
Addition stops at the latest representable instant. -/
namespace Reflex

structure Instant where
  nanos : Int
deriving Repr, DecidableEq

namespace Instant

def perSecond : Int := 1000000000

/-- The start of a second, counted from the epoch. -/
def ofSecond (n : Int) : Instant := ⟨n * perSecond⟩

/-- Whole seconds from the epoch, toward the past. -/
def second (t : Instant) : Int := t.nanos / perSecond

def fraction (t : Instant) : Nat := (t.nanos % perSecond).toNat

/-- The start of the second that holds the instant. -/
def truncate (t : Instant) : Instant := ofSecond t.second

instance : LE Instant := ⟨fun x y => x.nanos ≤ y.nanos⟩
instance : LT Instant := ⟨fun x y => x.nanos < y.nanos⟩
instance (x y : Instant) : Decidable (x ≤ y) := inferInstanceAs (Decidable (x.nanos ≤ y.nanos))
instance (x y : Instant) : Decidable (x < y) := inferInstanceAs (Decidable (x.nanos < y.nanos))

/-- `262142-12-31T23:59:59.999999999`. -/
def latest : Instant := ⟨8210266876799999999999⟩

/-- `-262143-01-01T00:00:00`. -/
def earliest : Instant := ⟨-8334601228800000000000⟩

/-- The instants between the earliest and the latest. -/
def Representable (t : Instant) : Prop := earliest ≤ t ∧ t ≤ latest

/-- The instant a span later, at most the latest. -/
def add (t : Instant) (d : Span) : Instant :=
  if t.nanos + d.nanos ≤ latest.nanos then ⟨t.nanos + d.nanos⟩ else latest

theorem add_eq (t : Instant) (d : Span) :
    t.add d = ⟨min (t.nanos + d.nanos) latest.nanos⟩ := by
  unfold add
  split
  · rename_i early
    rw [Int.min_eq_left early]
  · rename_i late
    rw [Int.min_eq_right (Int.le_of_not_le late)]

def addSeconds (t : Instant) (n : Nat) : Instant := ⟨t.nanos + n * perSecond⟩

def day (t : Instant) : Int := t.second / 86400

def secondOfDay (t : Instant) : Nat := (t.second % 86400).toNat

def hour (t : Instant) : Nat := t.secondOfDay / 3600

def minute (t : Instant) : Nat := t.secondOfDay / 60 % 60

def secondOfMinute (t : Instant) : Nat := t.secondOfDay % 60

def date (t : Instant) : Date := Date.ofDay t.day

/-- The instant a signed length away, if the calendar has its date. -/
def shift? (t : Instant) (length : Int) : Option Instant :=
  let u : Instant := ⟨t.nanos + length⟩
  if u.date.isValid then some u else none

/-- Where a clock stands after it was moved forward by a span; at the latest instant if the
span has no signed length or the calendar ends before. -/
def advance (t : Instant) (d : Span) : Instant := (d.signed?.bind t.shift?).getD latest

end Instant

end Reflex
