import Reflex.Time.Instant

/-! Written date-times. The fraction is written with three, six or nine digits, the
fewest that are exact; any number of digits is read, of which nine count. -/
namespace Reflex

/-- A written instant. A leap second, written as second 60, is kept with the last second
of its minute. -/
structure Stamp where
  instant : Instant
  leap : Bool
deriving Repr, DecidableEq

namespace Stamp

def renderFraction (nanos : Nat) : String :=
  if nanos = 0 then ""
  else if nanos % 1000000 = 0 then "." ++ Text.padded 3 (nanos / 1000000)
  else if nanos % 1000 = 0 then "." ++ Text.padded 6 (nanos / 1000)
  else "." ++ Text.padded 9 nanos

/-- The number of the second within its minute, from 0 to 60. -/
def second (s : Stamp) : Nat := s.instant.secondOfMinute + if s.leap then 1 else 0

/-- Date and time of day to the second, with a separator between them. -/
def renderSeconds (separator : String) (s : Stamp) : String :=
  s.instant.date.render ++ separator ++ Text.padded 2 s.instant.hour ++ ":" ++
    Text.padded 2 s.instant.minute ++ ":" ++ Text.padded 2 s.second

def renderWith (separator : String) (s : Stamp) : String :=
  s.renderSeconds separator ++ renderFraction s.instant.fraction

/-- The form of values, with `T` between date and time. -/
def render (s : Stamp) : String := s.renderWith "T"

def skipBlanks (s : List Char) : List Char := s.dropWhile Text.isBlank

/-- Up to `most` digits from the front, at least one, after white space. -/
def spanNumber (most : Nat) (s : List Char) : Option (Nat × List Char) :=
  let s := skipBlanks s
  let digits := (s.take most).takeWhile Char.isDigit
  (Text.numeral digits).map (·, s.drop digits.length)

/-- A year: four digits at most, or any number of them after a sign. -/
def spanYear (s : List Char) : Option (Int × List Char) :=
  match skipBlanks s with
  | '-' :: rest =>
    let digits := rest.takeWhile Char.isDigit
    (Text.numeral digits).map fun n => (-(n : Int), rest.drop digits.length)
  | '+' :: rest =>
    let digits := rest.takeWhile Char.isDigit
    (Text.numeral digits).map fun n => ((n : Int), rest.drop digits.length)
  | rest => (spanNumber 4 rest).map fun (n, rest) => ((n : Int), rest)

/-- The rest after a separator, before which white space may stand. -/
def afterMark (mark : Char) (s : List Char) : Option (List Char) :=
  match skipBlanks s with
  | c :: rest => if c = mark then some rest else none
  | [] => none

/-- Nanoseconds of a fraction from the front, if there is one. -/
def spanFraction : List Char → Option (Nat × List Char)
  | '.' :: rest =>
    let digits := rest.takeWhile Char.isDigit
    let kept := digits.take 9
    (Text.numeral kept).map fun n => (n * Nat.pow 10 (9 - kept.length), rest.drop digits.length)
  | rest => some (0, rest)

/-- The instant of a valid date and a time of day. -/
def compose? (date : Date) (hour minute second nanos : Nat) : Option Stamp :=
  if date.isValid ∧ hour < 24 ∧ minute < 60 ∧ second ≤ 60 then
    let minutes := (date.toDay * 24 + hour) * 60 + minute
    some ⟨⟨(minutes * 60 + min second 59) * Instant.perSecond + nanos⟩, decide (second = 60)⟩
  else none

def read (text : String) : Option Stamp := do
  let (year, s) ← spanYear text.toList
  let s ← afterMark '-' s
  let (month, s) ← spanNumber 2 s
  let s ← afterMark '-' s
  let (day, s) ← spanNumber 2 s
  let s ← afterMark 'T' s
  let (hour, s) ← spanNumber 2 s
  let s ← afterMark ':' s
  let (minute, s) ← spanNumber 2 s
  let s ← afterMark ':' s
  let (second, s) ← spanNumber 2 s
  let (nanos, s) ← spanFraction s
  if (skipBlanks s).isEmpty then compose? ⟨year, month, day⟩ hour minute second nanos else none

end Stamp

namespace Instant

/-- The form of values. -/
def render (t : Instant) : String := (Stamp.mk t false).render

/-- The form of values without a fraction. -/
def renderToSecond (t : Instant) : String := (Stamp.mk t false).renderSeconds "T"

/-- The form of diagnostics, with a space between date and time. -/
def display (t : Instant) : String := (Stamp.mk t false).renderWith " "

/-- Reads an instant that is no leap second. -/
def read (text : String) : Option Instant :=
  (Stamp.read text).bind fun s => if s.leap then none else some s.instant

end Instant

end Reflex
