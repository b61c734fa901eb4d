import Reflex.Schedule

/-! Schedules and durations in words: a count, a unit, or both, such as `5 minutes`,
`hour` or `30`. The count defaults to one and the unit to seconds. -/
namespace Reflex.Schedule

/-- A unit's name without its plural ending, which may be a long s. -/
def singular (word : List Char) : List Char :=
  match word.reverse with
  | [] => []
  | c :: rest => if c = 's' ∨ c = 'S' ∨ c = 'ſ' then rest.reverse else word

def unitNamed (word : List Char) : Option TimeUnit :=
  let name := String.ofList ((singular word).map Char.toLower)
  [TimeUnit.second, .minute, .hour].find? (·.name = name)

/-- The count and the unit that a trimmed phrase names. -/
def readPhrase (phrase : List Char) : Option (Nat × TimeUnit) :=
  let digits := phrase.takeWhile Char.isDigit
  let word := (phrase.dropWhile Char.isDigit).dropWhile Text.isBlank
  match digits, word with
  | [], [] => none
  | [], word => do return (1, ← unitNamed word)
  | digits, [] => do return (← Text.numeral digits, .second)
  | digits, word => do return (← Text.numeral digits, ← unitNamed word)

/-- A positive count below 2^32. -/
abbrev Count := { count : Nat // 0 < count ∧ count < Word.size32 }

/-- The count and the unit that a text names. -/
def split (text : String) : Except Invalid (Count × TimeUnit) :=
  match readPhrase (Text.trimBlanks text.toList) with
  | some (count, u) =>
    if fits : 0 < count ∧ count < Word.size32 then .ok (⟨count, fits⟩, u)
    else .error (.duration text)
  | none => .error (.duration text)

def parse (text : String) : Except Invalid Schedule :=
  (split text).map fun (count, u) => ⟨count, u, count.2.1, count.2.2⟩

end Reflex.Schedule

namespace Reflex

/-- A duration has the words of a schedule. -/
def Span.parse (text : String) : Except Invalid Span :=
  (Schedule.split text).map fun (count, u) => .ofSeconds (count * u.seconds)

end Reflex
