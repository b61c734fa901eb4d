import Reflex.Time.Date
import Reflex.Toml.Node
import Reflex.Word

/-! Numbers, dates and times of TOML. -/
namespace Reflex.Toml

/-- Digits from the front between which single underscores may stand, without them. -/
def spanGrouped (isDigit : Char → Bool) : List Char → Option (List Char × List Char)
  | [] => none
  | c :: rest => if isDigit c then some (more c rest) else none
where
  more (c : Char) : List Char → List Char × List Char
    | '_' :: d :: rest =>
      if isDigit d then
        let (digits, rest) := more d rest
        (c :: digits, rest)
      else ([c], '_' :: d :: rest)
    | d :: rest =>
      if isDigit d then
        let (digits, rest) := more d rest
        (c :: digits, rest)
      else ([c], d :: rest)
    | [] => ([c], [])

/-- The number that digits write in a base. -/
def inBase (base : Nat) (digits : List Char) : Nat :=
  digits.foldl (fun n c => base * n + (Text.hexDigitOf c).getD 0) 0

def inRange (n : Int) : Option Node :=
  if -(Word.half64 : Int) ≤ n ∧ n < Word.half64 then some (.integer n) else none

def isOctal (c : Char) : Bool := '0' ≤ c && c ≤ '7'

def isBinary (c : Char) : Bool := c == '0' || c == '1'

def spanBased (base : Nat) (isDigit : Char → Bool) (s : List Char) : Option (Node × List Char) := do
  let (digits, rest) ← spanGrouped isDigit s
  return (← inRange (inBase base digits), rest)

/-- An exponent from the front, with its mark; no digits after the mark is an error. -/
def spanExponent : List Char → Option (List Char × List Char)
  | c :: rest =>
    if c = 'e' ∨ c = 'E' then
      let (sign, rest) := match rest with
        | '+' :: rest => (['+'], rest)
        | '-' :: rest => (['-'], rest)
        | rest => ([], rest)
      (spanGrouped Char.isDigit rest).map fun (digits, rest) => ('e' :: sign ++ digits, rest)
    else some ([], c :: rest)
  | [] => some ([], [])

/-- A fraction from the front, with its point. -/
def spanFraction : List Char → Option (List Char × List Char)
  | '.' :: rest => (spanGrouped Char.isDigit rest).map fun (digits, rest) => ('.' :: digits, rest)
  | rest => some ([], rest)

/-- Too large a number is an error when it is positive. -/
def floatOf (negative : Bool) (digits : List Char) : Option Node :=
  match (Decimal.read digits).bind (·.toDouble negative) with
  | some x => some (.float (some x))
  | none => if negative then some (.float none) else none

/-- A decimal number after its sign. A leading zero stands alone before point or mark. -/
def spanDecimal (negative : Bool) (s : List Char) : Option (Node × List Char) := do
  let (whole, rest) ← match s with
    | '0' :: rest => some (['0'], rest)
    | s => spanGrouped Char.isDigit s
  let (fraction, rest) ← spanFraction rest
  let (exponent, rest) ← spanExponent rest
  if fraction.isEmpty && exponent.isEmpty then
    let n : Int := inBase 10 whole
    return (← inRange (if negative then -n else n), rest)
  else return (← floatOf negative (whole ++ fraction ++ exponent), rest)

/-- A number after its sign: `inf`, `nan` or a decimal. -/
def spanSigned (negative : Bool) : List Char → Option (Node × List Char)
  | 'i' :: 'n' :: 'f' :: rest => some (.float none, rest)
  | 'n' :: 'a' :: 'n' :: rest => some (.float none, rest)
  | s => spanDecimal negative s

def spanNumber : List Char → Option (Node × List Char)
  | '+' :: rest => spanSigned false rest
  | '-' :: rest => spanSigned true rest
  | '0' :: 'x' :: rest => spanBased 16 (fun c => (Text.hexDigitOf c).isSome) rest
  | '0' :: 'o' :: rest => spanBased 8 isOctal rest
  | '0' :: 'b' :: rest => spanBased 2 isBinary rest
  | s => spanSigned false s

/-- Exactly `n` digits from the front, below a bound. -/
def spanField (n bound : Nat) (s : List Char) : Option (Nat × List Char) := do
  let digits := s.take n
  guard (digits.length == n)
  let value ← Text.numeral digits
  guard (value < bound)
  return (value, s.drop n)

def expect (c : Char) : List Char → Option (List Char)
  | d :: rest => if c = d then some rest else none
  | [] => none

/-- A date that the calendar has. -/
def spanDate (s : List Char) : Option (String × List Char) := do
  let (year, s) ← spanField 4 10000 s
  let s ← expect '-' s
  let (month, s) ← spanField 2 13 s
  let s ← expect '-' s
  let (day, s) ← spanField 2 32 s
  let date : Date := ⟨year, month, day⟩
  guard date.isValid
  return (date.render, s)

/-- Digits of a fraction of a second without the zeros at its end; nine digits count. -/
def fractionText (digits : List Char) : String :=
  let kept := ((digits.take 9).reverse.dropWhile (· == '0')).reverse
  if kept.isEmpty then "" else "." ++ String.ofList kept

/-- A time of day; a minute may have a sixty-first second. -/
def spanTime (s : List Char) : Option (String × List Char) := do
  let (hour, s) ← spanField 2 24 s
  let s ← expect ':' s
  let (minute, s) ← spanField 2 60 s
  let s ← expect ':' s
  let (second, s) ← spanField 2 61 s
  let text := Text.padded 2 hour ++ ":" ++ Text.padded 2 minute ++ ":" ++ Text.padded 2 second
  match s with
  | '.' :: rest =>
    let digits := rest.takeWhile Char.isDigit
    guard (!digits.isEmpty)
    return (text ++ fractionText digits, rest.drop digits.length)
  | s => return (text, s)

/-- An offset from universal time, if there is one. -/
def spanOffset : List Char → Option (String × List Char)
  | 'Z' :: rest => some ("Z", rest)
  | 'z' :: rest => some ("Z", rest)
  | '+' :: rest => signed "+" rest
  | '-' :: rest => signed "-" rest
  | s => some ("", s)
where
  signed (sign : String) (s : List Char) : Option (String × List Char) := do
    let (hour, s) ← spanField 2 24 s
    let s ← expect ':' s
    let (minute, s) ← spanField 2 60 s
    let sign := if hour = 0 ∧ minute = 0 then "+" else sign
    return (sign ++ Text.padded 2 hour ++ ":" ++ Text.padded 2 minute, s)

/-- Whether a time of day begins here. -/
def looksLikeTime : List Char → Bool
  | a :: b :: ':' :: _ => a.isDigit && b.isDigit
  | _ => false

def looksLikeDate : List Char → Bool
  | a :: b :: c :: d :: '-' :: _ => a.isDigit && b.isDigit && c.isDigit && d.isDigit
  | _ => false

/-- A date, a time, or both with a separator between them and perhaps an offset. -/
def spanStamp (s : List Char) : Option (String × List Char) := do
  if looksLikeTime s then spanTime s
  else
    let (date, s) ← spanDate s
    match s with
    | c :: rest =>
      if (c = 'T' ∨ c = 't' ∨ c = ' ') ∧ looksLikeTime rest then
        let (time, rest) ← spanTime rest
        let (offset, rest) ← spanOffset rest
        return (date ++ "T" ++ time ++ offset, rest)
      else return (date, s)
    | [] => return (date, [])

/-- A number, date or time from the front. -/
def spanScalar (s : List Char) : Option (Node × List Char) :=
  if looksLikeTime s || looksLikeDate s then
    (spanStamp s).map fun (text, rest) => (.stamp text, rest)
  else spanNumber s

end Reflex.Toml
