/-! White space and decimal numerals over characters. Texts are read as lists of
characters throughout, so every reader is a recursion on its input. -/
namespace Reflex.Text

/-- The twenty-five characters with the property White_Space. -/
def isBlank (c : Char) : Bool :=
  let n := c.toNat
  (9 ≤ n && n ≤ 13) || n == 0x20 || n == 0x85 || n == 0xA0 || n == 0x1680 ||
    (0x2000 ≤ n && n ≤ 0x200A) || n == 0x2028 || n == 0x2029 || n == 0x202F ||
    n == 0x205F || n == 0x3000

/-- Drops white space at both ends. -/
def trimBlanks (s : List Char) : List Char :=
  ((s.dropWhile isBlank).reverse.dropWhile isBlank).reverse

/-- A text of white space only names nothing. -/
def isBlankText (s : String) : Bool := s.toList.all isBlank

/-- One decimal digit. -/
def digitOf (c : Char) : Option Nat :=
  if '0' ≤ c ∧ c ≤ '9' then some (c.toNat - '0'.toNat) else none

/-- The number written by decimal digits, most significant first, after the digits of `n`. -/
def numeralFrom (n : Nat) : List Char → Option Nat
  | [] => some n
  | c :: rest => do numeralFrom (10 * n + (← digitOf c)) rest

/-- A nonempty run of decimal digits read as a number. -/
def numeral (s : List Char) : Option Nat :=
  if s.isEmpty then none else numeralFrom 0 s

/-- An unsigned number below `bound`; one leading plus sign is allowed. -/
def boundedNumeral (bound : Nat) (s : List Char) : Option Nat :=
  let digits := match s with
    | '+' :: rest => rest
    | s => s
  (numeral digits).filter (· < bound)

def hexDigitOf (c : Char) : Option Nat :=
  if '0' ≤ c ∧ c ≤ '9' then some (c.toNat - '0'.toNat)
  else if 'a' ≤ c ∧ c ≤ 'f' then some (c.toNat - 'a'.toNat + 10)
  else if 'A' ≤ c ∧ c ≤ 'F' then some (c.toNat - 'A'.toNat + 10)
  else none

def hexNumeralFrom (n : Nat) : List Char → Option Nat
  | [] => some n
  | c :: rest => do hexNumeralFrom (16 * n + (← hexDigitOf c)) rest

/-- Digits of `n` in lower-case hexadecimal. -/
def hexDigits (n : Nat) : String := String.ofList (Nat.toDigits 16 n)

/-- At least `width` decimal digits, with zeros in front. -/
def padded (width n : Nat) : String :=
  let digits := Nat.toDigits 10 n
  String.ofList (List.replicate (width - digits.length) '0' ++ digits)

/-- A code point that is a character. -/
def scalar (n : Nat) : Option Char :=
  if n < 0xD800 ∨ 0xDFFF < n ∧ n < 0x110000 then some (Char.ofNat n) else none

end Reflex.Text
