import Reflex.Text.Blank

/-! Quoted texts of TOML: basic ones with escapes, literal ones without, and both over
several lines with three quotes. -/
namespace Reflex.Toml

/-- Characters that may stand in a line: the tab, and everything from the space on but
the delete character. -/
def isPlain (c : Char) : Bool := c == '\t' || (0x20 ≤ c.toNat && c.toNat != 0x7F)

/-- The rest after a line end. -/
def afterNewline : List Char → Option (List Char)
  | '\n' :: rest => some rest
  | '\r' :: '\n' :: rest => some rest
  | _ => none

def isSpace (c : Char) : Bool := c == ' ' || c == '\t'

def skipSpace (s : List Char) : List Char := s.dropWhile isSpace

/-- A code point of `n` hexadecimal digits. -/
def spanCode (n : Nat) (s : List Char) : Option (Char × List Char) := do
  let digits := s.take n
  guard (digits.length == n)
  return (← Text.scalar (← Text.hexNumeralFrom 0 digits), s.drop n)

/-- The character of an escape, after the backslash. -/
def spanEscape : List Char → Option (Char × List Char)
  | 'b' :: rest => some ('\x08', rest)
  | 't' :: rest => some ('\t', rest)
  | 'n' :: rest => some ('\n', rest)
  | 'f' :: rest => some ('\x0c', rest)
  | 'r' :: rest => some ('\r', rest)
  | '"' :: rest => some ('"', rest)
  | '\\' :: rest => some ('\\', rest)
  | 'u' :: rest => spanCode 4 rest
  | 'U' :: rest => spanCode 8 rest
  | _ => none

/-- The rest of a basic text, up to its quote. -/
def spanBasic : Nat → List Char → Option (List Char × List Char)
  | 0, _ => none
  | fuel + 1, s =>
    match s with
    | '"' :: rest => some ([], rest)
    | '\\' :: rest => do
      let (c, rest) ← spanEscape rest
      return (← spanBasic fuel rest).map (c :: ·) id
    | c :: rest => if isPlain c then (spanBasic fuel rest).map fun p => p.map (c :: ·) id else none
    | [] => none

/-- The rest of a literal text, up to its quote. -/
def spanLiteral : List Char → Option (List Char × List Char)
  | '\'' :: rest => some ([], rest)
  | c :: rest => if isPlain c then (spanLiteral rest).map fun p => p.map (c :: ·) id else none
  | [] => none

/-- White space and line ends, as many as there are. -/
def skipLines : Nat → List Char → List Char
  | 0, s => s
  | fuel + 1, s =>
    match afterNewline (skipSpace s) with
    | some rest => skipLines fuel rest
    | none => skipSpace s

/-- How a run of quotes goes on: up to two stand for themselves; from three on the text
ends, after at most two that stand for themselves. -/
def closing (quotes : Nat) : Option (Option Nat) :=
  if quotes < 3 then some none else if quotes ≤ 5 then some (some (quotes - 3)) else none

/-- The rest of a text over several lines, up to its three quotes. In a basic one a
backslash at the end of a line joins it with the next text. -/
def spanLong (quote : Char) (basic : Bool) : Nat → List Char → Option (List Char × List Char)
  | 0, _ => none
  | fuel + 1, s =>
    match s with
    | [] => none
    | c :: rest =>
      if c = quote then
        let run := s.takeWhile (· == quote)
        match closing run.length with
        | none => none
        | some none =>
          (spanLong quote basic fuel (s.drop run.length)).map fun p => p.map (run ++ ·) id
        | some (some kept) => some (run.take kept, s.drop run.length)
      else if c = '\\' ∧ basic then
        match afterNewline (skipSpace rest) with
        | some rest => spanLong quote basic fuel (skipLines rest.length rest)
        | none => do
          let (e, rest) ← spanEscape rest
          return (← spanLong quote basic fuel rest).map (e :: ·) id
      else
        match afterNewline s with
        | some rest => (spanLong quote basic fuel rest).map fun p => p.map ('\n' :: ·) id
        | none =>
          if isPlain c then (spanLong quote basic fuel rest).map fun p => p.map (c :: ·) id
          else none

/-- A line end right after the opening quotes is not part of the text. -/
def spanLongBody (quote : Char) (basic : Bool) (s : List Char) : Option (List Char × List Char) :=
  let s := (afterNewline s).getD s
  spanLong quote basic (s.length + 1) s

/-- A text within one line, after nothing was consumed; `none` if none begins here. -/
def spanLine : List Char → Option (List Char × List Char)
  | '"' :: rest => spanBasic (rest.length + 1) rest
  | '\'' :: rest => spanLiteral rest
  | _ => none

/-- A text of any of the four kinds. -/
def spanQuoted : List Char → Option (List Char × List Char)
  | '"' :: '"' :: '"' :: rest => spanLongBody '"' true rest
  | '\'' :: '\'' :: '\'' :: rest => spanLongBody '\'' false rest
  | s => spanLine s

end Reflex.Toml
