import Reflex.Json.Number

/-! Reading values from JSON text. Of a repeated key the last member stays. -/
namespace Reflex.Json

def isSpace (c : Char) : Bool := c == ' ' || c == '\t' || c == '\n' || c == '\r'

def skipSpace (s : List Char) : List Char := s.dropWhile isSpace

/-- Four hexadecimal digits from the front. -/
def spanHex (s : List Char) : Option (Nat × List Char) :=
  if (s.take 4).length = 4 then (Text.hexNumeralFrom 0 (s.take 4)).map (·, s.drop 4) else none

/-- The character of a `u` escape; two escapes for a surrogate pair. -/
def spanEscapedChar (s : List Char) : Option (Char × List Char) := do
  let (high, rest) ← spanHex s
  if 0xD800 ≤ high ∧ high < 0xDC00 then
    match rest with
    | '\\' :: 'u' :: rest =>
      let (low, rest) ← spanHex rest
      guard (0xDC00 ≤ low && low < 0xE000)
      return (← Text.scalar (0x10000 + (high - 0xD800) * 0x400 + (low - 0xDC00)), rest)
    | _ => none
  else return (← Text.scalar high, rest)

/-- The text up to the closing quote, and what follows the quote. -/
def spanText : Nat → List Char → Option (List Char × List Char)
  | 0, _ => none
  | fuel + 1, s =>
    match s with
    | [] => none
    | '"' :: rest => some ([], rest)
    | '\\' :: 'u' :: rest => do
      let (c, rest) ← spanEscapedChar rest
      let (text, rest) ← spanText fuel rest
      return (c :: text, rest)
    | '\\' :: c :: rest => do
      let c ← match c with
        | '"' => some '"'
        | '\\' => some '\\'
        | '/' => some '/'
        | 'b' => some '\x08'
        | 'f' => some '\x0c'
        | 'n' => some '\n'
        | 'r' => some '\r'
        | 't' => some '\t'
        | _ => none
      let (text, rest) ← spanText fuel rest
      return (c :: text, rest)
    | c :: rest =>
      if c.toNat < 0x20 then none
      else do
        let (text, rest) ← spanText fuel rest
        return (c :: text, rest)

/-- The rest after a fixed word. -/
def afterWord : List Char → List Char → Option (List Char)
  | [], s => some s
  | w :: word, c :: s => if w = c then afterWord word s else none
  | _ :: _, [] => none

mutual

/-- A value from the front; the fuel bounds the characters read. -/
def spanValue : Nat → List Char → Option (Value × List Char)
  | 0, _ => none
  | fuel + 1, s =>
    match skipSpace s with
    | 'n' :: rest => (afterWord ['u', 'l', 'l'] rest).map (Value.null, ·)
    | 't' :: rest => (afterWord ['r', 'u', 'e'] rest).map (Value.bool true, ·)
    | 'f' :: rest => (afterWord ['a', 'l', 's', 'e'] rest).map (Value.bool false, ·)
    | '"' :: rest => (spanText fuel rest).map fun (text, rest) => (.text (String.ofList text), rest)
    | '[' :: rest =>
      match skipSpace rest with
      | ']' :: rest => some (.array [], rest)
      | rest => (spanItems fuel rest).map fun (items, rest) => (.array items, rest)
    | '{' :: rest =>
      match skipSpace rest with
      | '}' :: rest => some (.object [], rest)
      | rest => (spanMembers fuel rest).map fun (members, rest) => (.ofMembers members, rest)
    | rest => spanNumber rest

def spanItems : Nat → List Char → Option (List Value × List Char)
  | 0, _ => none
  | fuel + 1, s => do
    let (v, rest) ← spanValue fuel s
    match skipSpace rest with
    | ',' :: rest => return (← spanItems fuel rest).map (v :: ·) id
    | ']' :: rest => return ([v], rest)
    | _ => none

def spanMembers : Nat → List Char → Option (List (String × Value) × List Char)
  | 0, _ => none
  | fuel + 1, s =>
    match skipSpace s with
    | '"' :: rest => do
      let (key, rest) ← spanText fuel rest
      match skipSpace rest with
      | ':' :: rest =>
        let (v, rest) ← spanValue fuel rest
        let member := (String.ofList key, v)
        match skipSpace rest with
        | ',' :: rest => return (← spanMembers fuel rest).map (member :: ·) id
        | '}' :: rest => return ([member], rest)
        | _ => none
      | _ => none
    | _ => none

end

/-- The value of a whole JSON text. -/
def read (text : String) : Option Value :=
  let s := text.toList
  match spanValue (s.length + 1) s with
  | some (v, rest) => if (skipSpace rest).isEmpty then some v else none
  | none => none

end Reflex.Json
