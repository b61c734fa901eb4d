import Reflex.Failure
import Reflex.Pattern
import Reflex.Pattern.Charset
import Reflex.Word

/-! Reading patterns. The syntax has classes with nested sets and set operations,
counted repetition, groups with flags, and borders; there is no look-around and there
are no references to groups. Reading is by fuel, one unit for each level of descent
and each item, so the length of the pattern bounds it. -/
namespace Reflex.Pattern

structure Flags where
  caseless : Bool
  multiline : Bool
  dotAll : Bool
  unicode : Bool
  crlf : Bool
  extended : Bool

structure ReaderState where
  rest : List Char
  flags : Flags
  names : List String

abbrev Reader := StateT ReaderState Option

/-- A part of a pattern. `nested` counts its levels and `room` its size once repetitions are
written out; a part of no width matches the empty text only. -/
structure Part where
  pattern : Pattern
  room : Nat
  nested : Nat
  noWidth : Bool
  isFlags : Bool

namespace Reader

def peek : Reader (Option Char) := return (← get).rest.head?

def advance (n : Nat) : Reader Unit := modify fun s => { s with rest := s.rest.drop n }

def flags : Reader Flags := return (← get).flags

def setFlags (f : Flags) : Reader Unit := modify fun s => { s with flags := f }

/-- White space and comments up to the end of the line. -/
def skipExtended : Nat → List Char → List Char
  | 0, s => s
  | fuel + 1, s =>
    match s.dropWhile Text.isBlank with
    | '#' :: rest => skipExtended fuel (rest.dropWhile (· != '\n'))
    | rest => rest

def skipSpace : Reader Unit := modify fun s =>
  if s.flags.extended then { s with rest := skipExtended s.rest.length s.rest } else s

/-- Consumes a fixed text if it comes next. -/
def accept (word : String) : Reader Bool := do
  let s ← get
  if word.toList.isPrefixOf s.rest then
    advance word.length
    return true
  else return false

def expect (word : String) : Reader Unit := do
  guard (← accept word)

def next : Reader Char := do
  match (← get).rest with
  | c :: rest =>
    modify fun s => { s with rest }
    return c
  | [] => failure

end Reader

open Reader

def borderPart (holds : Option Char → Option Char → Bool) : Part :=
  ⟨.border holds, 32, 0, true, false⟩

def setPart (set : Charset) (nested : Nat) : Part :=
  ⟨.char set.accepts, set.room, nested, false, false⟩

def isWordAt (word : Char → Bool) (c : Option Char) : Bool := c.any word

/-- The borders that depend on word characters, by name. -/
def wordBorder? (word : Char → Bool) (name : String) : Option (Option Char → Option Char → Bool) :=
  match name with
  | "" => some fun a b => isWordAt word a != isWordAt word b
  | "not" => some fun a b => isWordAt word a == isWordAt word b
  | "start" => some fun a b => !isWordAt word a && isWordAt word b
  | "end" => some fun a b => isWordAt word a && !isWordAt word b
  | "start-half" => some fun a _ => !isWordAt word a
  | "end-half" => some fun _ b => !isWordAt word b
  | _ => none

def lineStart (f : Flags) : Option Char → Option Char → Bool := fun before after =>
  before.isNone || (f.multiline && (before == some '\n' ||
    (f.crlf && before == some '\r' && after != some '\n')))

def lineEnd (f : Flags) : Option Char → Option Char → Bool := fun before after =>
  after.isNone || (f.multiline &&
    if f.crlf then after == some '\r' || (after == some '\n' && before != some '\r')
    else after == some '\n')

/-- What a point stands for. -/
def dot (f : Flags) : Charset :=
  if f.dotAll then Charset.any
  else ⟨fun c => c != '\n' && !(f.crlf && c == '\r'), 400⟩

def literal (f : Flags) (c : Char) : Charset :=
  let set := Charset.single c
  if f.caseless then set.caseless else set

inductive Escape where
  | literal (c : Char)
  | set (s : Charset)
  | border (holds : Option Char → Option Char → Bool)

/-- A code point in hexadecimal: a fixed number of digits, or any number between braces. -/
def hexEscape (digits : Nat) : Reader Escape := do
  let s ← get
  match s.rest with
  | '{' :: rest =>
    let body := rest.takeWhile (· != '\x7d')
    guard (!body.isEmpty && body.length < rest.length)
    advance (body.length + 2)
    return .literal (← Text.scalar (← Text.hexNumeralFrom 0 body))
  | rest =>
    let body := rest.take digits
    guard (body.length == digits)
    advance digits
    return .literal (← Text.scalar (← Text.hexNumeralFrom 0 body))

def isBorderLetter (c : Char) : Bool := c.isAlpha || c == '-'

/-- The letters of a border's name and the rest. -/
def spanBorderName (skip : List Char → List Char) : Nat → List Char → List Char × List Char
  | 0, s => ([], s)
  | fuel + 1, s =>
    match skip s with
    | c :: rest =>
      if isBorderLetter c then
        let (name, rest) := spanBorderName skip fuel rest
        (c :: name, rest)
      else ([], c :: rest)
    | [] => ([], [])

/-- The name in braces after a word border; braces that begin otherwise hold a count. -/
def borderName : Reader String := do
  let s ← get
  match s.rest with
  | '{' :: rest =>
    let skip (s' : List Char) : List Char :=
      if s.flags.extended then skipExtended s'.length s' else s'
    let (name, rest) := spanBorderName skip (rest.length + 1) rest
    if name.isEmpty then return ""
    else
      guard (name != ['n', 'o', 't'])
      modify fun s => { s with rest }
      expect "\x7d"
      return String.ofList name
  | _ => return ""

/-- Whether a backslash before the character keeps it as it is: any ASCII character but
letters, digits and angle brackets. -/
def isEscapable (c : Char) : Bool :=
  c.toNat < 0x80 && !c.isAlphanum && c != '<' && c != '>'

def perlClass (f : Flags) (set ascii : Charset) (negated : Bool) : Reader Escape := do
  guard (f.unicode || !negated)
  let chosen := if f.unicode then set else ascii
  return .set (if negated then chosen.complement else chosen)

/-- The meaning of what follows a backslash. -/
def escape : Reader Escape := do
  let f ← flags
  let word := if f.unicode then Text.isWordCharacter else Charset.asciiWord.accepts
  match ← next with
  | 'x' => hexEscape 2
  | 'u' => hexEscape 4
  | 'U' => hexEscape 8
  | 'd' => perlClass f .digit .asciiDigit false
  | 'D' => perlClass f .digit .asciiDigit true
  | 's' => perlClass f .blank .asciiBlank false
  | 'S' => perlClass f .blank .asciiBlank true
  | 'w' => perlClass f .word .asciiWord false
  | 'W' => perlClass f .word .asciiWord true
  | 'a' => return .literal '\x07'
  | 'f' => return .literal '\x0c'
  | 't' => return .literal '\t'
  | 'n' => return .literal '\n'
  | 'r' => return .literal '\r'
  | 'v' => return .literal '\x0b'
  | 'A' => return .border fun before _ => before.isNone
  | 'z' => return .border fun _ after => after.isNone
  | 'b' => return .border (← wordBorder? word (← borderName))
  | 'B' => return .border (← wordBorder? word "not")
  | '<' => return .border (← wordBorder? word "start")
  | '>' => return .border (← wordBorder? word "end")
  | c => if isEscapable c then return .literal c else failure

/-- A named set such as `[:alpha:]`, read after its opening bracket. Case is ignored before
the set is complemented. -/
def namedSet? (f : Flags) (s : List Char) : Option (Charset × List Char) := do
  let s ← match s with
    | ':' :: rest => some rest
    | _ => none
  let (negated, s) := match s with
    | '^' :: rest => (true, rest)
    | s => (false, s)
  let name := s.takeWhile (· != ':')
  let set ← Charset.named? (String.ofList name)
  let set := if f.caseless then set.caseless else set
  match s.drop name.length with
  | ':' :: ']' :: rest => some (if negated then set.complement else set, rest)
  | _ => none

inductive SetOp where
  | inter
  | without
  | differ

/-- Joins the operand before an operation with the one after it. -/
def SetOp.join (f : Flags) : Option (SetOp × Charset) → Charset → Charset
  | none, right => right
  | some (op, left), right =>
    let (left, right) := if f.caseless then (left.caseless, right.caseless) else (left, right)
    match op with
    | inter => left.inter right
    | without => left.without right
    | differ => left.differ right

/-- One member of a set: a character, or a set named by an escape. -/
def member : Reader (Char ⊕ Charset) := do
  match ← next with
  | '\\' =>
    match ← escape with
    | .literal c => return .inl c
    | .set s => return .inr s
    | .border _ => failure
  | c => return .inl c

/-- A member or a range between two characters. -/
def memberRange : Reader Charset := do
  let first ← member
  skipSpace
  let s ← get
  guard (!s.rest.isEmpty)
  let single : Charset := match first with
    | .inl c => .single c
    | .inr set => set
  match s.rest with
  | '-' :: rest =>
    let after := if s.flags.extended then skipExtended rest.length rest else rest
    if after.head? == some ']' || after.head? == some '-' then return single
    else
      modify fun s => { s with rest := after }
      match first, ← member with
      | .inl low, .inl high =>
        guard (low ≤ high)
        return .range low high
      | _, _ => failure
  | _ => return single

/-- A set being read: the operand before a pending operation, the union so far, the number
of its members and their levels. -/
structure SetState where
  pending : Option (SetOp × Charset)
  union : Charset
  members : Nat
  nested : Nat

def SetState.add (st : SetState) (set : Charset) (nested : Nat) : SetState :=
  { st with union := st.union.union set, members := st.members + 1, nested := max st.nested nested }

def SetState.operate (st : SetState) (f : Flags) (op : SetOp) : SetState :=
  { st with pending := some (op, SetOp.join f st.pending st.union), union := .none, members := 0,
            nested := st.nested + 1 }

def openDashes : Nat → SetState → Reader SetState
  | 0, st => return st
  | fuel + 1, st => do
    skipSpace
    if ← accept "-" then openDashes fuel (st.add (.single '-') 0) else return st

mutual

/-- A bracketed set, read after its opening bracket, with its levels. -/
def bracket : Nat → Reader (Charset × Nat)
  | 0 => failure
  | fuel + 1 => do
    skipSpace
    let negated ← accept "^"
    let f ← flags
    guard (f.unicode || !negated)
    let st ← openDashes (← get).rest.length ⟨none, .none, 0, 0⟩
    let st ← if st.members == 0 then (do
        if ← accept "]" then return st.add (.single ']') 0 else return st)
      else pure st
    let (set, nested) ← bracketRest fuel st
    let set := if f.caseless then set.caseless else set
    return (if negated then set.complement else set, nested + 1)

/-- The members up to the closing bracket. -/
def bracketRest : Nat → SetState → Reader (Charset × Nat)
  | 0, _ => failure
  | fuel + 1, st => do
    skipSpace
    let s ← get
    match s.rest with
    | [] => failure
    | ']' :: _ => do
      advance 1
      return (SetOp.join s.flags st.pending st.union, st.nested + if st.members < 2 then 0 else 1)
    | '[' :: rest =>
      match namedSet? s.flags rest with
      | some (set, rest) => do
        modify fun s => { s with rest }
        bracketRest fuel (st.add set 0)
      | none => do
        advance 1
        let (set, nested) ← bracket fuel
        bracketRest fuel (st.add set nested)
    | '&' :: '&' :: _ => do
      advance 2
      bracketRest fuel (st.operate s.flags .inter)
    | '-' :: '-' :: _ => do
      advance 2
      bracketRest fuel (st.operate s.flags .without)
    | '~' :: '~' :: _ => do
      advance 2
      bracketRest fuel (st.operate s.flags .differ)
    | _ => do bracketRest fuel (st.add (← memberRange) 0)

end

/-- A decimal count between blanks, below 2^32. -/
def count? : Reader (Option Nat) := do
  let s ← get
  let body := s.rest.dropWhile Text.isBlank
  let digits := body.takeWhile Char.isDigit
  modify fun s => { s with rest := (body.drop digits.length).dropWhile Text.isBlank }
  match Text.numeral digits with
  | none => return none
  | some n => do
    guard (n < Word.size32)
    return some n

/-- The bounds of a counted repetition, read after its opening brace. -/
def bounds : Reader (Nat × Option Nat) := do
  skipSpace
  let least ← count?
  let least ← (least : Option Nat)
  if ← accept "," then
    skipSpace
    if ← accept "\x7d" then return (least, none)
    else
      let most ← count?
      let most ← (most : Option Nat)
      expect "\x7d"
      guard (least ≤ most)
      return (least, some most)
  else
    expect "\x7d"
    return (least, some least)

/-- Repeats a part. Flags alone cannot be repeated. -/
def repeatPart (p : Part) (least : Nat) (most : Option Nat) : Reader Part := do
  guard (!p.isFlags)
  discard <| accept "?"
  let (least, most) :=
    if p.noWidth then (min least 1, some (min (most.getD 1) 1)) else (least, most)
  return ⟨.repeated p.pattern least most, p.room * max 1 (most.getD least) + 64, p.nested + 1,
    p.noWidth, false⟩

/-- Changes to flags up to a colon or a closing parenthesis; each letter at most once. -/
def readFlags : Nat → Bool → List Char → Flags → Reader Flags
  | 0, _, _, _ => failure
  | fuel + 1, negated, seen, f => do
    match ← peek with
    | some ':' => do
      guard (seen.head? != some '-')
      return f
    | some ')' => do
      guard (!seen.isEmpty && seen.head? != some '-')
      return f
    | some c => do
      guard (!seen.contains c)
      advance 1
      let on := !negated
      match c with
      | '-' => readFlags fuel true (c :: seen) f
      | 'i' => readFlags fuel negated (c :: seen) { f with caseless := on }
      | 'm' => readFlags fuel negated (c :: seen) { f with multiline := on }
      | 's' => readFlags fuel negated (c :: seen) { f with dotAll := on }
      | 'u' => readFlags fuel negated (c :: seen) { f with unicode := on }
      | 'R' => readFlags fuel negated (c :: seen) { f with crlf := on }
      | 'x' => readFlags fuel negated (c :: seen) { f with extended := on }
      | 'U' => readFlags fuel negated (c :: seen) f
      | _ => failure
    | none => failure

/-- A group's name, each used once. -/
def groupName : Reader Unit := do
  let s ← get
  let name := s.rest.takeWhile (· != '>')
  let isInner (c : Char) : Bool :=
    c == '_' || c == '.' || c == '[' || c == ']' || Text.isWordCharacter c
  guard (name.all isInner)
  guard (name.head?.any fun c =>
    c == '_' || (Text.isWordCharacter c && !Text.isDecimalDigit c))
  guard (!s.names.contains (String.ofList name))
  modify fun s => { s with rest := s.rest.drop name.length, names := String.ofList name :: s.names }
  expect ">"

def sequence : List Part → Part
  | [] => ⟨.empty, 0, 0, true, false⟩
  | [p] => p
  | parts =>
    ⟨parts.foldr (fun p q => .seq p.pattern q) .empty, parts.foldl (fun n q => n + q.room) 0,
      1 + (parts.map (·.nested)).foldl max 0, parts.all (·.noWidth), false⟩

def alternatives : List Part → Part
  | [] => ⟨.empty, 0, 0, true, false⟩
  | [p] => p
  | p :: rest =>
    ⟨rest.foldl (fun acc q => .alt acc q.pattern) p.pattern,
      rest.foldl (fun n q => n + q.room) (p.room + 64),
      1 + ((p :: rest).map (·.nested)).foldl max 0, (p :: rest).all (·.noWidth), false⟩

mutual

/-- Alternatives up to the end of the pattern or of the group; earlier ones are in `before`,
latest first. -/
def alternation : Nat → List Part → Reader Part
  | 0, _ => failure
  | fuel + 1, before => do
    let branch := sequence (← items fuel []).reverse
    if ← accept "|" then alternation fuel (branch :: before)
    else return alternatives (branch :: before).reverse

/-- The items of one alternative, latest first. -/
def items : Nat → List Part → Reader (List Part)
  | 0, _ => failure
  | fuel + 1, before => do
    skipSpace
    let f ← flags
    match ← peek with
    | none => return before
    | some '|' => return before
    | some ')' => return before
    | some '(' => do
      advance 1
      items fuel ((← group fuel) :: before)
    | some '[' => do
      advance 1
      let (set, nested) ← bracket fuel
      items fuel (setPart set nested :: before)
    | some '?' => do items fuel (← repeatLast before 0 (some 1))
    | some '*' => do items fuel (← repeatLast before 0 none)
    | some '+' => do items fuel (← repeatLast before 1 none)
    | some '{' => do
      guard (!before.isEmpty)
      advance 1
      let (least, most) ← bounds
      skipSpace
      match before with
      | [] => failure
      | p :: before => do items fuel ((← repeatPart p least most) :: before)
    | some '.' => do
      advance 1
      guard f.unicode
      items fuel (setPart (dot f) 0 :: before)
    | some '^' => do
      advance 1
      items fuel (borderPart (lineStart f) :: before)
    | some '$' => do
      advance 1
      items fuel (borderPart (lineEnd f) :: before)
    | some '\\' => do
      advance 1
      match ← escape with
      | .literal c => items fuel (setPart (literal f c) 0 :: before)
      | .set s => items fuel (setPart s 0 :: before)
      | .border holds => items fuel (borderPart holds :: before)
    | some c => do
      advance 1
      items fuel (setPart (literal f c) 0 :: before)

/-- A group, read after its opening parenthesis. Flags set inside end with the group. -/
def group : Nat → Reader Part
  | 0 => failure
  | fuel + 1 => do
    skipSpace
    let outer ← flags
    let plain : Reader Part := do
      let body ← alternation fuel []
      expect ")"
      setFlags outer
      return { body with nested := body.nested + 1, isFlags := false }
    for word in ["?=", "?!", "?<=", "?<!"] do
      guard (!word.toList.isPrefixOf (← get).rest)
    if ← accept "?P<" then
      groupName
      plain
    else if ← accept "?<" then
      groupName
      plain
    else if ← accept "?" then
      let inner ← readFlags fuel false [] outer
      setFlags inner
      if ← accept ":" then plain
      else
        expect ")"
        return ⟨.empty, 0, 0, true, true⟩
    else plain

/-- Repeats the latest item by the one-character operator that comes next. -/
def repeatLast (before : List Part) (least : Nat) (most : Option Nat) : Reader (List Part) := do
  advance 1
  match before with
  | [] => failure
  | p :: before => return (← repeatPart p least most) :: before

end

/-- The greatest size of a pattern with its repetitions written out. -/
def roomLimit : Nat := 10485760

/-- The greatest number of levels. -/
def nestedLimit : Nat := 250

def noFlags : Flags := ⟨false, false, false, true, false, false⟩

def parse (text : String) : Except Invalid Pattern :=
  let chars := text.toList
  match (alternation (2 * chars.length + 4) []).run ⟨chars, noFlags, []⟩ with
  | some (part, s) =>
    if s.rest.isEmpty ∧ part.room ≤ roomLimit ∧ part.nested ≤ nestedLimit then .ok part.pattern
    else .error .pattern
  | none => .error .pattern

end Reflex.Pattern
