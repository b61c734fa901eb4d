import Reflex.Toml.Layout
import Reflex.Toml.Quoted
import Reflex.Toml.Scalar

/-! Reading TOML documents. Arrays and inline tables nest to a fixed depth. -/
namespace Reflex.Toml

/-- Levels of nesting, and parts of a key, stay below this. -/
def levelLimit : Nat := 80

def isBare (c : Char) : Bool := c.isAlphanum || c == '_' || c == '-'

/-- One part of a key. -/
def spanKeyPart (s : List Char) : Option (String × List Char) :=
  match s with
  | '"' :: _ => (spanLine s).map fun (key, rest) => (String.ofList key, rest)
  | '\'' :: _ => (spanLine s).map fun (key, rest) => (String.ofList key, rest)
  | s =>
    let key := s.takeWhile isBare
    if key.isEmpty then none else some (String.ofList key, s.drop key.length)

/-- A key of parts with points between them. -/
def spanKeyParts : Nat → List Char → Option (List String × List Char)
  | 0, _ => none
  | fuel + 1, s => do
    let (part, rest) ← spanKeyPart (skipSpace s)
    match skipSpace rest with
    | '.' :: rest => return (← spanKeyParts fuel rest).map (part :: ·) id
    | rest => return ([part], rest)

def spanKey (s : List Char) : Option (List String × List Char) := do
  let (path, rest) ← spanKeyParts (s.length + 1) s
  guard (path.length < levelLimit)
  return (path, rest)

/-- The rest after a comment, if one begins here. -/
def skipComment : List Char → List Char
  | '#' :: rest => rest.dropWhile isPlain
  | s => s

/-- White space, comments and line ends inside arrays. -/
def skipGaps : Nat → List Char → List Char
  | 0, s => s
  | fuel + 1, s =>
    let s := skipComment (skipSpace s)
    match afterNewline s with
    | some rest => skipGaps fuel rest
    | none => s

mutual

/-- A value from the front. -/
def spanNode : Nat → Nat → List Char → Option (Node × List Char)
  | 0, _, _ => none
  | fuel + 1, level, s =>
    match s with
    | '"' :: _ => (spanQuoted s).map fun (text, rest) => (.text (String.ofList text), rest)
    | '\'' :: _ => (spanQuoted s).map fun (text, rest) => (.text (String.ofList text), rest)
    | '[' :: rest =>
      if level + 1 < levelLimit then
        (spanItems fuel (level + 1) rest).map fun (items, rest) => (.array items, rest)
      else none
    | '{' :: rest =>
      if level + 1 < levelLimit then
        match skipSpace rest with
        | '}' :: rest => some (.table [], rest)
        | rest => (spanEntries fuel (level + 1) [] rest).map fun (entries, rest) =>
          (.table (Item.toEntries entries), rest)
      else none
    | 't' :: 'r' :: 'u' :: 'e' :: rest => some (.boolean true, rest)
    | 'f' :: 'a' :: 'l' :: 's' :: 'e' :: rest => some (.boolean false, rest)
    | s => spanScalar s

/-- The items of an array up to its bracket; a comma may follow the last one. -/
def spanItems : Nat → Nat → List Char → Option (List Node × List Char)
  | 0, _, _ => none
  | fuel + 1, level, s =>
    match skipGaps s.length s with
    | ']' :: rest => some ([], rest)
    | s => do
      let (n, rest) ← spanNode fuel level s
      match skipGaps rest.length rest with
      | ',' :: rest => return (← spanItems fuel level rest).map (n :: ·) id
      | ']' :: rest => return ([n], rest)
      | _ => none

/-- The entries of an inline table up to its brace; no comma follows the last one. -/
def spanEntries : Nat → Nat → Entries → List Char → Option (Entries × List Char)
  | 0, _, _, _ => none
  | fuel + 1, level, entries, s => do
    let (path, rest) ← spanKey s
    let rest ← expect '=' rest
    let (n, rest) ← spanNode fuel level (skipSpace rest)
    let entries ← putValue path n entries
    match skipSpace rest with
    | ',' :: rest => spanEntries fuel level entries rest
    | '}' :: rest => return (entries, rest)
    | _ => none

end

/-- The rest after a line: white space, perhaps a comment, and the end of the line or of
the document. -/
def endLine (s : List Char) : Option (List Char) :=
  match skipComment (skipSpace s) with
  | [] => some []
  | s => afterNewline s

/-- A document so far: its root, and the table that a header opened last. -/
structure Document where
  root : Entries
  current : List String

/-- Puts a value under a key of the current table. -/
def Document.put (d : Document) (path : List String) (n : Node) : Option Document := do
  let root ← changeAt false (fun _ entries => putValue path n entries) d.current false d.root
  return { d with root }

def Document.openTable (d : Document) (path : List String) : Option Document := do
  return ⟨← Toml.openTable path d.root, path⟩

def Document.openElement (d : Document) (path : List String) : Option Document := do
  return ⟨← Toml.openElement path d.root, path⟩

/-- Reads one line of the document: a header, a key with its value, or nothing. -/
def readLine (d : Document) (s : List Char) : Option (Document × List Char) :=
  match skipSpace s with
  | '[' :: '[' :: rest => do
    let (path, rest) ← spanKey rest
    let rest ← expect ']' rest
    let rest ← expect ']' rest
    return (← d.openElement path, ← endLine rest)
  | '[' :: rest => do
    let (path, rest) ← spanKey rest
    let rest ← expect ']' rest
    return (← d.openTable path, ← endLine rest)
  | [] => some (d, [])
  | '#' :: rest => do return (d, ← endLine ('#' :: rest))
  | '\n' :: rest => some (d, rest)
  | '\r' :: '\n' :: rest => some (d, rest)
  | s => do
    let (path, rest) ← spanKey s
    let rest ← expect '=' rest
    let (n, rest) ← spanNode (rest.length + 1) 0 (skipSpace rest)
    return (← d.put path n, ← endLine rest)

def readLines : Nat → Document → List Char → Option Document
  | _, d, [] => some d
  | 0, _, _ :: _ => none
  | fuel + 1, d, s => do
    let (d, rest) ← readLine d s
    readLines fuel d rest

/-- The table that a document describes; a byte order mark at its start is ignored. -/
def read (text : String) : Option (List (String × Node)) :=
  let s := match text.toList with
    | '\uFEFF' :: rest => rest
    | s => s
  (readLines (s.length + 1) ⟨[], []⟩ s).map fun d => Item.toEntries d.root

end Reflex.Toml
