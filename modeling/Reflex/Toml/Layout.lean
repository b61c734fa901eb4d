import Reflex.Toml.Node

/-! Where tables of a document may be defined. A header names a table once; dotted keys
extend only tables that dotted keys made; a plain value is never extended. -/
namespace Reflex.Toml

/-- What a key holds while a document is being read. A table is implicit until a header
names it, and dotted if dotted keys made it. -/
inductive Item where
  | leaf (n : Node)
  | table (implicit dotted : Bool) (entries : List (String × Item))
  | tables (elements : List (List (String × Item)))

namespace Item

mutual

def toNode : Item → Node
  | leaf n => n
  | table _ _ entries => .table (toEntries entries)
  | tables elements => .array (toElements elements)

def toEntries : List (String × Item) → List (String × Node)
  | [] => []
  | (k, i) :: rest => (k, toNode i) :: toEntries rest

def toElements : List (List (String × Item)) → List Node
  | [] => []
  | entries :: rest => .table (toEntries entries) :: toElements rest

end

end Item

abbrev Entries := Table Item

/-- Changes the last element of a list. -/
def changeLast {α : Type} (change : α → Option α) : List α → Option (List α)
  | [] => none
  | [a] => (change a).map ([·])
  | a :: b :: rest => (changeLast change (b :: rest)).map (a :: ·)

/-- Changes the table at a path, which is told whether it is dotted. Missing tables on the
way are made; dotted paths do not pass through tables that a header named. -/
def changeAt (dotted : Bool) (change : Bool → Entries → Option Entries) :
    List String → Bool → Entries → Option Entries
  | [], here, entries => change here entries
  | key :: path, _, entries =>
    match Table.find? key entries with
    | none => do
      return Table.put key (.table true dotted (← changeAt dotted change path dotted [])) entries
    | some (.leaf _) => none
    | some (.table implicit inner below) =>
      if dotted && !implicit then none
      else do
        let below ← changeAt dotted change path inner below
        return Table.put key (.table implicit inner below) entries
    | some (.tables elements) => do
      return Table.put key
        (.tables (← changeLast (changeAt dotted change path false) elements)) entries

/-- The path before the last key, and the last key. -/
def splitLast : List String → Option (List String × String)
  | [] => none
  | [key] => some ([], key)
  | key :: rest => (splitLast rest).map fun (path, last) => (key :: path, last)

/-- Puts a value under a dotted key of a table, where nothing may be yet. -/
def putValue (path : List String) (n : Node) (entries : Entries) : Option Entries := do
  let (tables, key) ← splitLast path
  let put (dotted : Bool) (entries : Entries) : Option Entries :=
    if dotted == tables.isEmpty || (Table.find? key entries).isSome then none
    else some (Table.put key (.leaf n) entries)
  changeAt true put tables false entries

/-- Opens the table that a header names: a new one, or one so far implicit. -/
def openTable (path : List String) (entries : Entries) : Option Entries := do
  let (tables, key) ← splitLast path
  let name (_ : Bool) (entries : Entries) : Option Entries :=
    match Table.find? key entries with
    | none => some (Table.put key (.table false false []) entries)
    | some (.table true false below) => some (Table.put key (.table false false below) entries)
    | some _ => none
  changeAt false name tables false entries

/-- Opens a new element of the array of tables that a header names. -/
def openElement (path : List String) (entries : Entries) : Option Entries := do
  let (tables, key) ← splitLast path
  let add (_ : Bool) (entries : Entries) : Option Entries :=
    match Table.find? key entries with
    | none => some (Table.put key (.tables [[]]) entries)
    | some (.tables elements) => some (Table.put key (.tables (elements ++ [[]])) entries)
    | some _ => none
  changeAt false add tables false entries

end Reflex.Toml
