/-! Tables from texts in increasing key order, each key at most once. -/
namespace Reflex

abbrev Table (α : Type) := List (String × α)

namespace Table

variable {α : Type}

def find? (key : String) : Table α → Option α
  | [] => none
  | (k, a) :: rest => if k = key then some a else find? key rest

/-- Puts an entry at its place; a key that is there already gets the new content. -/
def put (key : String) (content : α) : Table α → Table α
  | [] => [(key, content)]
  | (k, a) :: rest =>
    if key = k then (key, content) :: rest
    else if key < k then (key, content) :: (k, a) :: rest
    else (k, a) :: put key content rest

def erase (key : String) (t : Table α) : Table α := t.filter fun (k, _) => k != key

def keys (t : Table α) : List String := t.map (·.1)

/-- The table of these entries; of a repeated key the last entry stays. -/
def ofList (entries : List (String × α)) : Table α :=
  entries.foldl (fun t (key, content) => put key content t) []

end Table

end Reflex
