import Reflex.Failure
import Reflex.Value

/-! Names that scenarios can use, in the order in which they were contributed, each with
the factory behind it. -/
namespace Reflex

structure Vocabulary (φ : Type) where
  entries : List (String × φ)

namespace Vocabulary

variable {φ : Type}

def empty : Vocabulary φ := ⟨[]⟩

def names (v : Vocabulary φ) : List String := v.entries.map (·.1)

def get? (v : Vocabulary φ) (name : String) : Option φ := v.entries.lookup name

def size (v : Vocabulary φ) : Nat := v.entries.length

def isEmpty (v : Vocabulary φ) : Bool := v.entries.isEmpty

def replace (name : String) (factory : φ) : List (String × φ) → List (String × φ)
  | [] => [(name, factory)]
  | (n, f) :: rest => if n = name then (n, factory) :: rest else (n, f) :: replace name factory rest

/-- Adds a name at the end; a name that is there keeps its place and gets the new factory. -/
def insert (v : Vocabulary φ) (name : String) (factory : φ) : Vocabulary φ :=
  ⟨replace name factory v.entries⟩

def ofList (entries : List (String × φ)) : Vocabulary φ :=
  entries.foldl (fun v (name, factory) => v.insert name factory) empty

/-- Appends another vocabulary unless they share a name; the first shared name is reported. -/
def merge (kind : VocabularyKind) (v other : Vocabulary φ) : Except Invalid (Vocabulary φ) :=
  match other.names.find? (v.names.contains ·) with
  | some name => .error (.collision kind name)
  | none => .ok ⟨v.entries ++ other.entries⟩

/-- Merges contributions from the left. -/
def mergeAll (kind : VocabularyKind) (v : Vocabulary φ) :
    List (Vocabulary φ) → Except Invalid (Vocabulary φ)
  | [] => .ok v
  | other :: rest => do mergeAll kind (← merge kind v other) rest

/-- Adds the entries of another vocabulary to the present one, one after the other. When a name
is there already, it is reported before any is added. -/
def receive (kind : VocabularyKind) (other : Vocabulary φ) :
    ExceptT Invalid (StateM (Vocabulary φ)) Unit := do
  let v ← get
  match other.names.find? (v.names.contains ·) with
  | some name => throw (.collision kind name)
  | none => set (other.entries.foldl (fun v (name, factory) => v.insert name factory) v)

/-- Receives vocabularies in order, up to the first that is refused. -/
def receiveAll (kind : VocabularyKind) :
    List (Vocabulary φ) → ExceptT Invalid (StateM (Vocabulary φ)) Unit
  | [] => pure ()
  | other :: rest => do
    receive kind other
    receiveAll kind rest

/-- The factory behind a name, or the failure that names it. -/
def resolve (kind : VocabularyKind) (v : Vocabulary φ) (name : String) : Except Invalid φ :=
  match v.get? name with
  | some factory => .ok factory
  | none => .error (.unknown kind name)

end Vocabulary

/-- The text argument at a place. -/
def textArgument (name : String) (arguments : List Value) (index : Nat) : Except Invalid String :=
  match arguments[index]? with
  | some (.text s) => .ok s
  | _ => .error (.arguments name "expected a string argument")

/-- The argument at a place, null when it is missing. -/
def valueArgument (arguments : List Value) (index : Nat) : Value := arguments[index]?.getD .null

end Reflex
