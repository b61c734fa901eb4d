import Reflex.Config
import Reflex.Toml.Reader

/-! Reading the configuration from a TOML document. A record may also be written as an
array of its fields in order, of which those with a default may be left out at the end.
Scenarios, calls, branches and assignments have no other keys than their own. -/
namespace Reflex.Config

open Toml

/-- The fields of a record as written: by name, or by place. -/
inductive Fields where
  | named (entries : List (String × Node))
  | placed (items : List Node)

def fieldsOf? : Node → Option Fields
  | .array items => some (.placed items)
  | n => n.entries?.map .named

namespace Fields

/-- What is written for the field with a name and a place. -/
def find? (f : Fields) (name : String) (place : Nat) : Option Node :=
  match f with
  | named entries => entries.lookup name
  | placed items => items[place]?

/-- Whether all names are among the given ones. -/
def only (f : Fields) (names : List String) : Bool :=
  match f with
  | named entries => entries.all fun (k, _) => names.contains k
  | placed _ => true

variable {α : Type}

def required (f : Fields) (name : String) (place : Nat) (read : Node → Option α) : Option α :=
  (f.find? name place).bind read

def withDefault (f : Fields) (name : String) (place : Nat) (default : α)
    (read : Node → Option α) : Option α :=
  match f.find? name place with
  | some n => read n
  | none => some default

/-- A field that may be missing by name but not by place. -/
def optional (f : Fields) (name : String) (place : Nat) (read : Node → Option α) :
    Option (Option α) :=
  match f.find? name place, f with
  | some n, _ => (read n).map some
  | none, named _ => some none
  | none, placed _ => none

end Fields

def textOf? : Node → Option String
  | .text s => some s
  | _ => none

/-- A number from zero below a bound. -/
def boundedOf? (bound : Nat) : Node → Option Nat
  | .integer n => if 0 ≤ n ∧ n < bound then some n.toNat else none
  | _ => none

def listOf? {α : Type} (read : Node → Option α) : Node → Option (List α)
  | .array items => items.mapM read
  | _ => none

def callOf? (n : Node) : Option NamedCall := do
  let f ← fieldsOf? n
  guard (f.only ["name", "args"])
  return ⟨← f.required "name" 0 textOf?,
    ← f.withDefault "args" 1 [] (listOf? fun n => some n.toValue)⟩

def assignmentOf? (n : Node) : Option Assignment := do
  let f ← fieldsOf? n
  guard (f.only ["name", "value", "ttl"])
  return ⟨← f.required "name" 0 textOf?, ← f.withDefault "value" 1 .null (some ·.toValue),
    ← f.optional "ttl" 2 textOf?⟩

def branchOf? (n : Node) : Option Branch := do
  let f ← fieldsOf? n
  guard (f.only ["constraints", "emit", "set", "log"])
  return ⟨← f.optional "constraints" 0 (listOf? callOf?), ← f.optional "emit" 1 textOf?,
    ← f.optional "set" 2 assignmentOf?, ← f.optional "log" 3 textOf?⟩

def declarationOf? (n : Node) : Option Declaration := do
  let f ← fieldsOf? n
  guard (f.only ["description", "options", "triggers", "branch"])
  return ⟨← f.required "description" 0 textOf?, ← f.withDefault "options" 1 .null (some ·.toValue),
    ← f.withDefault "triggers" 2 [] (listOf? callOf?),
    ← f.withDefault "branch" 3 [] (listOf? branchOf?)⟩

/-- Ticking settings: the tick and the catch-up limit. -/
def schedulerOf? (n : Node) : Option (Nat × Nat) := do
  let f ← fieldsOf? n
  return (← f.withDefault "tick_ms" 0 default.tickMillis (boundedOf? Word.size64),
    ← f.withDefault "max_catch_up_secs" 1 default.maxCatchUp (boundedOf? Word.size32))

def loggingOf? (n : Node) : Option String := do
  let f ← fieldsOf? n
  f.withDefault "filter" 0 default.filter textOf?

def variablesOf? (n : Node) : Option (Table Value) :=
  n.entries?.map fun entries => Table.ofList (Node.toMembers entries)

/-- The configuration in a document; unknown settings are ignored. -/
def ofEntries? (entries : List (String × Node)) : Option Config := do
  let f := Fields.named entries
  let (tickMillis, maxCatchUp) ← f.withDefault "scheduler" 0
    (default.tickMillis, default.maxCatchUp) schedulerOf?
  return {
    tickMillis
    maxCatchUp
    filter := ← f.withDefault "logging" 1 default.filter loggingOf?
    presets := ← f.withDefault "variables" 2 [] variablesOf?
    devices := ← f.withDefault "devices" 3 [] (listOf? textOf?)
    scenarios := ← f.withDefault "scenario" 4 [] (listOf? declarationOf?) }

/-- What a configuration file turns out to be. -/
inductive Source where
  | missing
  | unreadable
  | text (content : String)

/-- A missing file stands for the default configuration. -/
def ofSource : Source → Except Problem Config
  | .missing => .ok default
  | .unreadable => .error .unreadable
  | .text content =>
    match (Toml.read content).bind ofEntries? with
    | some c => .ok c
    | none => .error .unparsable

/-- Reads a file, applies the environment and validates the result. -/
def load (source : Source) (e : Environment) : Except Problem Config := do
  let c := (← ofSource source).override e
  validate c
  return c

end Reflex.Config
