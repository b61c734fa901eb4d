import Reflex.Options
import Reflex.Text.Quoted
import Reflex.Word

/-! The daemon's configuration, its limits, and what the environment changes in it. -/
namespace Reflex

/-- A vocabulary name with arguments. -/
structure NamedCall where
  name : String
  arguments : List Value

/-- A variable to write, for a time if it has one. -/
structure Assignment where
  name : String
  value : Value
  ttl : Option String

structure Branch where
  constraints : Option (List NamedCall)
  emit : Option String
  set : Option Assignment
  log : Option String

/-- Whether the branch does anything. -/
def Branch.hasAction (b : Branch) : Bool := b.emit.isSome || b.set.isSome || b.log.isSome

structure Declaration where
  description : String
  options : Value
  triggers : List NamedCall
  branches : List Branch

structure Config where
  tickMillis : Nat
  maxCatchUp : Nat
  filter : String
  presets : Table Value
  devices : List String
  scenarios : List Declaration

namespace Config

/-- What a file without settings stands for. -/
def default : Config where
  tickMillis := 1000
  maxCatchUp := 300
  filter := "tripwired=info,tripwire=info"
  presets := []
  devices := []
  scenarios := []

def tickMillisLimit : Nat := 1000

def catchUpLimit : Nat := 86400

/-- What a readable configuration can have wrong. -/
inductive Defect where
  | tickMillis
  | maxCatchUp
  | idleBranch (place : Nat) (description : String)
deriving Repr, DecidableEq

def Defect.message : Defect → String
  | tickMillis =>
    "scheduler.tick_ms must be between 1 and " ++ toString tickMillisLimit
  | maxCatchUp =>
    "scheduler.max_catch_up_secs must be at most " ++ toString catchUpLimit
  | idleBranch place description =>
    "branch " ++ toString place ++ " of scenario " ++ Text.quoted description ++ " has no action"

/-- The first scenario with a branch that does nothing, and the place of the first such. -/
def firstIdle : List Declaration → Option Defect
  | [] => none
  | d :: rest =>
    match d.branches.findIdx? (!·.hasAction) with
    | some place => some (.idleBranch place d.description)
    | none => firstIdle rest

/-- The first defect, in the order of the tick, the catch-up limit and the scenarios. -/
def defect? (c : Config) : Option Defect :=
  if c.tickMillis < 1 ∨ tickMillisLimit < c.tickMillis then some .tickMillis
  else if catchUpLimit < c.maxCatchUp then some .maxCatchUp
  else firstIdle c.scenarios

/-- Settings from the environment, as texts. The general filter goes before the daemon's. -/
structure Environment where
  tickMillis : Option String
  filter : Option String
  generalFilter : Option String

/-- A tick that is no number of 64 bits is ignored. -/
def override (c : Config) (e : Environment) : Config :=
  { c with
    tickMillis := (e.tickMillis.bind fun s =>
      Text.boundedNumeral Word.size64 s.toList).getD c.tickMillis
    filter := (e.generalFilter.or e.filter).getD c.filter }

/-- Why there is no usable configuration. -/
inductive Problem where
  | unparsable
  | unreadable
  | defective (d : Defect)
deriving Repr, DecidableEq

def Problem.message : Problem → String
  | unparsable => "failed to parse config file"
  | unreadable => "failed to read config file"
  | defective d => "invalid configuration: " ++ d.message

def validate (c : Config) : Except Problem Unit :=
  match c.defect? with
  | some d => .error (.defective d)
  | none => .ok ()

end Config

end Reflex
