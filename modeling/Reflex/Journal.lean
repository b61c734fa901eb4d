import Reflex.Device
import Reflex.Schedule

/-! The journal of a run. Notes and diagnostics are meant for readers; the other marks
trace what the engine did, in the order in which it did it. -/
namespace Reflex

/-- What code writes into the journal itself. -/
inductive Message where
  /-- Written by user code. -/
  | note (v : Value)
  /-- The message of a declared branch. -/
  | logged (scenario message : String)

/-- A write of a variable: when and for how long it was made, and the timer that will
reset it. -/
structure Write where
  name : String
  value : Value
  reading : Instant
  lifetime : Option Span
  timer : Option Nat

/-- A write of a device's feature: what it found, and when it was made. -/
structure Adjustment where
  device : String
  feature : String
  value : Value
  previous : Value
  reading : Instant

inductive Mark where
  | note (v : Value)
  | logged (scenario message : String)
  | declared (scenario : String) (triggers branches : Nat)
  | clockBack (last now : Instant)
  | clockJump (gap limit : Nat)
  | reentered (scenario : String)
  | jobFailed (job : Nat) (schedule : Schedule) (cause : Failure)
  | timerFailed (timer : Nat) (cause : Failure)
  | topicFailed (topic : String) (cause : Failure)
  /-- With the longest gap that the tick makes up for. -/
  | tickBegan (reading : Instant) (limit : Nat)
  | tickEnded (seconds : Nat)
  | second (t : Instant)
  | timerArmed (timer : Nat) (deadline : Instant)
  /-- Whether the timer was pending. -/
  | timerCancelled (timer : Nat) (found : Bool)
  /-- The timers taken off the agenda at an instant, in firing order. -/
  | timersTaken (t : Instant) (timers : List Nat)
  | timerStarted (timer : Nat)
  | jobRegistered (job : Nat) (schedule : Schedule)
  /-- Whether the job was registered. -/
  | jobRemoved (job : Nat) (found : Bool)
  /-- What follows is the scheduler's own publication. -/
  | announced (topic : String)
  /-- The timers and subscribers of a second were run, and the jobs due in it are taken. -/
  | served (t : Instant)
  | jobStarted (job : Nat) (t : Instant)
  | secondEnded (t : Instant)
  | written (x : Write)
  | expired (name : String)
  | deviceRegistered (d : Device)
  | adjusted (x : Adjustment)
  | subscribed (subscription : Nat) (topic : String)
  /-- Whether there was such a subscription. -/
  | unsubscribed (subscription : Nat) (found : Bool)
  | emitted (topic : String) (arguments : List Value)
  | delivered (subscription : Nat) (arguments : List Value)
  | passBegan (scenario : Nat)
  /-- The number of callbacks that ran, unless the pass failed. -/
  | passEnded (scenario : Nat) (ran : Option Nat)
  | entryRan (scenario place : Nat)

def Message.mark : Message → Mark
  | note v => .note v
  | logged scenario message => .logged scenario message

inductive Level where
  | info
  | warn
  | error
deriving Repr, DecidableEq

def Level.name : Level → String
  | info => "info"
  | warn => "warn"
  | error => "error"

/-- A message for whoever operates the engine, with named details. -/
structure Diagnostic where
  level : Level
  message : String
  details : List (String × String)
deriving Repr, DecidableEq

/-- The message followed by the details. -/
def Diagnostic.render (d : Diagnostic) : String :=
  d.details.foldl (fun s (name, detail) => s ++ " " ++ name ++ "=" ++ detail)
    (d.level.name ++ ": " ++ d.message)

/-- The diagnostic that a mark is, if it is one. -/
def Mark.diagnostic? : Mark → Option Diagnostic
  | logged scenario message => some ⟨.info, message, [("scenario", scenario)]⟩
  | declared scenario triggers branches =>
    some ⟨.info, "scenario declared", [("scenario", scenario),
      ("triggers", toString triggers), ("branches", toString branches)]⟩
  | clockBack last now =>
    some ⟨.warn, "clock moved backwards", [("last", last.display), ("now", now.display)]⟩
  | clockJump gap limit =>
    some ⟨.warn, "clock jump too large, skipping ahead",
      [("gap_secs", toString gap), ("max_catch_up_secs", toString limit)]⟩
  | reentered scenario => some ⟨.warn, "ignoring re-entrant assert", [("scenario", scenario)]⟩
  | jobFailed _ schedule _ =>
    some ⟨.error, "scheduled job failed", [("schedule", schedule.render)]⟩
  | timerFailed _ _ => some ⟨.error, "timer failed", []⟩
  | topicFailed topic _ => some ⟨.error, "tick subscriber failed", [("topic", topic)]⟩
  | _ => none

end Reflex
