import Reflex.Journal

/-! What the scheduler keeps: periodic jobs in the order of registration, pending timers
in the order of arming, and how far the clock has been followed. -/
namespace Reflex

structure Job (κ : Type) where
  id : Nat
  schedule : Schedule
  task : κ

structure Timer (κ : Type) where
  id : Nat
  deadline : Instant
  task : κ

structure Agenda (κ : Type) where
  jobs : List (Job κ)
  nextJob : Nat
  timers : List (Timer κ)
  nextTimer : Nat
  /-- The second of the latest tick. -/
  lastTick : Option Instant
  /-- The second being evaluated. -/
  current : Option Instant
  /-- The longest gap in seconds that is made up for. -/
  maxCatchUp : Nat

namespace Agenda

variable {κ : Type}

def defaultCatchUp : Nat := 300

def empty : Agenda κ := ⟨[], 0, [], 0, none, none, defaultCatchUp⟩

/-- Registers a job under the agenda's next job number. -/
def register (a : Agenda κ) (s : Schedule) (task : κ) : Agenda κ :=
  { a with jobs := a.jobs ++ [⟨a.nextJob, s, task⟩], nextJob := a.nextJob + 1 }

def hasJob (a : Agenda κ) (id : Nat) : Bool := a.jobs.any (·.id == id)

def remove (a : Agenda κ) (id : Nat) : Agenda κ :=
  { a with jobs := a.jobs.filter (·.id != id) }

/-- Arms a timer under the agenda's next timer number. -/
def arm (a : Agenda κ) (deadline : Instant) (task : κ) : Agenda κ :=
  { a with timers := a.timers ++ [⟨a.nextTimer, deadline, task⟩], nextTimer := a.nextTimer + 1 }

def hasTimer (a : Agenda κ) (id : Nat) : Bool := a.timers.any (·.id == id)

def cancel (a : Agenda κ) (id : Nat) : Agenda κ :=
  { a with timers := a.timers.filter (·.id != id) }

/-- Puts a timer before the first one that is due at the same time or later. -/
def insertByDeadline (x : Timer κ) : List (Timer κ) → List (Timer κ)
  | [] => [x]
  | y :: rest =>
    if x.deadline ≤ y.deadline then x :: y :: rest else y :: insertByDeadline x rest

/-- Sorts by deadline and keeps the order of arming among equal deadlines. -/
def sortByDeadline (timers : List (Timer κ)) : List (Timer κ) := timers.foldr insertByDeadline []

/-- The timers due at an instant, in firing order. -/
def dueTimers (a : Agenda κ) (t : Instant) : List (Timer κ) :=
  sortByDeadline (a.timers.filter fun x => decide (x.deadline ≤ t))

/-- What stays pending after the timers due at an instant are taken. -/
def takeDue (a : Agenda κ) (t : Instant) : Agenda κ :=
  { a with timers := a.timers.filter fun x => !decide (x.deadline ≤ t) }

def dueJobs (a : Agenda κ) (t : Instant) : List (Job κ) := a.jobs.filter (·.schedule.isDue t)

/-- The seconds that a tick evaluates, and what it reports about the clock. -/
structure Plan where
  first : Instant
  count : Nat
  report : Option Mark

/-- Every second after the latest tick, unless the clock went back or jumped too far;
then, and at the first tick, the present second alone. -/
def plan (a : Agenda κ) (now : Instant) : Plan :=
  match a.lastTick with
  | none => ⟨now, 1, none⟩
  | some last =>
    if now = last then ⟨now, 0, none⟩
    else if now < last then ⟨now, 1, some (.clockBack last now)⟩
    else
      let gap := (now.second - last.second).toNat
      if a.maxCatchUp < gap then ⟨now, 1, some (.clockJump gap a.maxCatchUp)⟩
      else ⟨last.addSeconds 1, gap, none⟩

end Agenda

end Reflex
