import Reflex.Engine.Delivery

/-! Following the clock. Each evaluated second fires due timers, publishes the second
and, where they begin, the minute and the hour, and runs due jobs; failures in any of
these are reported and do not stop the others. -/
namespace Reflex.Engine

variable {σ : Type} (call : Call σ)

open Act

def every (s : Schedule) (task : Reaction σ) : Act σ Nat := do
  let w ← get
  set { w with agenda := w.agenda.register s task }
  mark (.jobRegistered w.agenda.nextJob s)
  return w.agenda.nextJob

/-- Whether there was such a job; it is gone afterwards. -/
def remove (id : Nat) : Act σ Bool := do
  let w ← get
  set { w with agenda := w.agenda.remove id }
  mark (.jobRemoved id (w.agenda.hasJob id))
  return w.agenda.hasJob id

/-- Arms a timer that is due a span after the clock's present reading. -/
def once (d : Span) (task : Reaction σ) : Act σ Nat := do
  let w ← get
  let deadline := w.clock.add d
  set { w with agenda := w.agenda.arm deadline task }
  mark (.timerArmed w.agenda.nextTimer deadline)
  return w.agenda.nextTimer

/-- Whether the timer was pending; it no longer is. -/
def cancel (id : Nat) : Act σ Bool := do
  let w ← get
  set { w with agenda := w.agenda.cancel id }
  mark (.timerCancelled id (w.agenda.hasTimer id))
  return w.agenda.hasTimer id

def runTimers : List (Timer (Reaction σ)) → Act σ Unit
  | [] => pure ()
  | t :: rest => do
    mark (.timerStarted t.id)
    reporting (.timerFailed t.id) (call (t.task.program []))
    runTimers rest

/-- Takes the timers due at an instant off the agenda and runs them. -/
def fireTimers (t : Instant) : Act σ Unit := do
  let w ← get
  set { w with agenda := w.agenda.takeDue t }
  mark (.timersTaken t ((w.agenda.dueTimers t).map (·.id)))
  runTimers call (w.agenda.dueTimers t)

def secondTopic : String := "second"

def minuteTopic : String := "minute"

def hourTopic : String := "hour"

def notify (topic : String) (arguments : List Value) : Act σ Unit := do
  mark (.announced topic)
  reporting (.topicFailed topic) (emit call topic arguments)

/-- Publishes a second, and the minute and the hour that begin with it. -/
def publishSecond (t : Instant) : Act σ Unit := do
  let arguments := [Tick.payload t]
  notify call secondTopic arguments
  if t.secondOfMinute = 0 then
    notify call minuteTopic arguments
    if t.minute = 0 then
      notify call hourTopic arguments

def notifyAll (t : Instant) : Act σ Unit := do
  publishSecond call t
  mark (.served t)

def runJobs (t : Instant) : List (Job (Reaction σ)) → Act σ Unit
  | [] => pure ()
  | j :: rest => do
    mark (.jobStarted j.id t)
    reporting (.jobFailed j.id j.schedule) (call (j.task.program []))
    runJobs t rest

def setCurrent (t : Option Instant) : Act σ Unit :=
  modify fun w => { w with agenda := { w.agenda with current := t } }

/-- Evaluates one second. -/
def runSecond (t : Instant) : Act σ Unit := do
  let outer := (← get).agenda.current
  setCurrent (some t)
  mark (.second t)
  fireTimers call t
  notifyAll call t
  runJobs call t ((← get).agenda.dueJobs t)
  setCurrent outer

/-- Evaluates one second and records its end. -/
def evaluateSecond (t : Instant) : Act σ Unit := do
  runSecond call t
  mark (.secondEnded t)

/-- Evaluates `n` seconds in a row. -/
def runSeconds (t : Instant) : Nat → Act σ Unit
  | 0 => pure ()
  | n + 1 => do
    evaluateSecond call t
    runSeconds (t.addSeconds 1) n

/-- Decides which seconds to evaluate and records that the clock was followed so far. -/
def takePlan (now : Instant) : Act σ Agenda.Plan := do
  let w ← get
  let plan := w.agenda.plan now
  set { w with agenda := { w.agenda with lastTick := some now } }
  match plan.report with
  | some m => mark m
  | none => pure ()
  return plan

/-- Follows the clock to its present reading: the planned seconds, then the timers that
became due within the present second. Returns the number of seconds evaluated. -/
def tick : Act σ Nat := do
  let w ← get
  let now := w.clock
  mark (.tickBegan now w.agenda.maxCatchUp)
  let plan ← takePlan now.truncate
  runSeconds call plan.first plan.count
  fireTimers call now
  mark (.tickEnded plan.count)
  return plan.count

end Reflex.Engine
