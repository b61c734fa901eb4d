import Mathlib.Logic.Relation
import Reflex.Proofs.Laws
import Reflex.Proofs.Moves

/-! The engine as a machine that takes one step at a time. A moment is a world together
with what is in progress there: ticks, each inside the one below it, and the end of a
variable's lifetime between the start of its timer and the change of the variable. -/
namespace Reflex

variable {σ : Type}

/-- How far a tick has come. -/
structure Ticking (σ : Type) where
  reading : Instant
  planned : Nat
  /-- The next second to evaluate, while some are left. -/
  next : Instant
  left : Nat
  /-- Whether the timers that are due at the reading itself were taken. -/
  closing : Bool
  /-- The timers that were taken and have not started. -/
  batch : List (Timer (Reaction σ))

inductive Frame (σ : Type) where
  | tick (k : Ticking σ)
  /-- Without a timer, the end was asked for. -/
  | lapse (name : String) (timer : Option Nat)

/-- What is in progress, the latest first. -/
abbrev Frames (σ : Type) := List (Frame σ)

structure Moment (σ : Type) where
  world : World σ
  frames : Frames σ

/-- Code can run: no lifetime is about to end. -/
def Frames.Open : Frames σ → Prop
  | .lapse _ _ :: _ => False
  | _ => True

/-- Only what has no bearing on time, timers or variables differs. -/
structure World.Apart (w w' : World σ) : Prop where
  journal : w'.journal = w.journal
  timers : w'.agenda.timers = w.agenda.timers
  nextTimer : w'.agenda.nextTimer = w.agenda.nextTimer
  lastTick : w'.agenda.lastTick = w.agenda.lastTick
  slots : w'.slots = w.slots
  storeHeld : w'.storeHeld = w.storeHeld

/-- Marks that tell nothing of ticks, timers or variables. -/
def Mark.isPlain : Mark → Bool
  | tickBegan _ _ | tickEnded _ | second _ | served _ => false
  | timerArmed _ _ | timerCancelled _ _ | timersTaken _ _ | timerStarted _ => false
  | written _ | expired _ => false
  | _ => true

/-- What code does to time, timers and variables, apart from calling `tick`. -/
inductive Move (rule : Rule) : World σ → World σ → Prop
  | apart {w w' : World σ} : w.Apart w' → Move rule w w'
  | plain {w : World σ} {m : Mark} : m.isPlain = true → Move rule w (w.marked m)
  | arm {w : World σ} {d : Span} {task : Reaction σ} : task.Within rule →
      Move rule w (w.arming d task)
  | cancel {w : World σ} {id : Nat} : rule _ (.cancel id) → Move rule w (w.cancelling id)
  | drop {w : World σ} {withStore : Bool} : rule _ (.dropRuntime withStore) →
      Move rule w (w.dropping withStore)
  | write {w : World σ} {name : String} {value : Value} {ttl : Option Span} :
      Move rule w (w.writing name value ttl)

/-- The seconds that a tick would evaluate now. -/
def World.plan (w : World σ) : Agenda.Plan := w.agenda.plan w.clock.truncate

inductive Step (rule : Rule) : Moment σ → Moment σ → Prop
  | code {w w' : World σ} {fs : Frames σ} : fs.Open → Move rule w w' → Step rule ⟨w, fs⟩ ⟨w', fs⟩
  | begin {w : World σ} {fs : Frames σ} : fs.Open → Step rule ⟨w, fs⟩ ⟨w.beginning,
      .tick ⟨w.clock, w.plan.count, w.plan.first, w.plan.count, false, []⟩ :: fs⟩
  | second {w : World σ} {fs : Frames σ} {reading next : Instant} {planned left : Nat} :
      Step rule ⟨w, .tick ⟨reading, planned, next, left + 1, false, []⟩ :: fs⟩
        ⟨(w.marked (.second next)).taking next,
          .tick ⟨reading, planned, next.addSeconds 1, left, false, w.agenda.dueTimers next⟩ :: fs⟩
  | close {w : World σ} {fs : Frames σ} {reading next : Instant} {planned : Nat} :
      Step rule ⟨w, .tick ⟨reading, planned, next, 0, false, []⟩ :: fs⟩ ⟨w.taking reading,
        .tick ⟨reading, planned, next, 0, true, w.agenda.dueTimers reading⟩ :: fs⟩
  | fire {w : World σ} {fs : Frames σ} {k : Ticking σ} {x : Timer (Reaction σ)}
      {rest : List (Timer (Reaction σ))} : k.batch = x :: rest → x.task.Within rule →
      Step rule ⟨w, .tick k :: fs⟩
        ⟨w.marked (.timerStarted x.id), .tick { k with batch := rest } :: fs⟩
  | lapse {w : World σ} {fs : Frames σ} {k : Ticking σ} {x : Timer (Reaction σ)}
      {rest : List (Timer (Reaction σ))} {name : String} : k.batch = x :: rest →
      x.task = .expiry name → Step rule ⟨w, .tick k :: fs⟩ ⟨w.marked (.timerStarted x.id),
        .lapse name (some x.id) :: .tick { k with batch := rest } :: fs⟩
  | serve {w : World σ} {fs : Frames σ} {k : Ticking σ} {t : Instant} : k.batch = [] →
      Step rule ⟨w, .tick k :: fs⟩ ⟨w.marked (.served t), .tick k :: fs⟩
  | ask {w : World σ} {fs : Frames σ} {name : String} : fs.Open → rule _ (.expire name) →
      Step rule ⟨w, fs⟩ ⟨w, .lapse name none :: fs⟩
  | expire {w : World σ} {fs : Frames σ} {name : String} {timer : Option Nat} :
      Step rule ⟨w, .lapse name timer :: fs⟩ ⟨w.lapsing name, fs⟩
  | finish {w : World σ} {fs : Frames σ} {reading next : Instant} {planned : Nat} :
      Step rule ⟨w, .tick ⟨reading, planned, next, 0, true, []⟩ :: fs⟩
        ⟨w.marked (.tickEnded planned), fs⟩

abbrev Path (rule : Rule) : Moment σ → Moment σ → Prop := Relation.ReflTransGen (Step rule)

/-- The moments of a history that starts with a clock and devices. -/
def Reached (rule : Rule) (m : Moment σ) : Prop :=
  ∃ clock devices memory, Path rule ⟨.start clock devices memory, []⟩ m

/-- What holds at the start and is kept by every step holds at every moment. -/
theorem Reached.invariant {rule : Rule} {P : Moment σ → Prop}
    (start : ∀ clock devices memory, P ⟨.start clock devices memory, []⟩)
    (kept : ∀ {m m'}, Reached rule m → P m → Step rule m m' → P m') {m : Moment σ}
    (reached : Reached rule m) : P m := by
  obtain ⟨clock, devices, memory, path⟩ := reached
  induction path with
  | refl => exact start clock devices memory
  | tail before step ih => exact kept ⟨clock, devices, memory, before⟩ ih step

end Reflex
