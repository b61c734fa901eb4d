import Reflex.Proofs.History
import Reflex.Proofs.Moments

/-! The steps of the machine as far as the course of ticks goes: a tick begins, evaluates a
second or ends, and any other step leaves all ticks where they are. -/
namespace Reflex
open History

variable {σ : Type} {rule : Rule}

theorem Mark.isTick_of_plain {m : Mark} (plain : m.isPlain = true) : m.isTick = false := by
  cases m <;> first | rfl | cases plain

/-- No tick gets anywhere. -/
structure World.Calm (w w' : World σ) : Prop where
  journal : ∃ later, w'.journal = later ++ w.journal ∧ ∀ m ∈ later, m.isTick = false
  lastTick : w'.agenda.lastTick = w.agenda.lastTick

namespace World.Calm

variable {w w' last : World σ}

theorem readings (calm : w.Calm w') : History.readings w'.journal = History.readings w.journal := by
  obtain ⟨later, journal, quiet⟩ := calm.journal
  rw [journal, readings_append quiet]

theorem seconds (calm : w.Calm w') : History.seconds w'.journal = History.seconds w.journal := by
  obtain ⟨later, journal, quiet⟩ := calm.journal
  rw [journal, seconds_append quiet]

theorem refl (w : World σ) : w.Calm w := ⟨Without.of_same rfl, rfl⟩

theorem trans (first : w.Calm w') (rest : w'.Calm last) : w.Calm last :=
  ⟨Without.trans first.journal rest.journal, rest.lastTick.trans first.lastTick⟩

theorem of_same (journal : w'.journal = w.journal)
    (lastTick : w'.agenda.lastTick = w.agenda.lastTick) : w.Calm w' :=
  ⟨Without.of_same journal, lastTick⟩

theorem marked (w : World σ) {m : Mark} (quiet : m.isTick = false) : w.Calm (w.marked m) :=
  ⟨Without.marked w quiet, rfl⟩

theorem arming (w : World σ) (d : Span) (task : Reaction σ) : w.Calm (w.arming d task) :=
  ⟨Without.of_mark rfl rfl, rfl⟩

theorem cancelling (w : World σ) (id : Nat) : w.Calm (w.cancelling id) :=
  ⟨Without.of_mark rfl rfl, rfl⟩

theorem taking (w : World σ) (t : Instant) : w.Calm (w.taking t) :=
  ⟨Without.of_mark rfl rfl, rfl⟩

theorem storing (w : World σ) (name : String) (slot : Slot) : w.Calm (w.storing name slot) :=
  of_same rfl rfl

theorem absorbs : Absorbs (Calm : World σ → World σ → Prop) where
  refl := refl
  trans := trans
  store := storing
  arm w d name := arming w d (.expiry name)
  cancel := cancelling
  written w _ := marked w rfl

theorem lapsing (w : World σ) (name : String) : w.Calm (w.lapsing name) :=
  absorbs.lapsing (fun w => marked w rfl) w

theorem of_move (move : Move rule w w') : w.Calm w' := by
  cases move with
  | apart apart => exact of_same apart.journal apart.lastTick
  | plain plain => exact marked w (Mark.isTick_of_plain plain)
  | arm => exact arming w _ _
  | cancel => exact cancelling w _
  | drop => exact of_same rfl rfl
  | write => exact absorbs.writing w _ _ _

end World.Calm

/-- What a tick follows, how many seconds it planned, the next one and how many are left. -/
structure Course where
  reading : Instant
  planned : Nat
  next : Instant
  left : Nat

def Ticking.course (k : Ticking σ) : Course := ⟨k.reading, k.planned, k.next, k.left⟩

/-- The courses of the ticks in progress, the latest first. -/
def Frames.courses : Frames σ → List Course
  | [] => []
  | .tick k :: rest => k.course :: courses rest
  | .lapse _ _ :: rest => courses rest

/-- A step that calls nothing but what a tick does itself. -/
inductive Turn : World σ → List Course → World σ → List Course → Prop
  | calm {w w' : World σ} {cs : List Course} : w.Calm w' → Turn w cs w' cs
  | begin {w : World σ} {cs : List Course} :
      Turn w cs w.beginning (⟨w.clock, w.plan.count, w.plan.first, w.plan.count⟩ :: cs)
  | second {w : World σ} {cs : List Course} {reading next : Instant} {planned left : Nat} :
      Turn w (⟨reading, planned, next, left + 1⟩ :: cs) ((w.marked (.second next)).taking next)
        (⟨reading, planned, next.addSeconds 1, left⟩ :: cs)
  | finish {w : World σ} {cs : List Course} {reading next : Instant} {planned : Nat} :
      Turn w (⟨reading, planned, next, 0⟩ :: cs) (w.marked (.tickEnded planned)) cs

theorem Step.turn {m m' : Moment σ} (step : Step rule m m') :
    Turn m.world (Frames.courses m.frames) m'.world (Frames.courses m'.frames) := by
  cases step with
  | code _ move => exact .calm (.of_move move)
  | begin => exact .begin
  | second => exact .second
  | close => exact .calm (.taking _ _)
  | fire | lapse | serve => exact .calm (.marked _ rfl)
  | ask => exact .calm (.refl _)
  | expire => exact .calm (.lapsing _ _)
  | finish => exact .finish

/-- Marks are only ever added. -/
theorem Turn.extends {w w' : World σ} {cs cs' : List Course} (turn : Turn w cs w' cs') :
    ∃ later, w'.journal = later ++ w.journal := by
  cases turn with
  | calm calm =>
    obtain ⟨later, journal, -⟩ := calm.journal
    exact ⟨later, journal⟩
  | begin => exact ⟨[_], rfl⟩
  | second => exact ⟨[_, _], rfl⟩
  | finish => exact ⟨[_], rfl⟩

/-- What holds at the start and is kept by every step holds while the journal is as it should
be, mark by mark. -/
theorem Reached.invariant_while {P : Moment σ → Prop} {Q : History → Mark → Prop}
    (start : ∀ clock devices memory, P ⟨.start clock devices memory, []⟩)
    (kept : ∀ {m m'}, Reached rule m → P m → Step rule m m' → Everywhere Q m'.world.journal → P m')
    {m : Moment σ} (reached : Reached rule m) (all : Everywhere Q m.world.journal) : P m := by
  refine Reached.invariant (P := fun m => Everywhere Q m.world.journal → P m)
    (fun clock devices memory _ => start clock devices memory) ?_ reached all
  intro m m' before ih step all
  obtain ⟨later, extended⟩ := step.turn.extends
  refine kept before (ih ?_) step all
  rw [extended] at all
  exact all.before

end Reflex
