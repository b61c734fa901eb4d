import Reflex.Proofs.Tables
import Reflex.Proofs.Timers

/-! The steps of the machine as far as variables and their timers go. A write cancels the
timer of the write before it, unless a tick has taken that timer. -/
namespace Reflex
open History

variable {σ : Type} {rule : Rule}

namespace History

/-- The latest write of a variable. -/
def latest? (name : String) (J : History) : Option Write :=
  (writes J).find? fun x => x.name == name

/-- What a variable holds after its writes and the ends of its lifetimes. -/
def stored (name : String) : History → Option Slot
  | [] => none
  | .written x :: earlier => if x.name = name then some ⟨x.value, x.timer⟩ else stored name earlier
  | .expired n :: earlier => if n = name then some ⟨.null, none⟩ else stored name earlier
  | _ :: earlier => stored name earlier

end History

/-- Marks that tell nothing of variables and of single timers. -/
def Mark.isRemote : Mark → Bool
  | timerArmed _ _ | timerCancelled _ _ | timerStarted _ => false
  | written _ | expired _ => false
  | _ => true

namespace History

variable {J later : History} {name : String}

theorem writes_remote (remote : ∀ m ∈ later, m.isRemote = true) :
    writes (later ++ J) = writes J := by
  refine append_of_silent ?_ remote
  intro m J first
  cases m <;> first | rfl | cases first

theorem started_remote (remote : ∀ m ∈ later, m.isRemote = true) :
    started (later ++ J) = started J := by
  refine append_of_silent ?_ remote
  intro m J first
  cases m <;> first | rfl | cases first

theorem cancelled_remote (remote : ∀ m ∈ later, m.isRemote = true) :
    cancelled (later ++ J) = cancelled J := by
  refine append_of_silent ?_ remote
  intro m J first
  cases m <;> first | rfl | cases first

theorem stored_remote (remote : ∀ m ∈ later, m.isRemote = true) :
    stored name (later ++ J) = stored name J := by
  refine append_of_silent ?_ remote
  intro m J first
  cases m <;> first | rfl | cases first

theorem waiting_remote (remote : ∀ m ∈ later, m.isRemote = true) :
    waiting J ⊆ waiting (later ++ J) := by
  induction later with
  | nil => exact List.Subset.refl _
  | cons m rest ih =>
    obtain ⟨first, others⟩ := List.forall_mem_cons.mp remote
    intro i member
    have waits := ih others member
    cases m <;> first | exact waits | exact List.mem_append_right _ waits | cases first

theorem latest?_mem {x : Write} (latest : latest? name J = some x) : x ∈ writes J ∧ x.name = name :=
  ⟨List.mem_of_find?_eq_some latest, by simpa using List.find?_some latest⟩

theorem latest?_cons (x : Write) (J : History) :
    latest? name (.written x :: J) = if x.name = name then some x else latest? name J := by
  change (x :: writes J).find? _ = if x.name = name then some x else (writes J).find? _
  by_cases same : x.name = name <;> simp [same]

/-- A variable that waits for a timer holds the value of its latest write. -/
theorem latest?_of_stored {v : Value} {i : Nat} (holds : stored name J = some ⟨v, some i⟩) :
    ∃ x, latest? name J = some x ∧ x.value = v ∧ x.timer = some i := by
  induction J with
  | nil => cases holds
  | cons m earlier ih =>
    cases m with
    | written x =>
      rw [latest?_cons]
      unfold stored at holds
      split at holds
      · rename_i same
        rw [if_pos same]
        simp only [Option.some.injEq, Slot.mk.injEq] at holds
        exact ⟨x, rfl, holds⟩
      · rename_i other
        rw [if_neg other]
        exact ih holds
    | expired n =>
      unfold stored at holds
      split at holds
      · cases holds
      · exact ih holds
    | _ => exact ih holds

theorem stored_of_written {x : Write} (member : x ∈ writes J) : (stored x.name J).isSome := by
  induction J with
  | nil => cases member
  | cons m earlier ih =>
    cases m with
    | written y =>
      unfold stored
      split
      · rfl
      · rename_i other
        rcases List.mem_cons.mp member with rfl | member
        · exact absurd rfl other
        · exact ih member
    | expired n =>
      unfold stored
      split
      · rfl
      · exact ih member
    | _ => exact ih member

theorem stored_unwritten (unwritten : ∀ x ∈ writes J, x.name ≠ name) :
    ∀ slot, stored name J = some slot → slot = ⟨.null, none⟩ := by
  induction J with
  | nil => exact fun _ none => nomatch none
  | cons m earlier ih =>
    cases m with
    | written y =>
      obtain ⟨other, unwritten⟩ := List.forall_mem_cons.mp unwritten
      unfold stored
      rw [if_neg other]
      exact ih unwritten
    | expired n =>
      unfold stored
      split
      · rintro slot ⟨rfl⟩
        rfl
      · exact ih unwritten
    | _ => exact ih unwritten

end History

/-- The timer that will reset a variable. -/
def World.expiry? (w : World σ) (name : String) : Option Nat := (w.slot? name).bind (·.expiry)

theorem World.storing_slot? (w : World σ) (name other : String) (slot : Slot) :
    (w.storing name slot).slot? other = if name = other then some slot else w.slot? other :=
  Table.find?_put name other slot w.slots

/-- Marks of timers that are armed and cancelled. -/
def Mark.isArming : Mark → Bool
  | timerArmed _ _ | timerCancelled _ _ => true
  | _ => false

namespace History

variable {J marks : History} {name : String}

theorem writes_arming (arming : ∀ m ∈ marks, m.isArming = true) :
    writes (marks ++ J) = writes J := by
  refine append_of_silent ?_ arming
  intro m J first
  cases m <;> first | rfl | cases first

theorem started_arming (arming : ∀ m ∈ marks, m.isArming = true) :
    started (marks ++ J) = started J := by
  refine append_of_silent ?_ arming
  intro m J first
  cases m <;> first | rfl | cases first

theorem waiting_arming (arming : ∀ m ∈ marks, m.isArming = true) :
    waiting (marks ++ J) = waiting J := by
  refine append_of_silent ?_ arming
  intro m J first
  cases m <;> first | rfl | cases first

theorem stored_arming (arming : ∀ m ∈ marks, m.isArming = true) :
    stored name (marks ++ J) = stored name J := by
  refine append_of_silent ?_ arming
  intro m J first
  cases m <;> first | rfl | cases first

theorem latest?_of_writes {J' : History} (same : writes J' = writes J) :
    latest? name J' = latest? name J := by rw [latest?, same, latest?]

end History

/-- What a replacement does: the timer of the slot before is cancelled and the slot stored. -/
structure Replaced (w : World σ) (name : String) (slot : Slot) (w' : World σ) : Prop where
  slots : ∀ other, w'.slot? other = if name = other then some slot else w.slot? other
  storeHeld : w'.storeHeld = w.storeHeld
  timers : ∀ z, z ∈ w'.agenda.timers ↔ z ∈ w.agenda.timers ∧ w.expiry? name ≠ some z.id
  journal : ∃ marks, w'.journal = marks ++ w.journal ∧ (∀ m ∈ marks, m.isArming = true) ∧
    (∀ i ∈ cancelled (marks ++ w.journal), i ∈ cancelled w.journal ∨ w.expiry? name = some i) ∧
    armed w.journal ⊆ armed (marks ++ w.journal)

theorem World.replacing_replaced (w : World σ) (name : String) (slot : Slot) :
    Replaced w name slot (w.replacing name slot) := by
  unfold World.replacing
  cases replaced : (w.slot? name).bind (·.expiry) with
  | none =>
    refine ⟨fun other => w.storing_slot? name other slot, rfl, ?_, [], rfl, by simp, ?_,
      filterMap_later⟩
    · intro z
      simp [World.expiry?, World.storing, replaced]
    · intro i member
      exact .inl member
  | some timer =>
    refine ⟨fun other => w.storing_slot? name other slot, rfl, ?_, [_], rfl,
      by simp [Mark.isArming], ?_, filterMap_later⟩
    · intro z
      change z ∈ List.filter _ _ ↔ _
      rw [World.expiry?, replaced, List.mem_filter, bne_iff_ne, ne_eq, ne_eq, Option.some.injEq,
        eq_comm]
      rfl
    · intro i member
      cases found : (w.storing name slot).agenda.hasTimer timer with
      | false =>
        rw [found] at member
        exact .inl member
      | true =>
        rw [found] at member
        rcases List.mem_cons.mp member with rfl | member
        · exact .inr replaced
        · exact .inl member

/-- What a write does. It has a timer if it has a lifetime. -/
structure Wrote (w : World σ) (x : Write) (w' : World σ) : Prop where
  timer : x.timer = x.lifetime.map fun _ => w.agenda.nextTimer
  slots : ∀ name, w'.slot? name = if x.name = name then some ⟨x.value, x.timer⟩ else w.slot? name
  storeHeld : w'.storeHeld = w.storeHeld
  journal : ∃ marks, w'.journal = .written x :: (marks ++ w.journal) ∧
    (∀ m ∈ marks, m.isArming = true) ∧
    (∀ i ∈ cancelled (marks ++ w.journal), i ∈ cancelled w.journal ∨ w.expiry? x.name = some i) ∧
    ∀ d, x.lifetime = some d →
      (w.agenda.nextTimer, x.reading.add d) ∈ armed (marks ++ w.journal)
  timers : ∀ z, z ∈ w'.agenda.timers ↔ w.expiry? x.name ≠ some z.id ∧ (z ∈ w.agenda.timers ∨
    ∃ d, x.lifetime = some d ∧ z = ⟨w.agenda.nextTimer, x.reading.add d, .expiry x.name⟩)

theorem World.writing_wrote (w : World σ) (name : String) (value : Value) (ttl : Option Span) :
    ∃ x, x.name = name ∧ x.value = value ∧ x.lifetime = ttl ∧ x.reading = w.clock ∧
      Wrote w x (w.writing name value ttl) := by
  cases ttl with
  | none =>
    obtain ⟨slots, storeHeld, timers, marks, journal, arming, cancels, -⟩ :=
      w.replacing_replaced name ⟨value, none⟩
    refine ⟨⟨name, value, w.clock, none, none⟩, rfl, rfl, rfl, rfl, rfl, slots, storeHeld,
      ⟨marks, congrArg _ journal, arming, cancels, fun _ none => (nomatch none)⟩, ?_⟩
    intro z
    refine (timers z).trans ?_
    simp [and_comm]
  | some d =>
    obtain ⟨slots, storeHeld, timers, marks, journal, arming, cancels, kept⟩ :=
      (w.arming d (.expiry name)).replacing_replaced name ⟨value, some w.agenda.nextTimer⟩
    have split : marks ++ (w.arming d (.expiry name)).journal =
        marks ++ [.timerArmed w.agenda.nextTimer (w.clock.add d)] ++ w.journal := by
      rw [List.append_assoc]
      rfl
    rw [split] at journal cancels kept
    refine ⟨⟨name, value, w.clock, some d, some w.agenda.nextTimer⟩, rfl, rfl, rfl, rfl, rfl,
      slots, storeHeld, ⟨_, congrArg _ journal, ?_, cancels, ?_⟩, ?_⟩
    · intro m member
      rcases List.mem_append.mp member with old | new
      · exact arming m old
      · rw [List.mem_singleton.mp new]
        rfl
    · rintro d' ⟨rfl⟩
      exact kept (.head _)
    · intro z
      have armed : z ∈ (w.arming d (.expiry name)).agenda.timers ↔ z ∈ w.agenda.timers ∨
          z = ⟨w.agenda.nextTimer, w.clock.add d, .expiry name⟩ := by
        change z ∈ w.agenda.timers ++ [_] ↔ _
        rw [List.mem_append, List.mem_singleton]
      refine (timers z).trans ?_
      rw [armed, and_comm]
      refine and_congr Iff.rfl (or_congr Iff.rfl ⟨fun same => ⟨d, rfl, same⟩, ?_⟩)
      rintro ⟨d', ⟨rfl⟩, same⟩
      exact same

namespace Wrote

variable {w w' : World σ} {x : Write} (wrote : Wrote w x w')
include wrote

theorem writes_now : writes w'.journal = x :: writes w.journal := by
  obtain ⟨marks, journal, arming, -⟩ := wrote.journal
  rw [journal]
  exact congrArg _ (writes_arming arming)

theorem started_now : started w'.journal = started w.journal := by
  obtain ⟨marks, journal, arming, -⟩ := wrote.journal
  rw [journal]
  exact started_arming arming

theorem waiting_now : waiting w'.journal = waiting w.journal := by
  obtain ⟨marks, journal, arming, -⟩ := wrote.journal
  rw [journal]
  exact waiting_arming arming

theorem stored_now (name : String) : stored name w'.journal =
    if x.name = name then some ⟨x.value, x.timer⟩ else stored name w.journal := by
  obtain ⟨marks, journal, arming, -⟩ := wrote.journal
  rw [journal]
  exact if_congr Iff.rfl rfl (stored_arming arming)

theorem latest_now (name : String) : latest? name w'.journal =
    if x.name = name then some x else latest? name w.journal := by
  obtain ⟨marks, journal, arming, -⟩ := wrote.journal
  rw [journal, latest?_cons, latest?_of_writes (writes_arming arming)]

theorem timer_new {i : Nat} (own : x.timer = some i) : i = w.agenda.nextTimer := by
  rw [wrote.timer] at own
  obtain ⟨d, -, same⟩ := Option.map_eq_some_iff.mp own
  exact same.symm

end Wrote

/-- Code leaves the timers of variables to the variables and keeps hold of the store. -/
def Rule.storing : Rule
  | _, .cancel _ => False
  | _, .expire _ => False
  | _, .dropRuntime withStore => withStore = false
  | _, _ => True

theorem Rule.storing_open : Rule.storing.Open :=
  ⟨fun _ _ => trivial, fun _ _ _ => trivial, fun _ _ => trivial, fun _ _ _ => trivial⟩

/-- A lifetime that is about to end is the latest thing in progress. -/
def Frames.Proper : Frames σ → Prop
  | [] => True
  | _ :: rest => Frames.Open rest ∧ Proper rest

theorem Frames.Open.not_lapse {fs rest : Frames σ} {name : String} {timer : Option Nat}
    (ready : fs.Open) : fs ≠ .lapse name timer :: rest := by
  rintro rfl
  exact ready

theorem Reached.proper {m : Moment σ} (reached : Reached rule m) : Frames.Proper m.frames := by
  refine reached.invariant (P := fun m => Frames.Proper m.frames) (fun _ _ _ => trivial) ?_
  intro m m' _ proper step
  cases step with
  | code => exact proper
  | begin ready => exact ⟨ready, proper⟩
  | second | close | fire | serve => exact proper
  | lapse => exact ⟨trivial, proper⟩
  | ask ready => exact ⟨ready, proper⟩
  | expire | finish => exact proper.2

/-- On the agenda or waiting in a batch. -/
def Moment.Live (m : Moment σ) (z : Timer (Reaction σ)) : Prop :=
  z ∈ m.world.agenda.timers ∨ z ∈ batches (Frames.ticks m.frames)

/-- Variables and their timers stay as they are. -/
structure Moment.Still (m m' : Moment σ) : Prop where
  before : m.frames.Open
  after : m'.frames.Open
  journal : ∃ later, m'.world.journal = later ++ m.world.journal ∧ ∀ k ∈ later, k.isRemote = true
  slots : m'.world.slots = m.world.slots
  storeHeld : m'.world.storeHeld = m.world.storeHeld
  live : ∀ z, m'.Live z ↔ m.Live z

/-- What a step does to variables and their timers. -/
inductive Keeping : Moment σ → Moment σ → Prop
  | still {m m' : Moment σ} : m.Still m' → Keeping m m'
  | arm {w : World σ} {fs : Frames σ} {d : Span} {task : Reaction σ} : fs.Open →
      (∀ name, task ≠ .expiry name) → Keeping ⟨w, fs⟩ ⟨w.arming d task, fs⟩
  | write {w w' : World σ} {fs : Frames σ} {x : Write} : fs.Open → Wrote w x w' →
      Keeping ⟨w, fs⟩ ⟨w', fs⟩
  | fire {w : World σ} {fs : Frames σ} {k : Ticking σ} {z : Timer (Reaction σ)}
      {rest : List (Timer (Reaction σ))} : k.batch = z :: rest → (∀ name, z.task ≠ .expiry name) →
      Keeping ⟨w, .tick k :: fs⟩
        ⟨w.marked (.timerStarted z.id), .tick { k with batch := rest } :: fs⟩
  | lapse {w : World σ} {fs : Frames σ} {k : Ticking σ} {z : Timer (Reaction σ)}
      {rest : List (Timer (Reaction σ))} {name : String} : k.batch = z :: rest →
      z.task = .expiry name → Keeping ⟨w, .tick k :: fs⟩ ⟨w.marked (.timerStarted z.id),
        .lapse name (some z.id) :: .tick { k with batch := rest } :: fs⟩
  | expire {w : World σ} {fs : Frames σ} {name : String} {timer : Option Nat} : fs.Open →
      Keeping ⟨w, .lapse name timer :: fs⟩ ⟨w.lapsing name, fs⟩

theorem live_take {w : World σ} {fs : Frames σ} {k k' : Ticking σ} {t : Instant}
    (empty : k.batch = []) (batch : k'.batch = w.agenda.dueTimers t) (z : Timer (Reaction σ)) :
    Moment.Live ⟨w.taking t, .tick k' :: fs⟩ z ↔ Moment.Live ⟨w, .tick k :: fs⟩ z := by
  change z ∈ (w.agenda.takeDue t).timers ∨ z ∈ batches (k' :: Frames.ticks fs) ↔
    z ∈ w.agenda.timers ∨ z ∈ batches (k :: Frames.ticks fs)
  rw [batches_cons, batches_cons, empty, batch, List.nil_append, List.mem_append, ← or_assoc]
  refine or_congr ?_ Iff.rfl
  rw [Agenda.mem_takeDue, Agenda.mem_dueTimers, ← and_or_left]
  exact and_iff_left (Int.lt_or_le t.nanos z.deadline.nanos)

theorem live_first {w : World σ} {fs : Frames σ} {k : Ticking σ} {z : Timer (Reaction σ)}
    {rest : List (Timer (Reaction σ))} (batch : k.batch = z :: rest) :
    Moment.Live ⟨w, .tick k :: fs⟩ z := by
  right
  change z ∈ batches (k :: Frames.ticks fs)
  rw [batches_cons, batch]
  exact .head _

/-- What is live after the first of a batch has started was live before. -/
theorem live_rest {w : World σ} {fs : Frames σ} {k : Ticking σ} {z : Timer (Reaction σ)}
    {rest : List (Timer (Reaction σ))} (batch : k.batch = z :: rest) {y : Timer (Reaction σ)} :
    Moment.Live ⟨w, .tick k :: fs⟩ y ↔
      y = z ∨ Moment.Live ⟨w, .tick { k with batch := rest } :: fs⟩ y := by
  change y ∈ w.agenda.timers ∨ y ∈ batches (k :: Frames.ticks fs) ↔
    y = z ∨ y ∈ w.agenda.timers ∨ y ∈ batches ({ k with batch := rest } :: Frames.ticks fs)
  rw [batches_cons, batches_cons, batch, List.cons_append, List.mem_cons]
  exact or_left_comm

/-- What is live after a write was live before or is the timer of the write. -/
theorem live_write {w w' : World σ} {fs : Frames σ} {x : Write} (wrote : Wrote w x w')
    {z : Timer (Reaction σ)} (live : Moment.Live ⟨w', fs⟩ z) : Moment.Live ⟨w, fs⟩ z ∨
      ∃ d, x.lifetime = some d ∧ z = ⟨w.agenda.nextTimer, x.reading.add d, .expiry x.name⟩ := by
  rcases live with known | waits
  · obtain ⟨-, old | new⟩ := (wrote.timers z).mp known
    · exact .inl (.inl old)
    · exact .inr new
  · exact .inl (.inr waits)

theorem Reaction.Within.not_expiry {task : Reaction σ} (within : task.Within rule) (name : String) :
    task ≠ .expiry name := by
  rintro rfl
  exact within

theorem Mark.isRemote_of_plain {m : Mark} (plain : m.isPlain = true) : m.isRemote = true := by
  cases m <;> first | rfl | cases plain

theorem Step.keeping {m m' : Moment σ} (step : Step Rule.storing m m')
    (proper : Frames.Proper m.frames) : Keeping m m' := by
  cases step with
  | @code w w' fs ready move =>
    have same : ∀ {w' : World σ}, (∃ later, w'.journal = later ++ w.journal ∧
        ∀ k ∈ later, k.isRemote = true) → w'.slots = w.slots → w'.storeHeld = w.storeHeld →
        w'.agenda.timers = w.agenda.timers → Keeping ⟨w, fs⟩ ⟨w', fs⟩ := by
      intro w' journal slots storeHeld timers
      refine .still ⟨ready, ready, journal, slots, storeHeld, fun z => or_congr ?_ Iff.rfl⟩
      rw [timers]
    cases move with
    | apart apart =>
      exact same ⟨[], apart.journal, by simp⟩ apart.slots apart.storeHeld apart.timers
    | plain plain =>
      exact same ⟨[_], rfl, by simpa using Mark.isRemote_of_plain plain⟩ rfl rfl rfl
    | arm within => exact .arm ready within.not_expiry
    | cancel permitted => exact permitted.elim
    | @drop withStore permitted =>
      obtain rfl : withStore = false := permitted
      exact same ⟨[], rfl, by simp⟩ rfl (Bool.and_true _) rfl
    | write =>
      obtain ⟨x, -, -, -, -, wrote⟩ := w.writing_wrote _ _ _
      exact .write ready wrote
  | begin ready =>
    exact .still ⟨ready, trivial, ⟨[_], rfl, by simp [Mark.isRemote]⟩, rfl, rfl, fun _ => Iff.rfl⟩
  | second =>
    exact .still ⟨trivial, trivial, ⟨[_, _], rfl, by simp [Mark.isRemote]⟩, rfl, rfl,
      live_take rfl rfl⟩
  | close =>
    exact .still ⟨trivial, trivial, ⟨[_], rfl, by simp [Mark.isRemote]⟩, rfl, rfl,
      live_take rfl rfl⟩
  | fire batch within => exact .fire batch within.not_expiry
  | lapse batch task => exact .lapse batch task
  | serve =>
    exact .still ⟨trivial, trivial, ⟨[_], rfl, by simp [Mark.isRemote]⟩, rfl, rfl, fun _ => Iff.rfl⟩
  | ask _ permitted => exact permitted.elim
  | expire => exact .expire proper.1
  | finish =>
    exact .still ⟨trivial, proper.1, ⟨[_], rfl, by simp [Mark.isRemote]⟩, rfl, rfl,
      fun _ => Iff.rfl⟩

end Reflex
