import Mathlib.Data.List.Nodup
import Reflex.Proofs.Agenda
import Reflex.Proofs.History
import Reflex.Proofs.Moments

/-! The steps of the machine as far as timers go, and where every timer is: on the agenda
until it is cancelled or taken, then in the batch of a tick until it starts. -/
namespace Reflex
open History Relation

variable {σ : Type} {rule : Rule}

/-- No timer and no tick gets anywhere. -/
structure World.Idle (w w' : World σ) : Prop where
  journal : ∃ later, w'.journal = later ++ w.journal ∧ ∀ m ∈ later, m.isIdle = true
  timers : w'.agenda.timers = w.agenda.timers
  nextTimer : w'.agenda.nextTimer = w.agenda.nextTimer
  lastTick : w'.agenda.lastTick = w.agenda.lastTick

/-- What code does to timers. -/
inductive Shift : World σ → World σ → Prop
  | idle {w w' : World σ} : w.Idle w' → Shift w w'
  | arm {w : World σ} {d : Span} {task : Reaction σ} : Shift w (w.arming d task)
  | cancel {w : World σ} {id : Nat} : Shift w (w.cancelling id)

namespace Shift

variable {w w' : World σ}

theorem of_same (journal : w'.journal = w.journal) (timers : w'.agenda.timers = w.agenda.timers)
    (nextTimer : w'.agenda.nextTimer = w.agenda.nextTimer)
    (lastTick : w'.agenda.lastTick = w.agenda.lastTick) : Shift w w' :=
  .idle ⟨⟨[], journal, by simp⟩, timers, nextTimer, lastTick⟩

theorem marked (w : World σ) {m : Mark} (idle : m.isIdle = true) : Shift w (w.marked m) :=
  .idle ⟨⟨[m], rfl, by simpa using idle⟩, rfl, rfl, rfl⟩

theorem storing (w : World σ) (name : String) (slot : Slot) : Shift w (w.storing name slot) :=
  of_same rfl rfl rfl rfl

theorem absorbs : World.Absorbs (ReflTransGen (Shift : World σ → World σ → Prop)) where
  refl _ := .refl
  trans := .trans
  store w name slot := .single (storing w name slot)
  arm _ _ _ := .single .arm
  cancel _ _ := .single .cancel
  written w _ := .single (marked w rfl)

theorem lapsing (w : World σ) (name : String) : ReflTransGen Shift w (w.lapsing name) :=
  absorbs.lapsing (fun w => .single (marked w rfl)) w

theorem isIdle_of_plain {m : Mark} (plain : m.isPlain = true) : m.isIdle = true := by
  cases m <;> first | rfl | cases plain

theorem of_move (move : Move rule w w') : ReflTransGen Shift w w' := by
  cases move with
  | apart apart =>
    exact .single (of_same apart.journal apart.timers apart.nextTimer apart.lastTick)
  | plain plain => exact .single (marked w (isIdle_of_plain plain))
  | arm => exact .single .arm
  | cancel => exact .single .cancel
  | drop => exact .single (of_same rfl rfl rfl rfl)
  | write => exact absorbs.writing w _ _ _

end Shift

/-- The ticks in progress, the latest first. -/
def Frames.ticks : Frames σ → List (Ticking σ)
  | [] => []
  | .tick k :: rest => k :: ticks rest
  | .lapse _ _ :: rest => ticks rest

/-- What a step does to timers and to the ticks that fire them. -/
inductive Handling : World σ → List (Ticking σ) → World σ → List (Ticking σ) → Prop
  | shift {w w' : World σ} {ks : List (Ticking σ)} : ReflTransGen Shift w w' → Handling w ks w' ks
  | begin {w : World σ} {ks : List (Ticking σ)} : Handling w ks w.beginning
      (⟨w.clock, w.plan.count, w.plan.first, w.plan.count, false, []⟩ :: ks)
  | second {w : World σ} {ks : List (Ticking σ)} {reading next : Instant} {planned left : Nat} :
      Handling w (⟨reading, planned, next, left + 1, false, []⟩ :: ks)
        ((w.marked (.second next)).taking next)
        (⟨reading, planned, next.addSeconds 1, left, false, w.agenda.dueTimers next⟩ :: ks)
  | close {w : World σ} {ks : List (Ticking σ)} {reading next : Instant} {planned : Nat} :
      Handling w (⟨reading, planned, next, 0, false, []⟩ :: ks) (w.taking reading)
        (⟨reading, planned, next, 0, true, w.agenda.dueTimers reading⟩ :: ks)
  | start {w : World σ} {ks : List (Ticking σ)} {k : Ticking σ} {x : Timer (Reaction σ)}
      {rest : List (Timer (Reaction σ))} : k.batch = x :: rest →
      Handling w (k :: ks) (w.marked (.timerStarted x.id)) ({ k with batch := rest } :: ks)
  | finish {w : World σ} {ks : List (Ticking σ)} {reading next : Instant} {planned : Nat} :
      Handling w (⟨reading, planned, next, 0, true, []⟩ :: ks) (w.marked (.tickEnded planned)) ks

theorem Step.handling {m m' : Moment σ} (step : Step rule m m') :
    Handling m.world (Frames.ticks m.frames) m'.world (Frames.ticks m'.frames) := by
  cases step with
  | code _ move => exact .shift (Shift.of_move move)
  | begin => exact .begin
  | second => exact .second
  | close => exact .close
  | fire batch _ => exact .start batch
  | lapse batch _ => exact .start batch
  | serve => exact .shift (.single (Shift.marked _ rfl))
  | ask => exact .shift .refl
  | expire => exact .shift (Shift.lapsing _ _)
  | finish => exact .finish

namespace History

/-- Armed, and neither cancelled nor taken. -/
structure Pending (J : History) (timer : Nat) (deadline : Instant) : Prop where
  armed : (timer, deadline) ∈ armed J
  started : timer ∉ started J
  cancelled : timer ∉ cancelled J
  waiting : timer ∉ waiting J

end History

def batches (ks : List (Ticking σ)) : List (Timer (Reaction σ)) := ks.flatMap (·.batch)

theorem batches_cons (k : Ticking σ) (ks : List (Ticking σ)) :
    batches (k :: ks) = k.batch ++ batches ks := List.flatMap_cons

/-- The journal tells where every timer is. Timers are numbered as they are armed. -/
structure Held (w : World σ) (ks : List (Ticking σ)) : Prop where
  armedOrder : (armed w.journal).Pairwise fun x y => y.1 < x.1
  armedFresh : ∀ x ∈ armed w.journal, x.1 < w.agenda.nextTimer
  agendaOrder : w.agenda.timers.Pairwise fun x y => x.id < y.id
  pending : ∀ i d, (∃ x ∈ w.agenda.timers, x.id = i ∧ x.deadline = d) ↔ Pending w.journal i d
  waiting : waiting w.journal = (batches ks).map Timer.id
  waitingNodup : (History.waiting w.journal).Nodup
  batch : ∀ x ∈ batches ks, (x.id, x.deadline) ∈ armed w.journal ∧ x.id ∉ started w.journal ∧
    x.id ∉ cancelled w.journal
  startedNodup : (started w.journal).Nodup
  startedArmed : ∀ i ∈ started w.journal, ∃ d, (i, d) ∈ armed w.journal
  cancelledArmed : ∀ i ∈ cancelled w.journal, ∃ d, (i, d) ∈ armed w.journal

/-- The journals tell the same of timers. -/
structure History.Agree (J J' : History) : Prop where
  armed : armed J' = armed J
  started : started J' = started J
  cancelled : cancelled J' = cancelled J
  waiting : waiting J' = waiting J

namespace Held

variable {w w' : World σ} {ks ks' : List (Ticking σ)}

theorem start (clock : Instant) (devices : List Device) (memory : σ) :
    Held (.start clock devices memory) [] where
  armedOrder := .nil
  armedFresh _ member := nomatch member
  agendaOrder := .nil
  pending _ _ := by
    constructor
    · rintro ⟨x, member, -⟩
      cases member
    · rintro ⟨member, -⟩
      cases member
  waiting := rfl
  waitingNodup := .nil
  batch _ member := nomatch member
  startedNodup := .nil
  startedArmed _ member := nomatch member
  cancelledArmed _ member := nomatch member

/-- Only the timers and what the journal tells of them matters. -/
theorem of_same (held : Held w ks) (timers : w'.agenda.timers = w.agenda.timers)
    (nextTimer : w'.agenda.nextTimer = w.agenda.nextTimer) (agree : Agree w.journal w'.journal)
    (same : batches ks' = batches ks) : Held w' ks' := by
  obtain ⟨armed, started, cancelled, waiting⟩ := agree
  have pending : ∀ i d, Pending w'.journal i d ↔ Pending w.journal i d := by
    intro i d
    constructor <;> intro ⟨a, b, c, e⟩
    · exact ⟨armed ▸ a, started ▸ b, cancelled ▸ c, waiting ▸ e⟩
    · exact ⟨armed ▸ a, started ▸ b, cancelled ▸ c, waiting ▸ e⟩
  refine ⟨armed ▸ held.armedOrder, ?_, timers ▸ held.agendaOrder, ?_, ?_, ?_, ?_, ?_, ?_, ?_⟩
  · rw [armed, nextTimer]
    exact held.armedFresh
  · intro i d
    rw [timers, pending]
    exact held.pending i d
  · rw [waiting, same]
    exact held.waiting
  · rw [waiting]
    exact held.waitingNodup
  · rw [same, armed, started, cancelled]
    exact held.batch
  · rw [started]
    exact held.startedNodup
  · rw [started, armed]
    exact held.startedArmed
  · rw [cancelled, armed]
    exact held.cancelledArmed

theorem idle (held : Held w ks) (idle : w.Idle w') : Held w' ks := by
  obtain ⟨⟨later, journal, quiet⟩, timers, nextTimer, -⟩ := idle
  refine held.of_same timers nextTimer ?_ rfl
  rw [journal]
  exact ⟨armed_append quiet, started_append quiet, cancelled_append quiet, waiting_append quiet⟩

theorem deadline_unique (held : Held w ks) {i : Nat} {d d' : Instant}
    (one : (i, d) ∈ armed w.journal) (other : (i, d') ∈ armed w.journal) : d = d' := by
  have distinct : ((armed w.journal).map Prod.fst).Nodup :=
    List.pairwise_map.mpr (held.armedOrder.imp fun less => Nat.ne_of_gt less)
  exact congrArg Prod.snd (List.inj_on_of_nodup_map distinct one other rfl)

theorem timer_unique (held : Held w ks) {x y : Timer (Reaction σ)} (one : x ∈ w.agenda.timers)
    (other : y ∈ w.agenda.timers) (same : x.id = y.id) : x = y := by
  have distinct : (w.agenda.timers.map Timer.id).Nodup :=
    List.pairwise_map.mpr (held.agendaOrder.imp fun less => Nat.ne_of_lt less)
  exact List.inj_on_of_nodup_map distinct one other same

theorem timer_pending (held : Held w ks) {x : Timer (Reaction σ)} (member : x ∈ w.agenda.timers) :
    Pending w.journal x.id x.deadline :=
  (held.pending x.id x.deadline).mp ⟨x, member, rfl, rfl⟩

theorem started_lt (held : Held w ks) {i : Nat} (member : i ∈ started w.journal) :
    i < w.agenda.nextTimer := by
  obtain ⟨d, armed⟩ := held.startedArmed i member
  exact held.armedFresh _ armed

theorem cancelled_lt (held : Held w ks) {i : Nat} (member : i ∈ cancelled w.journal) :
    i < w.agenda.nextTimer := by
  obtain ⟨d, armed⟩ := held.cancelledArmed i member
  exact held.armedFresh _ armed

theorem waiting_lt (held : Held w ks) {i : Nat} (member : i ∈ History.waiting w.journal) :
    i < w.agenda.nextTimer := by
  rw [held.waiting] at member
  obtain ⟨x, taken, rfl⟩ := List.mem_map.mp member
  exact held.armedFresh _ (held.batch x taken).1

theorem arm (held : Held w ks) (d : Span) (task : Reaction σ) : Held (w.arming d task) ks := by
  have notStarted : w.agenda.nextTimer ∉ started w.journal :=
    fun member => Nat.lt_irrefl _ (held.started_lt member)
  have notCancelled : w.agenda.nextTimer ∉ cancelled w.journal :=
    fun member => Nat.lt_irrefl _ (held.cancelled_lt member)
  have notWaiting : w.agenda.nextTimer ∉ History.waiting w.journal :=
    fun member => Nat.lt_irrefl _ (held.waiting_lt member)
  have older : ∀ x ∈ w.agenda.timers, x.id < w.agenda.nextTimer :=
    fun x member => held.armedFresh _ (held.timer_pending member).armed
  refine ⟨List.pairwise_cons.mpr ⟨held.armedFresh, held.armedOrder⟩, ?_, ?_, ?_, held.waiting,
    held.waitingNodup, ?_, held.startedNodup, ?_, ?_⟩
  · intro x member
    change x.1 < w.agenda.nextTimer + 1
    rcases List.mem_cons.mp member with rfl | old
    · exact Nat.lt_succ_self _
    · exact Nat.lt_succ_of_lt (held.armedFresh x old)
  · refine List.pairwise_append.mpr ⟨held.agendaOrder, List.pairwise_singleton _ _, ?_⟩
    intro x member y new
    rw [List.mem_singleton.mp new]
    exact older x member
  · intro i deadline
    constructor
    · rintro ⟨x, member, rfl, rfl⟩
      rcases List.mem_append.mp member with old | new
      · obtain ⟨a, b, c, e⟩ := held.timer_pending old
        exact ⟨.tail _ a, b, c, e⟩
      · rw [List.mem_singleton.mp new]
        exact ⟨.head _, notStarted, notCancelled, notWaiting⟩
    · rintro ⟨member, b, c, e⟩
      rcases List.mem_cons.mp member with new | old
      · obtain ⟨rfl, rfl⟩ := Prod.mk.inj new
        exact ⟨_, List.mem_append_right _ (.head _), rfl, rfl⟩
      · obtain ⟨x, member, same⟩ := (held.pending i deadline).mpr ⟨old, b, c, e⟩
        exact ⟨x, List.mem_append_left _ member, same⟩
  · intro x member
    obtain ⟨a, b, c⟩ := held.batch x member
    exact ⟨.tail _ a, b, c⟩
  · intro i member
    obtain ⟨d, armed⟩ := held.startedArmed i member
    exact ⟨d, .tail _ armed⟩
  · intro i member
    obtain ⟨d, armed⟩ := held.cancelledArmed i member
    exact ⟨d, .tail _ armed⟩

theorem cancel (held : Held w ks) (id : Nat) : Held (w.cancelling id) ks := by
  have mem : ∀ x, x ∈ (w.cancelling id).agenda.timers ↔ x ∈ w.agenda.timers ∧ x.id ≠ id := by
    intro x
    change x ∈ List.filter _ _ ↔ _
    rw [List.mem_filter, bne_iff_ne]
  have order := held.agendaOrder.filter fun x => x.id != id
  cases found : w.agenda.hasTimer id with
  | false =>
    have absent : ∀ x ∈ w.agenda.timers, x.id ≠ id := by
      simpa [Agenda.hasTimer] using found
    have same : (w.cancelling id).agenda.timers = w.agenda.timers :=
      List.filter_eq_self.mpr fun x member => bne_iff_ne.mpr (absent x member)
    refine held.of_same same rfl ⟨rfl, rfl, ?_, rfl⟩ rfl
    change cancelled (.timerCancelled id (w.agenda.hasTimer id) :: w.journal) = _
    rw [found]
    rfl
  | true =>
    obtain ⟨x, member, rfl⟩ : ∃ x ∈ w.agenda.timers, x.id = id := by
      simpa [Agenda.hasTimer] using found
    have pending := held.timer_pending member
    have journal : (w.cancelling x.id).journal = .timerCancelled x.id true :: w.journal := by
      rw [← found]
      rfl
    refine ⟨?_, ?_, order, fun i d => ?_, ?_, ?_, ?_, ?_, ?_, ?_⟩ <;> rw [journal]
    · exact held.armedOrder
    · exact held.armedFresh
    · constructor
      · rintro ⟨y, left, rfl, rfl⟩
        obtain ⟨old, other⟩ := (mem y).mp left
        obtain ⟨a, b, c, e⟩ := held.timer_pending old
        exact ⟨a, b, List.not_mem_cons_of_ne_of_not_mem other c, e⟩
      · rintro ⟨a, b, c, e⟩
        obtain ⟨other, kept⟩ := List.ne_and_not_mem_of_not_mem_cons c
        obtain ⟨y, old, rfl, rfl⟩ := (held.pending i d).mpr ⟨a, b, kept, e⟩
        exact ⟨y, (mem y).mpr ⟨old, other⟩, rfl, rfl⟩
    · exact held.waiting
    · exact held.waitingNodup
    · intro y taken
      obtain ⟨a, b, c⟩ := held.batch y taken
      refine ⟨a, b, ?_⟩
      intro now
      rcases List.mem_cons.mp now with same | before
      · apply pending.waiting
        rw [held.waiting, ← same]
        exact List.mem_map_of_mem taken
      · exact c before
    · exact held.startedNodup
    · exact held.startedArmed
    · intro i now
      rcases List.mem_cons.mp now with rfl | before
      · exact ⟨x.deadline, pending.armed⟩
      · exact held.cancelledArmed i before

theorem shift (held : Held w ks) (shift : Shift w w') : Held w' ks := by
  cases shift with
  | idle idle => exact held.idle idle
  | arm => exact held.arm _ _
  | cancel => exact held.cancel _

theorem shifts (held : Held w ks) (shifts : ReflTransGen Shift w w') : Held w' ks := by
  induction shifts with
  | refl => exact held
  | tail _ last ih => exact ih.shift last

/-- The timers that are due at an instant become the batch of the latest tick. -/
theorem take {k k' : Ticking σ} (held : Held w (k :: ks)) (t : Instant) (empty : k.batch = [])
    (batch : k'.batch = w.agenda.dueTimers t) : Held (w.taking t) (k' :: ks) := by
  have before : batches (k :: ks) = batches ks := by rw [batches_cons, empty, List.nil_append]
  have after : batches (k' :: ks) = w.agenda.dueTimers t ++ batches ks := by
    rw [batches_cons, batch]
  have due : ∀ x ∈ w.agenda.dueTimers t, Pending w.journal x.id x.deadline :=
    fun x member => held.timer_pending (Agenda.mem_dueTimers.mp member).1
  have waitingNow : History.waiting (w.taking t).journal =
      (w.agenda.dueTimers t).map Timer.id ++ History.waiting w.journal := rfl
  have mem : ∀ i, i ∈ History.waiting (w.taking t).journal ↔
      (∃ x ∈ w.agenda.dueTimers t, x.id = i) ∨ i ∈ History.waiting w.journal := by
    intro i
    rw [waitingNow, List.mem_append, List.mem_map]
  refine ⟨held.armedOrder, held.armedFresh, held.agendaOrder.filter _, ?_, ?_, ?_, ?_,
    held.startedNodup, held.startedArmed, held.cancelledArmed⟩
  · intro i d
    constructor
    · rintro ⟨x, left, rfl, rfl⟩
      obtain ⟨old, late⟩ := Agenda.mem_takeDue.mp left
      obtain ⟨a, b, c, e⟩ := held.timer_pending old
      refine ⟨a, b, c, ?_⟩
      intro waits
      rcases (mem _).mp waits with ⟨y, taken, same⟩ | waits
      · obtain ⟨member, early⟩ := Agenda.mem_dueTimers.mp taken
        obtain rfl := held.timer_unique member old same
        exact Int.not_lt.mpr early late
      · exact e waits
    · rintro ⟨a, b, c, e⟩
      obtain ⟨untaken, e⟩ := not_or.mp (fun waits => e ((mem i).mpr waits))
      obtain ⟨x, old, rfl, rfl⟩ := (held.pending i d).mpr ⟨a, b, c, e⟩
      refine ⟨x, Agenda.mem_takeDue.mpr ⟨old, Int.not_le.mp ?_⟩, rfl, rfl⟩
      intro early
      exact untaken ⟨x, Agenda.mem_dueTimers.mpr ⟨old, early⟩, rfl⟩
  · rw [waitingNow, after, held.waiting, before, List.map_append]
  · rw [waitingNow]
    refine List.nodup_append.mpr ⟨?_, held.waitingNodup, ?_⟩
    · have distinct :
          ((w.agenda.timers.filter fun x => decide (x.deadline ≤ t)).map Timer.id).Nodup :=
        List.pairwise_map.mpr ((held.agendaOrder.filter _).imp fun less => Nat.ne_of_lt less)
      exact ((Agenda.sortByDeadline_perm _).map _).nodup_iff.mpr distinct
    · rintro i taken j waits rfl
      obtain ⟨x, member, rfl⟩ := List.mem_map.mp taken
      exact (due x member).waiting waits
  · intro x member
    rw [after] at member
    rcases List.mem_append.mp member with taken | older
    · exact ⟨(due x taken).armed, (due x taken).started, (due x taken).cancelled⟩
    · exact held.batch x (before ▸ older)

theorem fire {k : Ticking σ} {x : Timer (Reaction σ)} {rest : List (Timer (Reaction σ))}
    (held : Held w (k :: ks)) (batch : k.batch = x :: rest) :
    Held (w.marked (.timerStarted x.id)) ({ k with batch := rest } :: ks) := by
  have before : batches (k :: ks) = x :: batches ({ k with batch := rest } :: ks) := by
    rw [batches_cons, batch]
    rfl
  have waitingBefore := held.waiting
  rw [before, List.map_cons] at waitingBefore
  have waitingNow : History.waiting (w.marked (.timerStarted x.id)).journal =
      (batches ({ k with batch := rest } :: ks)).map Timer.id := by
    change (History.waiting w.journal).erase x.id = _
    rw [waitingBefore, List.erase_cons_head]
  have nodup := held.waitingNodup
  rw [waitingBefore] at nodup
  obtain ⟨fresh, nodup⟩ := List.nodup_cons.mp nodup
  obtain ⟨armed, notStarted, -⟩ := held.batch x (by simp [before])
  refine ⟨held.armedOrder, held.armedFresh, held.agendaOrder, ?_, waitingNow, ?_, ?_,
    List.nodup_cons.mpr ⟨notStarted, held.startedNodup⟩, ?_, held.cancelledArmed⟩
  · intro i d
    rw [show (∃ y ∈ (w.marked (.timerStarted x.id)).agenda.timers, y.id = i ∧ y.deadline = d) ↔ _
      from held.pending i d]
    constructor
    · rintro ⟨a, b, c, e⟩
      rw [waitingBefore] at e
      obtain ⟨other, e⟩ := List.ne_and_not_mem_of_not_mem_cons e
      exact ⟨a, List.not_mem_cons_of_ne_of_not_mem other b, c, by rw [waitingNow]; exact e⟩
    · rintro ⟨a, b, c, e⟩
      obtain ⟨other, b⟩ := List.ne_and_not_mem_of_not_mem_cons b
      refine ⟨a, b, c, ?_⟩
      rw [waitingBefore]
      rw [waitingNow] at e
      exact List.not_mem_cons_of_ne_of_not_mem other e
  · rw [waitingNow]
    exact nodup
  · intro y member
    obtain ⟨a, b, c⟩ := held.batch y (by rw [before]; exact .tail _ member)
    refine ⟨a, List.not_mem_cons_of_ne_of_not_mem ?_ b, c⟩
    intro same
    exact fresh (same ▸ List.mem_map_of_mem member)
  · intro i member
    rcases List.mem_cons.mp member with rfl | old
    · exact ⟨x.deadline, armed⟩
    · exact held.startedArmed i old

theorem handle (held : Held w ks) (handling : Handling w ks w' ks') : Held w' ks' := by
  cases handling with
  | shift shifts => exact held.shifts shifts
  | begin => exact held.of_same rfl rfl ⟨rfl, rfl, rfl, rfl⟩ rfl
  | @second _ _ next =>
    have marked : Held (w.marked (.second next)) _ :=
      held.of_same rfl rfl ⟨rfl, rfl, rfl, rfl⟩ rfl
    refine marked.take next rfl ?_
    rfl
  | close => exact held.take _ rfl rfl
  | start batch => exact held.fire batch
  | finish => exact held.of_same rfl rfl ⟨rfl, rfl, rfl, rfl⟩ rfl

end Held

end Reflex
