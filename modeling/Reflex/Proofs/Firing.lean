import Mathlib.Data.List.Forall2
import Reflex.Proofs.Courses
import Reflex.Proofs.Sessions
import Reflex.Proofs.Timers

/-! The firing of timers: each at most once, never before its deadline, none forgotten by a
tick, and in the order of their deadlines and then of their arming. -/
namespace Reflex
open History Relation Engine

variable {σ : Type}

namespace History

/-- A timer starts in a tick that reads its deadline or later. -/
def StartsInTime (earlier : History) : Mark → Prop
  | .timerStarted i =>
    ∃ k ∈ (running earlier).head?, ∃ d, (i, d) ∈ armed earlier ∧ d ≤ k.reading
  | _ => True

/-- When a tick ends, the timers that were pending when it began and due have started,
unless they were cancelled. -/
def AllFired (earlier : History) : Mark → Prop
  | .tickEnded _ => ∀ k ∈ (running earlier).head?, ∀ i d, Pending k.before i d → d ≤ k.reading →
      i ∈ started earlier ∨ i ∈ cancelled earlier
  | _ => True

/-- Of the timers that were pending when a tick began, those that it has started come before
the next one that it starts. -/
def StartsInOrder (earlier : History) : Mark → Prop
  | .timerStarted j => ∀ k ∈ (running earlier).head?, ∀ i d d', Pending k.before i d →
      Pending k.before j d' → i ∈ started earlier → d < d' ∨ d = d' ∧ i < j
  | _ => True

/-- No tick begins inside another. -/
abbrev BeganAlone : History → Mark → Prop := WhenBegun fun earlier _ _ => running earlier = []

/-- No timer waits in a batch when a tick begins. -/
abbrev BeganRested : History → Mark → Prop := WhenBegun fun earlier _ _ => waiting earlier = []

abbrev Flat : History → Prop := Everywhere BeganAlone

end History

/-- What a tick in progress has taken is due, and its seconds reach up to its reading. -/
structure Serves (k : Begun) (f : Ticking σ) : Prop where
  reading : f.reading = k.reading
  due : ∀ x ∈ f.batch, x.deadline ≤ k.reading
  last : 0 < f.left → f.next.addSeconds f.left = f.reading.truncate.addSeconds 1

structure Timely (w : World σ) (ks : List (Ticking σ)) : Prop where
  held : Held w ks
  wholeLast : ∀ last, w.agenda.lastTick = some last → last.Whole
  stack : List.Forall₂ Serves (running w.journal) ks
  inTime : Everywhere StartsInTime w.journal

section Serves

variable {k : Begun} {reading next : Instant} {planned left : Nat} {w : World σ}

/-- The timers taken for a second are due, as the second is not after the reading. -/
theorem Serves.second
    (serves : Serves k (⟨reading, planned, next, left + 1, false, []⟩ : Ticking σ)) :
    Serves k ⟨reading, planned, next.addSeconds 1, left, false, w.agenda.dueTimers next⟩ := by
  have ends := Instant.eq_iff.mp (serves.last (Nat.succ_pos left))
  have upTo := Instant.truncate_le k.reading
  have reads : reading = k.reading := serves.reading
  simp only [Instant.addSeconds_nanos, reads] at ends
  rw [Instant.le_iff] at upTo
  refine ⟨serves.reading, ?_, ?_⟩
  · intro x taken
    have early := (Agenda.mem_dueTimers.mp taken).2
    rw [Instant.le_iff] at early ⊢
    omega
  · intro _
    rw [reads]
    simp only [Instant.eq_iff, Instant.addSeconds_nanos]
    omega

theorem Serves.close (serves : Serves k (⟨reading, planned, next, 0, false, []⟩ : Ticking σ)) :
    Serves k ⟨reading, planned, next, 0, true, w.agenda.dueTimers reading⟩ := by
  refine ⟨serves.reading, ?_, fun none => (nomatch none)⟩
  intro x taken
  rw [← serves.reading]
  exact (Agenda.mem_dueTimers.mp taken).2

theorem Serves.fire {f : Ticking σ} {x : Timer (Reaction σ)} {rest : List (Timer (Reaction σ))}
    (serves : Serves k f) (batch : f.batch = x :: rest) : Serves k { f with batch := rest } :=
  ⟨serves.reading, fun y left => serves.due y (batch ▸ .tail _ left), serves.last⟩

end Serves

theorem isTick_of_idle {m : Mark} (idle : m.isIdle = true) : m.isTick = false := by
  cases m <;> first | rfl | cases idle

namespace Timely

variable {w w' : World σ} {ks ks' : List (Ticking σ)}

theorem start (clock : Instant) (devices : List Device) (memory : σ) :
    Timely (.start clock devices memory) [] where
  held := .start clock devices memory
  wholeLast _ none := nomatch none
  stack := .nil
  inTime := .nil

theorem shift (timely : Timely w ks) (shift : Shift w w') : Timely w' ks := by
  have held := timely.held.shift shift
  cases shift with
  | idle idle =>
    obtain ⟨⟨later, journal, quiet⟩, -, -, lastTick⟩ := idle
    refine ⟨held, by rw [lastTick]; exact timely.wholeLast, ?_, ?_⟩ <;> rw [journal]
    · rw [running_append fun m member => isTick_of_idle (quiet m member)]
      exact timely.stack
    · refine timely.inTime.append ?_
      intro m member J
      have first := quiet m member
      cases m <;> trivial
  | arm => exact ⟨held, timely.wholeLast, timely.stack, .cons trivial timely.inTime⟩
  | cancel => exact ⟨held, timely.wholeLast, timely.stack, .cons trivial timely.inTime⟩

/-- The latest tick goes on and the others stay. -/
theorem replace {f f' : Ticking σ} (timely : Timely w (f :: ks))
    (runs : running w'.journal = running w.journal) (goes : ∀ {k}, Serves k f → Serves k f') :
    List.Forall₂ Serves (running w'.journal) (f' :: ks) := by
  obtain ⟨k, outer, serves, stack, known⟩ := List.forall₂_cons_right_iff.mp timely.stack
  rw [runs, known]
  exact .cons (goes serves) stack

/-- A timer that is about to start is due. -/
theorem next_in_time {f : Ticking σ} {x : Timer (Reaction σ)} {rest : List (Timer (Reaction σ))}
    (timely : Timely w (f :: ks)) (batch : f.batch = x :: rest) :
    StartsInTime w.journal (.timerStarted x.id) := by
  obtain ⟨k, outer, serves, -, runs⟩ := List.forall₂_cons_right_iff.mp timely.stack
  have armed := (timely.held.batch x (by simp [batches_cons, batch])).1
  exact ⟨k, by simp [runs], x.deadline, armed, serves.due x (batch ▸ .head _)⟩

theorem handle (timely : Timely w ks) (handling : Handling w ks w' ks') : Timely w' ks' := by
  have held := timely.held.handle handling
  have wholeLast := timely.wholeLast
  cases handling with
  | shift shifts =>
    clear held wholeLast
    induction shifts with
    | refl => exact timely
    | tail _ last ih => exact ih.shift last
  | begin =>
    refine ⟨held, ?_, .cons ⟨rfl, fun _ none => (nomatch none), ?_⟩ timely.stack,
      .cons trivial timely.inTime⟩
    · intro last same
      obtain rfl := Option.some.inj same
      exact w.clock.whole_truncate
    · exact Agenda.plan_last wholeLast w.clock.whole_truncate
  | second =>
    exact ⟨held, wholeLast, timely.replace rfl Serves.second,
      .cons trivial (.cons trivial timely.inTime)⟩
  | close =>
    exact ⟨held, wholeLast, timely.replace rfl Serves.close, .cons trivial timely.inTime⟩
  | start batch =>
    exact ⟨held, wholeLast, timely.replace rfl fun serves => serves.fire batch,
      .cons (timely.next_in_time batch) timely.inTime⟩
  | finish =>
    obtain ⟨k, outer, serves, stack, runs⟩ := List.forall₂_cons_right_iff.mp timely.stack
    refine ⟨held, wholeLast, ?_, .cons trivial timely.inTime⟩
    change List.Forall₂ _ (running w.journal).tail _
    rw [runs]
    exact stack

end Timely

/-- While a tick runs, the timers that were pending when it began are split by their order:
those that started, those in the batch, and those on the agenda. -/
structure Ordered (w : World σ) (k : Begun) (f : Ticking σ) : Prop where
  closed : f.closing = true → ∀ x ∈ w.agenda.timers, Pending k.before x.id x.deadline →
    k.reading < x.deadline
  sorted : f.batch.Pairwise Timer.Before
  front : ∀ i d, Pending k.before i d → i ∈ started w.journal → ∀ x ∈ f.batch,
    Pending k.before x.id x.deadline → d < x.deadline ∨ d = x.deadline ∧ i < x.id
  back : ∀ i d, Pending k.before i d → (i ∈ started w.journal ∨ ∃ x ∈ f.batch, x.id = i) →
    ∀ y ∈ w.agenda.timers, Pending k.before y.id y.deadline → d < y.deadline

/-- Of what was pending when a tick began nothing has started then. -/
theorem Ordered.begin {w : World σ} {reading next : Instant} {planned left : Nat} :
    Ordered w.beginning ⟨w.clock, w.journal⟩ ⟨reading, planned, next, left, false, []⟩ := by
  refine ⟨?_, .nil, ?_, ?_⟩
  · intro done
    cases done
  · intro i d pending begun
    exact absurd begun pending.started
  · rintro i d pending (begun | ⟨x, taken, -⟩)
    · exact absurd begun pending.started
    · cases taken

theorem Ordered.shift {w w' : World σ} {k : Begun} {f : Ticking σ} {ks : List (Ticking σ)}
    (ordered : Ordered w k f) (held : Held w ks) (runs : k ∈ running w.journal)
    (shift : Shift w w') : Ordered w' k f := by
  obtain ⟨closed, sorted, front, back⟩ := ordered
  cases shift with
  | idle idle =>
    obtain ⟨⟨later, journal, quiet⟩, timers, -, -⟩ := idle
    have same : started w'.journal = started w.journal := by rw [journal, started_append quiet]
    exact ⟨by rw [timers]; exact closed, sorted, by rw [same]; exact front,
      by rw [same, timers]; exact back⟩
  | @arm d task =>
    -- The new timer was not pending when the tick began.
    have old : ∀ x ∈ (w.arming d task).agenda.timers, Pending k.before x.id x.deadline →
        x ∈ w.agenda.timers := by
      intro x member pending
      rcases List.mem_append.mp member with old | new
      · exact old
      · have fresh := held.armedFresh _ (running_armed runs pending.armed)
        rw [List.mem_singleton.mp new] at fresh
        exact absurd fresh (Nat.lt_irrefl _)
    exact ⟨fun done x member pending => closed done x (old x member pending) pending, sorted,
      front, fun i d pending begun y member also =>
        back i d pending begun y (old y member also) also⟩
  | @cancel id =>
    have old : ∀ x ∈ (w.cancelling id).agenda.timers, x ∈ w.agenda.timers :=
      fun x member => (List.mem_filter.mp member).1
    exact ⟨fun done x member => closed done x (old x member), sorted, front,
      fun i d pending begun y member => back i d pending begun y (old y member)⟩

theorem Ordered.take {w : World σ} {k : Begun} {f f' : Ticking σ} {ks : List (Ticking σ)}
    (ordered : Ordered w k f) (held : Held w ks) (runs : k ∈ running w.journal) (t : Instant)
    (batch : f'.batch = w.agenda.dueTimers t) (last : f'.closing = true → t = k.reading) :
    Ordered (w.taking t) k f' := by
  obtain ⟨-, -, -, back⟩ := ordered
  refine ⟨?_, ?_, ?_, ?_⟩
  · intro done x member _
    rw [← last done]
    exact (Agenda.mem_takeDue.mp member).2
  · rw [batch]
    exact Agenda.dueTimers_before held.agendaOrder
  · intro i d pending begun x member also
    rw [batch] at member
    exact .inl (back i d pending (.inl begun) x (Agenda.mem_dueTimers.mp member).1 also)
  · intro i d pending begun y member also
    obtain ⟨old, late⟩ := Agenda.mem_takeDue.mp member
    rcases begun with begun | ⟨x, taken, rfl⟩
    · exact back i d pending (.inl begun) y old also
    · rw [batch] at taken
      obtain ⟨known, early⟩ := Agenda.mem_dueTimers.mp taken
      obtain rfl := held.deadline_unique (held.timer_pending known).armed
        (running_armed runs pending.armed)
      exact Int.lt_of_le_of_lt early late

theorem Ordered.fire {w : World σ} {k : Begun} {f : Ticking σ} {ks : List (Ticking σ)}
    {x : Timer (Reaction σ)} {rest : List (Timer (Reaction σ))} (ordered : Ordered w k f)
    (held : Held w (f :: ks)) (runs : k ∈ running w.journal) (batch : f.batch = x :: rest) :
    Ordered (w.marked (.timerStarted x.id)) k { f with batch := rest } := by
  obtain ⟨closed, sorted, front, back⟩ := ordered
  rw [batch] at sorted
  obtain ⟨first, sorted⟩ := List.pairwise_cons.mp sorted
  refine ⟨closed, sorted, ?_, ?_⟩
  · intro i d pending begun y member also
    rcases List.mem_cons.mp begun with rfl | begun
    · have armed := (held.batch x (by simp [batches_cons, batch])).1
      obtain rfl := held.deadline_unique armed (running_armed runs pending.armed)
      exact first y member
    · exact front i d pending begun y (batch ▸ .tail _ member) also
  · intro i d pending begun y member also
    refine back i d pending ?_ y member also
    rcases begun with begun | ⟨z, member, same⟩
    · rcases List.mem_cons.mp begun with rfl | begun
      · exact .inr ⟨x, batch ▸ .head _, rfl⟩
      · exact .inl begun
    · exact .inr ⟨z, batch ▸ .tail _ member, same⟩

/-- With a single tick in progress there is nothing else to show. -/
theorem Ordered.alone {w : World σ} {k : Begun} {f : Ticking σ} (ordered : Ordered w k f)
    (runs : running w.journal = [k]) : ∀ k ∈ running w.journal, ∀ f' ∈ [f], Ordered w k f' := by
  rw [runs]
  intro k' member f' also
  obtain rfl := List.mem_singleton.mp member
  obtain rfl := List.mem_singleton.mp also
  exact ordered

/-- The invariant of a history in which no tick begins inside another. -/
structure Orderly (w : World σ) (ks : List (Ticking σ)) : Prop where
  timely : Timely w ks
  alone : ks.length ≤ 1
  ordered : ∀ k ∈ running w.journal, ∀ f ∈ ks, Ordered w k f
  rested : Everywhere BeganRested w.journal
  fired : Everywhere AllFired w.journal
  inOrder : Everywhere StartsInOrder w.journal

namespace Orderly

variable {w w' : World σ} {ks ks' : List (Ticking σ)}

theorem start (clock : Instant) (devices : List Device) (memory : σ) :
    Orderly (.start clock devices memory) [] where
  timely := .start clock devices memory
  alone := Nat.zero_le 1
  ordered _ member := nomatch member
  rested := .nil
  fired := .nil
  inOrder := .nil

theorem shift (orderly : Orderly w ks) (shift : Shift w w') : Orderly w' ks := by
  obtain ⟨timely, alone, ordered, rested, fired, inOrder⟩ := orderly
  have still : running w'.journal = running w.journal ∧ Everywhere BeganRested w'.journal ∧
      Everywhere AllFired w'.journal ∧ Everywhere StartsInOrder w'.journal := by
    cases shift with
    | idle idle =>
      obtain ⟨⟨later, journal, quiet⟩, -⟩ := idle
      rw [journal]
      refine ⟨running_append fun m member => isTick_of_idle (quiet m member),
        rested.append fun m member J => ?_, fired.append fun m member J => ?_,
        inOrder.append fun m member J => ?_⟩ <;>
      · have first := quiet m member
        cases m <;> trivial
    | arm => exact ⟨rfl, .cons trivial rested, .cons trivial fired, .cons trivial inOrder⟩
    | cancel => exact ⟨rfl, .cons trivial rested, .cons trivial fired, .cons trivial inOrder⟩
  obtain ⟨runs, rested, fired, inOrder⟩ := still
  refine ⟨timely.shift shift, alone, ?_, rested, fired, inOrder⟩
  rw [runs]
  exact fun k member f also => (ordered k member f also).shift timely.held member shift

/-- With one tick in progress at most, the journal's and the machine's are the same. -/
theorem single (orderly : Orderly w (f :: ks)) :
    ks = [] ∧ ∃ k, running w.journal = [k] ∧ Serves k f ∧ Ordered w k f := by
  have none : ks.length ≤ 0 := Nat.le_of_succ_le_succ orderly.alone
  obtain rfl : ks = [] := List.length_eq_zero_iff.mp (Nat.le_zero.mp none)
  obtain ⟨k, outer, serves, none, runs⟩ := List.forall₂_cons_right_iff.mp orderly.timely.stack
  cases none
  exact ⟨rfl, k, runs, serves, orderly.ordered k (by simp [runs]) f (.head _)⟩

/-- The next of the batch comes after all that have started. -/
theorem next_in_order {f : Ticking σ} {x : Timer (Reaction σ)} {rest : List (Timer (Reaction σ))}
    (orderly : Orderly w (f :: ks)) (batch : f.batch = x :: rest) :
    StartsInOrder w.journal (.timerStarted x.id) := by
  obtain ⟨-, k, runs, -, ordered⟩ := orderly.single
  have held := orderly.timely.held
  have known : k ∈ running w.journal := by simp [runs]
  intro k' latest i d d' pending also begun
  rw [runs] at latest
  obtain rfl : k = k' := Option.some.inj latest
  have armed := (held.batch x (by simp [batches_cons, batch])).1
  obtain rfl := held.deadline_unique armed (running_armed known also.armed)
  exact ordered.front i d pending begun x (batch ▸ .head _) also

/-- A tick that has taken what is due at its reading and fired it leaves nothing behind. -/
theorem all_fired {reading next : Instant} {planned : Nat}
    (orderly : Orderly w (⟨reading, planned, next, 0, true, []⟩ :: ks)) :
    AllFired w.journal (.tickEnded planned) := by
  obtain ⟨rfl, k, runs, -, ordered⟩ := orderly.single
  have held := orderly.timely.held
  have known : k ∈ running w.journal := by simp [runs]
  intro k' latest i d pending due
  rw [runs] at latest
  obtain rfl : k = k' := Option.some.inj latest
  by_contra neither
  obtain ⟨notStarted, notCancelled⟩ := not_or.mp neither
  have notWaiting : i ∉ waiting w.journal := by
    rw [held.waiting]
    exact List.not_mem_nil
  obtain ⟨x, left, rfl, rfl⟩ := (held.pending i d).mpr
    ⟨running_armed known pending.armed, notStarted, notCancelled, notWaiting⟩
  exact Int.not_lt.mpr due (ordered.closed rfl x left pending)

theorem handle (orderly : Orderly w ks) (handling : Handling w ks w' ks')
    (flat : Flat w'.journal) : Orderly w' ks' := by
  have timely := orderly.timely.handle handling
  cases handling with
  | shift shifts =>
    clear timely flat
    induction shifts with
    | refl => exact orderly
    | tail _ last ih => exact ih.shift last
  | begin =>
    have none : running w.journal = [] := flat.head
    have stack := orderly.timely.stack
    rw [none] at stack
    cases stack
    have rests : waiting w.journal = [] := orderly.timely.held.waiting
    exact ⟨timely, Nat.le_refl 1, Ordered.begin.alone (congrArg _ none),
      .cons rests orderly.rested, .cons trivial orderly.fired, .cons trivial orderly.inOrder⟩
  | @second _ reading next planned left =>
    obtain ⟨rfl, k, runs, serves, ordered⟩ := orderly.single
    have marked : Ordered (w.marked (.second next)) k _ :=
      ⟨ordered.closed, ordered.sorted, ordered.front, ordered.back⟩
    have held : Held (w.marked (.second next)) _ :=
      orderly.timely.held.of_same rfl rfl ⟨rfl, rfl, rfl, rfl⟩ rfl
    refine ⟨timely, Nat.le_refl 1, Ordered.alone ?_ runs,
      .cons trivial (.cons trivial orderly.rested), .cons trivial (.cons trivial orderly.fired),
      .cons trivial (.cons trivial orderly.inOrder)⟩
    refine marked.take held ?_ next rfl fun done => nomatch done
    change k ∈ running w.journal
    rw [runs]
    exact .head _
  | close =>
    obtain ⟨rfl, k, runs, serves, ordered⟩ := orderly.single
    refine ⟨timely, Nat.le_refl 1, Ordered.alone ?_ runs, .cons trivial orderly.rested,
      .cons trivial orderly.fired, .cons trivial orderly.inOrder⟩
    exact ordered.take orderly.timely.held (by simp [runs]) _ rfl
      fun _ => serves.reading
  | start batch =>
    have inOrder := orderly.next_in_order batch
    obtain ⟨rfl, k, runs, -, ordered⟩ := orderly.single
    refine ⟨timely, Nat.le_refl 1, Ordered.alone ?_ runs, .cons trivial orderly.rested,
      .cons trivial orderly.fired, .cons inOrder orderly.inOrder⟩
    exact ordered.fire orderly.timely.held (by simp [runs]) batch
  | finish =>
    have fired := orderly.all_fired
    obtain ⟨rfl, -⟩ := orderly.single
    exact ⟨timely, Nat.zero_le 1, fun _ _ _ none => (nomatch none), .cons trivial orderly.rested,
      .cons fired orderly.fired, .cons trivial orderly.inOrder⟩

end Orderly

theorem Reached.timely {rule : Rule} {m : Moment σ} (reached : Reached rule m) :
    Timely m.world (Frames.ticks m.frames) :=
  reached.invariant (P := fun m => Timely m.world (Frames.ticks m.frames))
    (fun clock devices memory => .start clock devices memory)
    fun _ timely step => timely.handle step.handling

theorem Reached.orderly {rule : Rule} {m : Moment σ} (reached : Reached rule m)
    (flat : Flat m.world.journal) : Orderly m.world (Frames.ticks m.frames) :=
  reached.invariant_while (P := fun m => Orderly m.world (Frames.ticks m.frames))
    (fun clock devices memory => .start clock devices memory)
    (fun _ orderly step flat => orderly.handle step.handling flat) flat

/-- What a history tells of its timers. Their numbers increase in the order of arming. -/
structure TimersKept (w : World σ) : Prop where
  pending : ∀ i d, (∃ x ∈ w.agenda.timers, x.id = i ∧ x.deadline = d) ↔ Pending w.journal i d
  numbered : (armed w.journal).Pairwise fun x y => y.1 < x.1
  once : (started w.journal).Nodup
  inTime : Everywhere StartsInTime w.journal
  fired : Flat w.journal → Everywhere AllFired w.journal
  inOrder : Flat w.journal → Everywhere StartsInOrder w.journal

/-- Whatever code arms, cancels, writes or breaks while timers fire, and however the clock
moves, each timer is fired once, in time and in turn, and none is lost. -/
theorem timers_kept {e : Bool} {w : World σ} (session : Session Rule.free e w) : TimersKept w := by
  obtain ⟨-, fs, reached, -⟩ := session.reached Rule.free_open
  have timely : Timely w _ := reached.timely
  have held := timely.held
  refine ⟨held.pending, held.armedOrder, held.startedNodup, timely.inTime, ?_, ?_⟩
  · intro flat
    exact (reached.orderly flat).fired
  · intro flat
    exact (reached.orderly flat).inOrder

/-- Four timers, of which the first arms another, cancels the last and fails, and a clock that
jumps past all of them and then back. -/
def alarms : Program Unit :=
  .request .tick fun _ =>
    .once (.ofSeconds 1)
      (.once .zero (.done true) fun _ => .request (.cancel 3) fun _ => .fail .dropped)
      fun _ => .once (.ofMillis 1500) (.done true)
        fun _ => .once (.ofSeconds 1) (.perform (.set "door" .null (some (.ofSeconds 1))))
          fun _ => .once (.ofMillis 2200) (.done true)
            fun _ => .request (.setClock ⟨2800000000⟩) fun _ => .request .tick
              fun _ => .request (.setClock ⟨700000000⟩) fun _ => .perform .tick

def alarmsWorld : World Unit := (run 3 alarms (.start ⟨500000000⟩ [] ())).2

theorem alarms_session : Session Rule.free true alarmsWorld :=
  .run_ended (.start ⟨500000000⟩ [] ()) alarms.within_free (by decide +kernel)

theorem timers_kept_alarms :
    Session Rule.free true alarmsWorld ∧ Flat alarmsWorld.journal ∧
      started alarmsWorld.journal = [4, 1, 2, 0] ∧ cancelled alarmsWorld.journal = [3] ∧
      TimersKept alarmsWorld :=
  ⟨alarms_session, by decide +kernel, by decide +kernel, by decide +kernel,
    timers_kept alarms_session⟩

end Reflex
