import Reflex.Proofs.Bookings
import Reflex.Proofs.Firing

/-! How long a written value stays. A write that meets no waiting timer of an older write of
its variable governs the variable until the next write or the end of its lifetime; one
that does is reset by that timer. -/
namespace Reflex
open History Engine

variable {σ : Type}

namespace History

/-- No timer of a variable waits in a batch. -/
def Settled (name : String) (J : History) : Prop :=
  ∀ y ∈ writes J, y.name = name → ∀ i ∈ y.timer, i ∉ waiting J

instance (name : String) (J : History) : Decidable (Settled name J) :=
  inferInstanceAs (Decidable (∀ y ∈ writes J, y.name = name → ∀ i ∈ y.timer, i ∉ waiting J))

/-- No timer of an older write waits in a batch when a variable is written. -/
abbrev Undisturbed (name : String) : History → Prop :=
  Everywhere (WhenWritten fun earlier x => x.name = name → Settled name earlier)

theorem settled_arming {J marks : History} {name : String}
    (arming : ∀ m ∈ marks, m.isArming = true) : Settled name (marks ++ J) ↔ Settled name J := by
  unfold Settled
  rw [writes_arming arming, waiting_arming arming]

end History

/-- A variable waits for the timer of its latest write and for no other. -/
structure Governed (name : String) (m : Moment σ) : Prop where
  holder : ∀ z, m.Live z → z.task = .expiry name →
    ∃ v, stored name m.world.journal = some ⟨v, some z.id⟩
  lapsing : ∀ i rest, m.frames = .lapse name (some i) :: rest →
    ∃ v, stored name m.world.journal = some ⟨v, some i⟩
  waits : ∀ v i, stored name m.world.journal = some ⟨v, some i⟩ →
    (∃ z, m.Live z ∧ z.id = i ∧ z.task = .expiry name) ∨
      ∃ rest, m.frames = .lapse name (some i) :: rest
  outcome : ∀ x, latest? name m.world.journal = some x →
    stored name m.world.journal = some ⟨x.value, x.timer⟩ ∨
      ∃ i, x.timer = some i ∧ i ∈ started m.world.journal ∧
        stored name m.world.journal = some ⟨.null, none⟩

namespace Governed

variable {name : String} {m m' : Moment σ}

theorem start (name : String) (clock : Instant) (devices : List Device) (memory : σ) :
    Governed name ⟨.start clock devices memory, []⟩ where
  holder z live := by rcases live with live | live <;> cases live
  lapsing _ _ none := nomatch none
  waits _ _ none := nomatch none
  outcome _ none := nomatch none

theorem still (governed : Governed name m) (still : m.Still m') : Governed name m' := by
  obtain ⟨before, after, ⟨later, journal, remote⟩, -, -, live⟩ := still
  have storedSame : stored name m'.world.journal = stored name m.world.journal := by
    rw [journal, stored_remote remote]
  refine ⟨?_, fun i rest same => absurd same after.not_lapse, ?_, ?_⟩
  · intro z known
    rw [storedSame]
    exact governed.holder z ((live z).mp known)
  · intro v i holds
    rw [storedSame] at holds
    rcases governed.waits v i holds with ⟨z, known, rest⟩ | ⟨rest, same⟩
    · exact .inl ⟨z, (live z).mpr known, rest⟩
    · exact absurd same before.not_lapse
  · intro x latest
    rw [latest?_of_writes (J := m.world.journal) (by rw [journal, writes_remote remote])] at latest
    rw [storedSame, journal, started_remote remote]
    exact governed.outcome x latest

theorem arm {w : World σ} {fs : Frames σ} {d : Span} {task : Reaction σ}
    (governed : Governed name ⟨w, fs⟩) (plain : task ≠ .expiry name) :
    Governed name ⟨w.arming d task, fs⟩ := by
  refine ⟨?_, governed.lapsing, ?_, governed.outcome⟩
  · intro z known expiry
    rcases known with known | waits
    · rcases List.mem_append.mp known with old | new
      · exact governed.holder z (.inl old) expiry
      · rw [List.mem_singleton.mp new] at expiry
        exact absurd expiry plain
    · exact governed.holder z (.inr waits) expiry
  · intro v i holds
    rcases governed.waits v i holds with ⟨z, known, rest⟩ | lapse
    · exact .inl ⟨z, known.imp (List.mem_append_left _) id, rest⟩
    · exact .inr lapse

section Write

variable {w w' : World σ} {fs : Frames σ} {x : Write} (governed : Governed name ⟨w, fs⟩)
  (booked : Booked ⟨w, fs⟩) (held : Held w (Frames.ticks fs)) (wrote : Wrote w x w')
include governed booked held wrote

/-- A settled variable has no timer but that of its latest write after the write too. -/
theorem write_holder (settled : x.name = name → Settled name w.journal) {z : Timer (Reaction σ)}
    (known : Moment.Live ⟨w', fs⟩ z) (task : z.task = .expiry name) :
    ∃ v, stored name w'.journal = some ⟨v, some z.id⟩ := by
  rw [wrote.stored_now]
  rcases known with known | waits
  · obtain ⟨kept, old | ⟨d, lifetime, rfl⟩⟩ := (wrote.timers z).mp known
    · obtain ⟨v, holds⟩ := governed.holder z (.inl old) task
      by_cases same : x.name = name
      · subst same
        exact absurd (booked.expiry_stored holds) kept
      · exact ⟨v, by rw [if_neg same, holds]⟩
    · cases task
      exact ⟨x.value, by rw [if_pos rfl, wrote.timer, lifetime]; rfl⟩
  · obtain ⟨v, holds⟩ := governed.holder z (.inr waits) task
    by_cases same : x.name = name
    · obtain ⟨y, written, named, owner⟩ := booked.owner z (.inr waits) name task
      refine absurd ?_ (settled same y written named z.id owner)
      rw [held.waiting]
      exact List.mem_map_of_mem waits
    · exact ⟨v, by rw [if_neg same, holds]⟩

/-- The timer that a variable waits for after a write is live: a new one has been armed for
it, and that of another variable is not cancelled. -/
theorem write_waits (ready : fs.Open) {v : Value} {i : Nat}
    (holds : stored name w'.journal = some ⟨v, some i⟩) :
    ∃ z, Moment.Live ⟨w', fs⟩ z ∧ z.id = i ∧ z.task = .expiry name := by
  rw [wrote.stored_now] at holds
  by_cases same : x.name = name
  · subst same
    rw [if_pos rfl, wrote.timer] at holds
    obtain ⟨-, own⟩ := Slot.mk.inj (Option.some.inj holds)
    obtain ⟨d, lifetime, rfl⟩ := Option.map_eq_some_iff.mp own
    refine ⟨_, .inl ((wrote.timers _).mpr ⟨?_, .inr ⟨d, lifetime, rfl⟩⟩), rfl, rfl⟩
    intro waits
    obtain ⟨y, latest, older⟩ := booked.expiry_latest waits
    exact booked.timer_older held (latest?_mem latest).1 older
  · rw [if_neg same] at holds
    rcases governed.waits v i holds with ⟨z, old | waits, rfl, task⟩ | ⟨rest, lapse⟩
    · refine ⟨z, .inl ((wrote.timers z).mpr ⟨?_, .inl old⟩), rfl, task⟩
      intro other
      obtain ⟨y, latest, owner⟩ := booked.expiry_latest other
      obtain ⟨y', latest', -, owner'⟩ := latest?_of_stored holds
      obtain ⟨written, named⟩ := latest?_mem latest
      obtain ⟨written', named'⟩ := latest?_mem latest'
      obtain rfl := booked.writer_unique written written' owner owner'
      exact same (named.symm.trans named')
    · exact ⟨z, .inr waits, rfl, task⟩
    · exact absurd lapse ready.not_lapse

theorem write (ready : fs.Open) (undisturbed : Undisturbed name w'.journal) :
    Governed name ⟨w', fs⟩ := by
  have settled : x.name = name → Settled name w.journal := by
    obtain ⟨marks, journal, arming, -⟩ := wrote.journal
    rw [journal] at undisturbed
    exact fun named => (settled_arming arming).mp (undisturbed.head named)
  refine ⟨fun z known task => governed.write_holder booked held wrote settled known task,
    fun i rest same => absurd same ready.not_lapse,
    fun v i holds => .inl (governed.write_waits booked held wrote ready holds), ?_⟩
  intro y latest
  rw [wrote.stored_now, wrote.started_now]
  rw [wrote.latest_now] at latest
  by_cases same : x.name = name
  · rw [if_pos same] at latest
    obtain rfl := Option.some.inj latest
    exact .inl (if_pos same)
  · rw [if_neg same] at latest
    rw [if_neg same]
    exact governed.outcome y latest

end Write

/-- A start leaves what becomes of the latest write as it is. -/
theorem outcome_started (governed : Governed name m) (k : Nat) {x : Write}
    (latest : latest? name m.world.journal = some x) :
    stored name m.world.journal = some ⟨x.value, x.timer⟩ ∨
      ∃ i, x.timer = some i ∧ i ∈ started (.timerStarted k :: m.world.journal) ∧
        stored name m.world.journal = some ⟨.null, none⟩ := by
  refine (governed.outcome x latest).imp id ?_
  rintro ⟨i, own, begun, gone⟩
  exact ⟨i, own, .tail _ begun, gone⟩

theorem fire {w : World σ} {fs : Frames σ} {k : Ticking σ} {z : Timer (Reaction σ)}
    {rest : List (Timer (Reaction σ))} (governed : Governed name ⟨w, .tick k :: fs⟩)
    (batch : k.batch = z :: rest) (plain : z.task ≠ .expiry name) :
    Governed name ⟨w.marked (.timerStarted z.id), .tick { k with batch := rest } :: fs⟩ := by
  refine ⟨fun y live => governed.holder y ((live_rest batch).mpr (.inr live)),
    fun _ _ same => (nomatch same), ?_, fun x latest => governed.outcome_started z.id latest⟩
  intro v i holds
  rcases governed.waits v i holds with ⟨y, live, own, task⟩ | ⟨_, same⟩
  · rcases (live_rest batch).mp live with rfl | live
    · exact absurd task plain
    · exact .inl ⟨y, live, own, task⟩
  · cases same

theorem lapse {w : World σ} {fs : Frames σ} {k : Ticking σ} {z : Timer (Reaction σ)}
    {rest : List (Timer (Reaction σ))} {other : String}
    (governed : Governed name ⟨w, .tick k :: fs⟩) (batch : k.batch = z :: rest)
    (task : z.task = .expiry other) :
    Governed name ⟨w.marked (.timerStarted z.id),
      .lapse other (some z.id) :: .tick { k with batch := rest } :: fs⟩ := by
  refine ⟨fun y live => governed.holder y ((live_rest batch).mpr (.inr live)), ?_, ?_,
    fun x latest => governed.outcome_started z.id latest⟩
  · intro i _ same
    cases same
    exact governed.holder z (live_first batch) task
  · intro v i holds
    rcases governed.waits v i holds with ⟨y, live, own, expiry⟩ | ⟨_, same⟩
    · rcases (live_rest batch).mp live with rfl | live
      · rw [task] at expiry
        cases expiry
        subst own
        exact .inr ⟨_, rfl⟩
      · exact .inl ⟨y, live, own, expiry⟩
    · cases same

theorem expire {w : World σ} {fs : Frames σ} {other : String} {timer : Option Nat}
    (governed : Governed name ⟨w, .lapse other timer :: fs⟩)
    (booked : Booked ⟨w, .lapse other timer :: fs⟩) (held : Held w (Frames.ticks fs))
    (ready : fs.Open) : Governed name ⟨w.expiring other, fs⟩ := by
  obtain ⟨i, J, rfl, journal, -⟩ := booked.lapse other timer fs rfl
  have begun : i ∈ started w.journal := by
    rw [show w.journal = .timerStarted i :: J from journal]
    exact .head _
  have storedNow : stored name (w.expiring other).journal =
      if other = name then some ⟨.null, none⟩ else stored name w.journal := rfl
  have atEnd : other = name → ∃ v, stored name w.journal = some ⟨v, some i⟩ := by
    rintro rfl
    exact governed.lapsing i fs rfl
  refine ⟨?_, fun j rest same => absurd same ready.not_lapse, ?_, ?_⟩
  · intro z live task
    rw [storedNow]
    obtain ⟨v, holds⟩ := governed.holder z live task
    by_cases same : other = name
    · obtain ⟨u, ends⟩ := atEnd same
      obtain ⟨-, own⟩ := Slot.mk.inj (Option.some.inj (holds.symm.trans ends))
      refine absurd begun ?_
      rw [← Option.some.inj own]
      exact (Held.live (m := ⟨w, fs⟩) held live).2
    · exact ⟨v, by rw [if_neg same, holds]⟩
  · intro v j holds
    rw [storedNow] at holds
    by_cases same : other = name
    · rw [if_pos same] at holds
      cases holds
    · rw [if_neg same] at holds
      rcases governed.waits v j holds with live | ⟨rest, frames⟩
      · exact .inl live
      · cases frames
        exact absurd rfl same
  · intro x latest
    rw [storedNow]
    by_cases same : other = name
    · obtain ⟨v, ends⟩ := atEnd same
      obtain ⟨y, last, -, own⟩ := latest?_of_stored ends
      obtain rfl : y = x := Option.some.inj (last.symm.trans latest)
      exact .inr ⟨i, own, begun, if_pos same⟩
    · rw [if_neg same]
      exact governed.outcome x latest

theorem keep (governed : Governed name m) (booked : Booked m)
    (held : Held m.world (Frames.ticks m.frames)) (keeping : Keeping m m')
    (undisturbed : Undisturbed name m'.world.journal) : Governed name m' := by
  cases keeping with
  | still still => exact governed.still still
  | arm _ plain => exact governed.arm (plain name)
  | write ready wrote => exact governed.write booked held wrote ready undisturbed
  | fire batch plain => exact governed.fire batch (plain name)
  | lapse batch task => exact governed.lapse batch task
  | expire ready =>
    rw [(booked.expiring ready).1]
    exact governed.expire booked held ready

end Governed

theorem Reached.booked {m : Moment σ} (reached : Reached Rule.storing m) : Booked m :=
  reached.invariant (P := Booked) (fun clock devices memory => .start clock devices memory)
    fun before booked step => booked.keep before.timely.held (step.keeping before.proper)

theorem Reached.governed {name : String} {m : Moment σ} (reached : Reached Rule.storing m)
    (undisturbed : Undisturbed name m.world.journal) : Governed name m := by
  refine reached.invariant_while (P := Governed name)
    (fun clock devices memory => .start name clock devices memory) ?_ undisturbed
  intro m m' before governed step undisturbed
  exact governed.keep before.booked before.timely.held (step.keeping before.proper) undisturbed

theorem Booked.value {w : World σ} {fs : Frames σ} (booked : Booked ⟨w, fs⟩) (name : String) :
    w.value name = ((stored name w.journal).map Slot.value).getD .null := by
  rw [← show w.slot? name = stored name w.journal from booked.slots name]
  unfold World.value World.slot?
  cases Table.find? name w.slots <;> rfl

namespace History

/-- A variable is written no earlier than a tick in progress reads. -/
abbrev WrittenForward : History → Mark → Prop := WhenWritten fun earlier x =>
  ∀ k ∈ running earlier, k.reading ≤ x.reading

abbrev Forward : History → Prop := Everywhere WrittenForward

end History

/-- What a history tells of one variable. -/
structure LastWriteWins (name : String) (between : Bool) (w : World σ) : Prop where
  unwritten : (∀ x ∈ writes w.journal, x.name ≠ name) → w.value name = .null
  kept : ∀ x, latest? name w.journal = some x → (∀ d, x.lifetime = some d →
      0 < d.nanos ∧ x.reading < .latest ∧
        ∀ k ∈ begun w.journal, x ∈ writes k.before → k.reading < x.reading.add d) →
    w.value name = x.value
  reset : ∀ x d, latest? name w.journal = some x → x.lifetime = some d →
    ∀ k ∈ completed w.journal, x ∈ writes k.before → x.reading.add d ≤ k.reading →
      w.value name = .null
  pending : between = true → (w.pendingExpiry name = true ↔
    ∃ z ∈ w.agenda.timers, z.task = .expiry name)
  single : ∀ z ∈ w.agenda.timers, ∀ z' ∈ w.agenda.timers, z.task = .expiry name →
    z'.task = .expiry name → z = z'

/-- A timer of a write starts in a tick that has begun after the write and reads the end of
its lifetime or later. -/
theorem Booked.tick_of_started {m : Moment σ} (booked : Booked m)
    (timely : Timely m.world (Frames.ticks m.frames)) (forward : Forward m.world.journal)
    {x : Write} {d : Span} {i : Nat} (written : x ∈ writes m.world.journal)
    (timer : x.timer = some i) (lifetime : x.lifetime = some d) (positive : 0 < d.nanos)
    (early : x.reading < .latest) (ran : i ∈ History.started m.world.journal) :
    ∃ k ∈ begun m.world.journal, x ∈ writes k.before ∧ x.reading.add d ≤ k.reading := by
  obtain ⟨d', lifetime', deadline⟩ := booked.timer_armed written timer
  obtain rfl : d = d' := Option.some.inj (lifetime.symm.trans lifetime')
  have unique : ∀ {t}, (i, t) ∈ armed m.world.journal → x.reading.add d = t :=
    timely.held.deadline_unique deadline
  have fresh := booked.fresh
  have inTime := timely.inTime
  obtain ⟨later, earlier, journal⟩ := written_of_mem written
  rw [journal] at ran fresh inTime forward unique ⊢
  have notYet : i ∉ History.started earlier := (fresh.split i timer).1
  obtain ⟨mark, member, same⟩ := List.mem_filterMap.mp ran
  obtain rfl : mark = .timerStarted i := by
    cases mark <;> cases same
    rfl
  rcases List.mem_append.mp member with since | before
  · obtain ⟨after, mid, rfl⟩ := List.append_of_mem since
    rw [List.append_assoc] at inTime unique ⊢
    obtain ⟨k, top, t, known, due⟩ := inTime.split
    obtain rfl := unique (filterMap_behind known)
    have runs : k ∈ running (mid ++ .written x :: earlier) := List.mem_of_mem_head? top
    rcases running_since runs with old | ⟨recent, before⟩
    · have ahead : k.reading ≤ x.reading := forward.split k old
      exact absurd (Instant.lt_add early positive) (Int.not_lt.mpr (Int.le_trans due ahead))
    · refine ⟨k, begun_later (running_begun runs), ?_, due⟩
      rw [before]
      exact filterMap_later (.head _)
  · refine absurd ?_ notYet
    cases before with
    | tail _ before => exact List.mem_filterMap.mpr ⟨_, before, rfl⟩

/-- When a tick that reads the end of a lifetime has ended, the timer has started. -/
theorem History.started_of_completed {J : History} (fresh : Everywhere WrittenFresh J)
    (rested : Everywhere BeganRested J) (fired : Everywhere AllFired J) {x : Write} {d : Span}
    {i : Nat} {k : Begun} (done : k ∈ completed J) (written : x ∈ writes k.before)
    (timer : x.timer = some i) (lifetime : x.lifetime = some d) (due : x.reading.add d ≤ k.reading)
    (uncancelled : i ∉ cancelled J) : i ∈ started J := by
  by_contra pending
  obtain ⟨later, n, during, rfl, top⟩ := completed_split done
  obtain ⟨since, limit, rfl⟩ := begun_split (running_begun (List.mem_of_mem_head? top))
  obtain ⟨d', lifetime', armed⟩ := timer_of_fresh fresh.before.tail.before.tail written timer
  obtain rfl : d = d' := Option.some.inj (lifetime.symm.trans lifetime')
  have waits : Pending k.before i (x.reading.add d) := by
    refine ⟨armed, fun ran => pending ?_, fun gone => uncancelled ?_, ?_⟩
    · exact filterMap_behind (filterMap_behind ran)
    · exact filterMap_behind (filterMap_behind gone)
    · rw [show waiting k.before = [] from rested.before.tail.split]
      exact List.not_mem_nil
  rcases fired.split k top i _ waits due with ran | gone
  · exact pending (filterMap_behind ran)
  · exact uncancelled (filterMap_behind gone)

namespace Governed

variable {name : String} {w : World σ} {fs : Frames σ}

theorem kept (governed : Governed name ⟨w, fs⟩) (booked : Booked ⟨w, fs⟩)
    (timely : Timely w (Frames.ticks fs)) (forward : Forward w.journal) {x : Write}
    (latest : latest? name w.journal = some x) (lasts : ∀ d, x.lifetime = some d →
      0 < d.nanos ∧ x.reading < .latest ∧
        ∀ k ∈ begun w.journal, x ∈ writes k.before → k.reading < x.reading.add d) :
    w.value name = x.value := by
  rw [booked.value]
  rcases governed.outcome x latest with holds | ⟨i, timer, ran, -⟩
  · rw [show stored name w.journal = _ from holds]
    rfl
  · have written := (latest?_mem latest).1
    obtain ⟨d, lifetime, -⟩ := booked.timer_armed written timer
    obtain ⟨positive, early, before⟩ := lasts d lifetime
    obtain ⟨k, began, after, due⟩ :=
      booked.tick_of_started timely forward written timer lifetime positive early ran
    exact absurd (before k began after) (Int.not_lt.mpr due)

theorem reset (governed : Governed name ⟨w, fs⟩) (booked : Booked ⟨w, fs⟩)
    (orderly : Orderly w (Frames.ticks fs)) {x : Write} {d : Span} {k : Begun}
    (latest : latest? name w.journal = some x) (lifetime : x.lifetime = some d)
    (done : k ∈ completed w.journal) (written : x ∈ writes k.before)
    (due : x.reading.add d ≤ k.reading) : w.value name = .null := by
  have held := orderly.timely.held
  rw [booked.value]
  cases timer : x.timer with
  | none =>
    rw [(booked.timed x (latest?_mem latest).1).mp timer] at lifetime
    cases lifetime
  | some i =>
    have uncancelled := booked.uncancelled name x latest i timer
    have ran : i ∈ started w.journal :=
      started_of_completed booked.fresh orderly.rested orderly.fired done written timer lifetime due
        uncancelled
    rcases governed.outcome x latest with holds | ⟨j, -, -, gone⟩
    · rw [timer] at holds
      rcases governed.waits _ _ holds with ⟨z, live, rfl, -⟩ | ⟨rest, frames⟩
      · exact absurd ran (Held.live (m := ⟨w, fs⟩) held live).2
      · -- The lifetime that is about to end cannot be this one: its timer would start again.
        obtain ⟨j, J, same, journal, -⟩ := booked.lapse name (some i) rest frames
        obtain rfl := Option.some.inj same
        have fresh := booked.fresh
        have rested := orderly.rested
        have fired := orderly.fired
        have once := held.startedNodup
        rw [show w.journal = _ from journal] at fresh rested fired once uncancelled done
        refine absurd ?_ (List.nodup_cons.mp once).1
        exact started_of_completed fresh.tail rested.tail fired.tail done written timer lifetime due
          uncancelled
    · rw [show stored name w.journal = _ from gone]
      rfl

theorem pending (governed : Governed name ⟨w, []⟩) (booked : Booked ⟨w, []⟩) :
    w.pendingExpiry name = true ↔ ∃ z ∈ w.agenda.timers, z.task = .expiry name := by
  have pendingNow : w.pendingExpiry name = (stored name w.journal).any (·.expiry.isSome) := by
    rw [← show w.slot? name = stored name w.journal from booked.slots name]
    rfl
  rw [pendingNow]
  constructor
  · intro waits
    obtain ⟨⟨v, expiry⟩, holds, some⟩ := (Option.any_eq_true _ _).mp waits
    obtain ⟨i, rfl⟩ := Option.isSome_iff_exists.mp some
    rcases governed.waits v i holds with ⟨z, known | none, -, task⟩ | ⟨_, none⟩
    · exact ⟨z, known, task⟩
    · cases none
    · cases none
  · rintro ⟨z, known, task⟩
    obtain ⟨v, holds⟩ := governed.holder z (.inl known) task
    rw [show stored name w.journal = _ from holds]
    rfl

theorem single (governed : Governed name ⟨w, fs⟩) {ks : List (Ticking σ)} (held : Held w ks)
    {z z' : Timer (Reaction σ)} (one : z ∈ w.agenda.timers) (other : z' ∈ w.agenda.timers)
    (task : z.task = .expiry name) (task' : z'.task = .expiry name) : z = z' := by
  obtain ⟨v, holds⟩ := governed.holder z (.inl one) task
  obtain ⟨v', holds'⟩ := governed.holder z' (.inl other) task'
  obtain ⟨-, same⟩ := Slot.mk.inj (Option.some.inj (holds.symm.trans holds'))
  exact held.timer_unique one other (Option.some.inj same)

end Governed

theorem Reached.lastWriteWins {name : String} {between : Bool} {w : World σ} {fs : Frames σ}
    (reached : Reached Rule.storing ⟨w, fs⟩) (alone : between = true → fs = [])
    (flat : Flat w.journal) (forward : Forward w.journal)
    (undisturbed : Undisturbed name w.journal) : LastWriteWins name between w := by
  have booked := reached.booked
  have governed := reached.governed undisturbed
  have orderly : Orderly w (Frames.ticks fs) := reached.orderly flat
  refine ⟨?_, ?_, ?_, ?_, ?_⟩
  · intro unwritten
    rw [booked.value]
    cases holds : stored name w.journal with
    | none => rfl
    | some slot =>
      rw [stored_unwritten unwritten slot holds]
      rfl
  · intro x latest lasts
    exact governed.kept booked orderly.timely forward latest lasts
  · intro x d latest lifetime k
    exact governed.reset booked orderly latest lifetime
  · intro done
    obtain rfl := alone done
    exact governed.pending booked
  · intro z one z' other
    exact governed.single orderly.timely.held one other

end Reflex
