import Mathlib.Data.List.Pairwise
import Reflex.Proofs.Variables

/-! The timers of variables. The journal tells what every variable holds, and every timer
that will reset one belongs to one write of it. -/
namespace Reflex
open History

variable {σ : Type}

namespace History

/-- A write's timer is armed just before it, due after the write's lifetime. -/
abbrev WrittenFresh : History → Mark → Prop := WhenWritten fun earlier x => ∀ i, x.timer = some i →
  i ∉ started earlier ∧ ∃ d, x.lifetime = some d ∧ (i, x.reading.add d) ∈ armed earlier

theorem written_of_mem {J : History} {x : Write} (member : x ∈ writes J) :
    ∃ later earlier, J = later ++ .written x :: earlier := by
  obtain ⟨k, marked, same⟩ := List.mem_filterMap.mp member
  obtain rfl : k = .written x := by
    cases k <;> cases same
    rfl
  exact List.append_of_mem marked

theorem timer_of_fresh {J : History} (fresh : Everywhere WrittenFresh J) {x : Write} {i : Nat}
    (written : x ∈ writes J) (timer : x.timer = some i) :
    ∃ d, x.lifetime = some d ∧ (i, x.reading.add d) ∈ armed J := by
  obtain ⟨later, earlier, rfl⟩ := written_of_mem written
  obtain ⟨-, d, lifetime, known⟩ := fresh.split i timer
  refine ⟨d, lifetime, ?_⟩
  rw [armed, List.filterMap_append]
  exact List.mem_append_right _ known

end History

/-- Every timer that will reset a variable belongs to one write of it. -/
structure Booked (m : Moment σ) : Prop where
  storeHeld : m.world.storeHeld = true
  slots : ∀ name, m.world.slot? name = stored name m.world.journal
  owner : ∀ z, m.Live z → ∀ name, z.task = .expiry name →
    ∃ x ∈ writes m.world.journal, x.name = name ∧ x.timer = some z.id
  task : ∀ x ∈ writes m.world.journal, ∀ z, m.Live z → x.timer = some z.id →
    z.task = .expiry x.name
  timed : ∀ x ∈ writes m.world.journal, x.timer = none ↔ x.lifetime = none
  distinct : (writes m.world.journal).Pairwise fun x y => ∀ i, y.timer = some i → x.timer ≠ some i
  fresh : Everywhere WrittenFresh m.world.journal
  uncancelled : ∀ name x, latest? name m.world.journal = some x → ∀ i, x.timer = some i →
    i ∉ cancelled m.world.journal
  lapse : ∀ name timer rest, m.frames = .lapse name timer :: rest → ∃ i J, timer = some i ∧
    m.world.journal = .timerStarted i :: J ∧
      ∃ x ∈ writes m.world.journal, x.name = name ∧ x.timer = some i

namespace Booked

variable {m m' : Moment σ}

theorem start (clock : Instant) (devices : List Device) (memory : σ) :
    Booked ⟨.start clock devices memory, []⟩ where
  storeHeld := rfl
  slots _ := rfl
  owner z live := by rcases live with live | live <;> cases live
  task _ none := nomatch none
  timed _ none := nomatch none
  distinct := .nil
  fresh := .nil
  uncancelled _ _ none := nomatch none
  lapse _ _ _ none := nomatch none

theorem timer_armed (booked : Booked m) {x : Write} {i : Nat} (written : x ∈ writes m.world.journal)
    (timer : x.timer = some i) :
    ∃ d, x.lifetime = some d ∧ (i, x.reading.add d) ∈ armed m.world.journal :=
  timer_of_fresh booked.fresh written timer

/-- The next timer belongs to no write so far. -/
theorem timer_older {w : World σ} {fs : Frames σ} (booked : Booked ⟨w, fs⟩)
    (held : Held w (Frames.ticks fs)) {x : Write} (written : x ∈ writes w.journal) :
    x.timer ≠ some w.agenda.nextTimer := by
  intro timer
  obtain ⟨d, -, armed⟩ := booked.timer_armed written timer
  exact Nat.lt_irrefl _ (held.armedFresh _ armed)

theorem writer_unique (booked : Booked m) {x y : Write} {i : Nat}
    (one : x ∈ writes m.world.journal) (other : y ∈ writes m.world.journal)
    (timer : x.timer = some i) (same : y.timer = some i) : x = y := by
  have : Std.Symm fun x y : Write => ∀ i, y.timer = some i → x.timer ≠ some i :=
    ⟨fun x y apart i timer same => apart i same timer⟩
  by_contra different
  exact booked.distinct.forall one other different i same timer

theorem expiry_stored (booked : Booked m) {name : String} {v : Value} {i : Nat}
    (holds : stored name m.world.journal = some ⟨v, some i⟩) : m.world.expiry? name = some i := by
  rw [World.expiry?, booked.slots name, holds]
  rfl

/-- The timer that a slot waits for is that of the latest write. -/
theorem expiry_latest (booked : Booked m) {name : String} {i : Nat}
    (waits : m.world.expiry? name = some i) :
    ∃ x, latest? name m.world.journal = some x ∧ x.timer = some i := by
  unfold World.expiry? at waits
  rw [booked.slots] at waits
  obtain ⟨⟨v, expiry⟩, holds, rfl⟩ := Option.bind_eq_some_iff.mp waits
  obtain ⟨x, latest, -, timer⟩ := latest?_of_stored holds
  exact ⟨x, latest, timer⟩

theorem still (booked : Booked m) (still : m.Still m') : Booked m' := by
  obtain ⟨before, after, ⟨later, journal, remote⟩, slots, storeHeld, live⟩ := still
  have writesSame : writes m'.world.journal = writes m.world.journal := by
    rw [journal, writes_remote remote]
  refine ⟨storeHeld.trans booked.storeHeld, ?_, ?_, ?_, ?_, ?_, ?_, ?_,
    fun name timer rest same => absurd same after.not_lapse⟩
  · intro name
    rw [World.slot?, slots, journal, stored_remote remote]
    exact booked.slots name
  · intro z known
    rw [writesSame]
    exact booked.owner z ((live z).mp known)
  · rw [writesSame]
    exact fun x written z known => booked.task x written z ((live z).mp known)
  · rw [writesSame]
    exact booked.timed
  · rw [writesSame]
    exact booked.distinct
  · rw [journal]
    refine booked.fresh.append ?_
    intro k member J
    have first := remote k member
    cases k <;> trivial
  · intro name x latest
    rw [latest?_of_writes writesSame] at latest
    rw [journal, cancelled_remote remote]
    exact booked.uncancelled name x latest

/-- Fewer timers are live, and one more has started. -/
theorem started {k : Nat} {frames : Frames σ} (booked : Booked m)
    (live : ∀ z, Moment.Live ⟨m.world.marked (.timerStarted k), frames⟩ z → m.Live z)
    (lapse : ∀ name timer rest, frames = .lapse name timer :: rest → timer = some k ∧
      ∃ x ∈ writes m.world.journal, x.name = name ∧ x.timer = some k) :
    Booked ⟨m.world.marked (.timerStarted k), frames⟩ := by
  refine ⟨booked.storeHeld, booked.slots, fun z known => booked.owner z (live z known),
    fun x written z known => booked.task x written z (live z known), booked.timed, booked.distinct,
    .cons trivial booked.fresh, booked.uncancelled, ?_⟩
  intro name timer rest same
  obtain ⟨timer, owner⟩ := lapse name timer rest same
  exact ⟨k, m.world.journal, timer, rfl, owner⟩

theorem expiring {w : World σ} {fs : Frames σ} {name : String} {timer : Option Nat}
    (booked : Booked ⟨w, .lapse name timer :: fs⟩) (ready : fs.Open) :
    w.lapsing name = w.expiring name ∧ Booked ⟨w.expiring name, fs⟩ := by
  obtain ⟨i, J, -, -, x, written, rfl, -⟩ := booked.lapse name timer fs rfl
  have held : w.storeHeld = true := booked.storeHeld
  have alive : w.storeAlive = true := by simp [World.storeAlive, held]
  have known : (w.slot? x.name).isSome = true := by
    rw [show w.slot? x.name = stored x.name w.journal from booked.slots x.name]
    exact stored_of_written written
  refine ⟨by rw [World.lapsing, alive, known]; rfl, booked.storeHeld, ?_, booked.owner,
    booked.task, booked.timed, booked.distinct, .cons trivial booked.fresh, booked.uncancelled,
    fun name timer rest same => absurd same ready.not_lapse⟩
  intro other
  change (w.storing x.name ⟨.null, none⟩).slot? other = stored other (.expired x.name :: w.journal)
  rw [World.storing_slot?, show w.slot? other = stored other w.journal from booked.slots other]
  rfl

theorem arm {w : World σ} {fs : Frames σ} {d : Span} {task : Reaction σ} (booked : Booked ⟨w, fs⟩)
    (held : Held w (Frames.ticks fs)) (ready : fs.Open) (plain : ∀ name, task ≠ .expiry name) :
    Booked ⟨w.arming d task, fs⟩ := by
  have split : ∀ z, Moment.Live ⟨w.arming d task, fs⟩ z → Moment.Live ⟨w, fs⟩ z ∨
      z = ⟨w.agenda.nextTimer, w.clock.add d, task⟩ := by
    rintro z (known | known)
    · rcases List.mem_append.mp known with old | new
      · exact .inl (.inl old)
      · exact .inr (List.mem_singleton.mp new)
    · exact .inl (.inr known)
  refine ⟨booked.storeHeld, booked.slots, ?_, ?_, booked.timed, booked.distinct,
    .cons trivial booked.fresh, booked.uncancelled,
    fun name timer rest same => absurd same ready.not_lapse⟩
  · intro z known name expiry
    rcases split z known with old | rfl
    · exact booked.owner z old name expiry
    · exact absurd expiry (plain name)
  · intro x written z known timer
    rcases split z known with old | rfl
    · exact booked.task x written z old timer
    · exact absurd timer (booked.timer_older held written)

end Booked

/-- A live timer has been armed and has not started. -/
theorem Held.live {m : Moment σ} (held : Held m.world (Frames.ticks m.frames))
    {z : Timer (Reaction σ)} (live : m.Live z) :
    (z.id, z.deadline) ∈ armed m.world.journal ∧ z.id ∉ started m.world.journal := by
  rcases live with pending | waits
  · exact ⟨(held.timer_pending pending).armed, (held.timer_pending pending).started⟩
  · exact ⟨(held.batch z waits).1, (held.batch z waits).2.1⟩

namespace Booked

section Write

variable {w w' : World σ} {fs : Frames σ} {x : Write} (booked : Booked ⟨w, fs⟩)
  (held : Held w (Frames.ticks fs)) (wrote : Wrote w x w')
include booked held wrote

theorem write_task : ∀ y ∈ writes w'.journal, ∀ z, Moment.Live ⟨w', fs⟩ z →
    y.timer = some z.id → z.task = .expiry y.name := by
  rw [wrote.writes_now]
  intro y written z known own
  rcases List.mem_cons.mp written with rfl | written
  · rcases live_write wrote known with old | ⟨d, -, rfl⟩
    · have older := held.armedFresh _ (Held.live (m := ⟨w, fs⟩) held old).1
      exact absurd (wrote.timer_new own) (Nat.ne_of_lt older)
    · rfl
  · rcases live_write wrote known with old | ⟨d, -, rfl⟩
    · exact booked.task y written z old own
    · exact absurd own (booked.timer_older held written)

theorem write_fresh : Everywhere WrittenFresh w'.journal := by
  obtain ⟨marks, journal, arming, -, arms⟩ := wrote.journal
  rw [journal]
  refine .cons ?_ (booked.fresh.append ?_)
  · intro i own
    rw [wrote.timer_new own, started_arming arming]
    refine ⟨fun begun => Nat.lt_irrefl _ (held.started_lt begun), ?_⟩
    rw [wrote.timer] at own
    obtain ⟨d, lifetime, -⟩ := Option.map_eq_some_iff.mp own
    exact ⟨d, lifetime, arms d lifetime⟩
  · intro m member J
    have first := arming m member
    cases m <;> trivial

/-- The timer that a write cancels is not that of a latest write any more. -/
theorem write_uncancelled (name : String) (y : Write) (latest : latest? name w'.journal = some y)
    (i : Nat) (own : y.timer = some i) : i ∉ cancelled w'.journal := by
  obtain ⟨marks, journal, arming, cancels, -⟩ := wrote.journal
  intro member
  rw [journal] at member
  have gone := cancels i member
  have replaced : w.expiry? x.name = some i →
      ∃ z ∈ writes w.journal, z.name = x.name ∧ z.timer = some i := by
    intro waits
    obtain ⟨z, last, owner⟩ := booked.expiry_latest waits
    exact ⟨z, (latest?_mem last).1, (latest?_mem last).2, owner⟩
  rw [wrote.latest_now] at latest
  split at latest
  · obtain rfl := Option.some.inj latest
    rw [wrote.timer_new own] at gone replaced
    rcases gone with gone | waits
    · exact Nat.lt_irrefl _ (held.cancelled_lt gone)
    · obtain ⟨z, written, -, owner⟩ := replaced waits
      exact booked.timer_older held written owner
  · rename_i other
    rcases gone with gone | waits
    · exact booked.uncancelled name y latest i own gone
    · obtain ⟨z, written, same, owner⟩ := replaced waits
      obtain ⟨known, rfl⟩ := latest?_mem latest
      rw [booked.writer_unique known written own owner] at other
      exact other same.symm

theorem write (ready : fs.Open) : Booked ⟨w', fs⟩ := by
  refine ⟨wrote.storeHeld.trans booked.storeHeld, ?_, ?_, booked.write_task held wrote, ?_, ?_,
    booked.write_fresh held wrote, booked.write_uncancelled held wrote,
    fun name timer rest same => absurd same ready.not_lapse⟩
  · intro name
    rw [wrote.slots, wrote.stored_now]
    exact if_congr Iff.rfl rfl (booked.slots name)
  · intro z known name expiry
    rw [wrote.writes_now]
    rcases live_write wrote known with old | ⟨d, lifetime, rfl⟩
    · obtain ⟨y, written, owner⟩ := booked.owner z old name expiry
      exact ⟨y, .tail _ written, owner⟩
    · cases expiry
      exact ⟨x, .head _, rfl, by rw [wrote.timer, lifetime]; rfl⟩
  · rw [wrote.writes_now]
    intro y written
    rcases List.mem_cons.mp written with rfl | written
    · rw [wrote.timer, Option.map_eq_none_iff]
    · exact booked.timed y written
  · rw [wrote.writes_now]
    refine List.pairwise_cons.mpr ⟨?_, booked.distinct⟩
    intro y written i timer own
    rw [wrote.timer_new own] at timer
    exact booked.timer_older held written timer

end Write

theorem keep (booked : Booked m) (held : Held m.world (Frames.ticks m.frames))
    (keeping : Keeping m m') : Booked m' := by
  cases keeping with
  | still still => exact booked.still still
  | arm ready plain => exact booked.arm held ready plain
  | write ready wrote => exact booked.write held wrote ready
  | fire batch _ =>
    exact booked.started (fun z live => (live_rest batch).mpr (.inr live))
      fun _ _ _ none => (nomatch none)
  | lapse batch task =>
    refine booked.started (fun z live => (live_rest batch).mpr (.inr live)) ?_
    intro name timer rest same
    cases same
    exact ⟨rfl, booked.owner _ (live_first batch) _ task⟩
  | expire ready =>
    obtain ⟨same, booked⟩ := booked.expiring ready
    rw [same]
    exact booked

end Booked

end Reflex
