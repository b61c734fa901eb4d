import Mathlib.Data.List.Forall2
import Reflex.Proofs.Agenda
import Reflex.Proofs.Courses
import Reflex.Proofs.Sessions

/-! The seconds that ticks evaluate. While the clock does not go back, and does not move
during a tick, they only increase: none is evaluated twice, and none within the gap that
is made up for is left out. Code that ticks call may tick again. -/
namespace Reflex
open History Engine Act

variable {σ : Type}

namespace History

/-- Ticks read a clock that never goes back, and one that runs inside another reads what
that one read. -/
abbrev BeganSteadily : History → Mark → Prop := WhenBegun fun earlier reading _ =>
  (∀ r ∈ readings earlier, r ≤ reading) ∧ ∀ k ∈ running earlier, k.reading = reading

abbrev Steady : History → Prop := Everywhere BeganSteadily

/-- No gap between two readings in a row is longer than what the later tick makes up for. -/
abbrev BeganNear : History → Mark → Prop := WhenBegun fun earlier reading limit =>
  ∀ previous ∈ (readings earlier).head?, reading.second - previous.second ≤ limit

abbrev Near : History → Prop := Everywhere BeganNear

/-- An evaluated second lies after the reading before its tick and up to the tick's own; the
first tick of all evaluates the second of its reading. -/
def InReach (earlier : History) : Mark → Prop
  | .second t => ∃ k ∈ (running earlier).head?, t ≤ k.reading.truncate ∧
      match (readings k.before).head? with
      | some previous => previous.truncate < t
      | none => t = k.reading.truncate
  | _ => True

/-- A tick ends with the number of seconds evaluated since it began. -/
def Counted (earlier : History) : Mark → Prop
  | .tickEnded n => ∃ k ∈ (running earlier).head?,
      (seconds earlier).length = n + (seconds k.before).length
  | _ => True

end History

/-- How far a tick in progress has come. -/
structure Tracks (J : History) (k : Begun) (c : Course) : Prop where
  reading : c.reading = k.reading
  latest : (readings J).head? = some k.reading
  count : (seconds J).length + c.left = c.planned + (seconds k.before).length
  whole : 0 < c.left → c.next.Whole
  last : 0 < c.left → c.next.addSeconds c.left = c.reading.truncate.addSeconds 1
  fresh : 0 < c.left → ∀ s ∈ seconds J, s < c.next
  reach : 0 < c.left → match (readings k.before).head? with
    | some previous => previous.truncate < c.next
    | none => c.next = c.reading.truncate

/-- While no gap is too long, every second from the first reading to the latest is evaluated
or left for a tick in progress. -/
def Covered (J : History) (cs : List Course) : Prop :=
  Near J → ∀ s : Instant, s.Whole →
    ∀ first ∈ (readings J).getLast?, ∀ last ∈ (readings J).head?,
      first.truncate ≤ s → s ≤ last.truncate →
        s ∈ seconds J ∨ ∃ c ∈ cs, c.next ≤ s ∧ s < c.next.addSeconds c.left

/-- The seconds evaluated so far and those that ticks in progress have left. Of ticks inside
each other only the outermost can have any left. -/
structure Followed (w : World σ) (cs : List Course) : Prop where
  followed : w.agenda.lastTick = (readings w.journal).head?.map Instant.truncate
  stack : List.Forall₂ (Tracks w.journal) (running w.journal) cs
  nested : cs.Pairwise fun c _ => c.left = 0
  past : ∀ s ∈ seconds w.journal, ∃ r ∈ (readings w.journal).head?, s ≤ r.truncate
  increasing : (seconds w.journal).Pairwise (· > ·)
  inReach : Everywhere InReach w.journal
  counted : Everywhere Counted w.journal
  covered : Covered w.journal cs

theorem Tracks.of_same {J J' : History} {k : Begun} {c : Course} (tracks : Tracks J k c)
    (readingsSame : readings J' = readings J) (secondsSame : seconds J' = seconds J) :
    Tracks J' k c :=
  ⟨tracks.reading, by rw [readingsSame]; exact tracks.latest,
    by rw [secondsSame]; exact tracks.count, tracks.whole, tracks.last,
    by rw [secondsSame]; exact tracks.fresh, tracks.reach⟩

section Tracks

variable {J : History} {k : Begun} {reading next : Instant} {planned left : Nat}

/-- The next second is not after the reading. -/
theorem Tracks.due (tracks : Tracks J k ⟨reading, planned, next, left + 1⟩) :
    next ≤ k.reading.truncate := by
  have nanos := Instant.eq_iff.mp (tracks.last (Nat.succ_pos left))
  rw [tracks.reading] at nanos
  simp only [Instant.addSeconds_nanos] at nanos
  rw [Instant.le_iff]
  omega

/-- Evaluating the next second takes a course one second further. -/
theorem Tracks.second (tracks : Tracks J k ⟨reading, planned, next, left + 1⟩) :
    Tracks (.second next :: J) k ⟨reading, planned, next.addSeconds 1, left⟩ := by
  have positive : 0 < left + 1 := Nat.succ_pos left
  have fresh := tracks.fresh positive
  have ends := tracks.last positive
  have reach := tracks.reach positive
  refine ⟨tracks.reading, tracks.latest, ?_,
    fun _ => Instant.whole_addSeconds (tracks.whole positive) 1, ?_, ?_, ?_⟩
  · have count := tracks.count
    change (seconds J).length + 1 + left = planned + _
    change (seconds J).length + (left + 1) = planned + _ at count
    omega
  · intro _
    rw [Instant.addSeconds_addSeconds, Nat.add_comm]
    exact ends
  · intro _ s member
    have bound : s ≤ next := by
      rcases List.mem_cons.mp member with rfl | old
      · exact Int.le_refl _
      · exact Int.le_of_lt (fresh s old)
    rw [Instant.lt_iff, Instant.addSeconds_nanos]
    rw [Instant.le_iff] at bound
    omega
  · intro some
    change 0 < left at some
    revert reach
    cases (readings k.before).head? with
    | none =>
      -- The first tick of all plans one second only.
      intro same
      have nanos : next.nanos = reading.truncate.nanos := Instant.eq_iff.mp same
      have due := Instant.eq_iff.mp ends
      simp only [Instant.addSeconds_nanos] at due
      omega
    | some previous =>
      intro after
      change previous.truncate < next.addSeconds 1
      change previous.truncate < next at after
      rw [Instant.lt_iff, Instant.addSeconds_nanos]
      rw [Instant.lt_iff] at after
      omega

end Tracks

namespace Followed

variable {w w' : World σ} {cs : List Course}

theorem start (clock : Instant) (devices : List Device) (memory : σ) :
    Followed (.start clock devices memory) [] where
  followed := rfl
  stack := .nil
  nested := .nil
  past _ member := nomatch member
  increasing := .nil
  inReach := .nil
  counted := .nil
  covered _ _ _ _ member := nomatch member

theorem calm (so : Followed w cs) (calm : w.Calm w') : Followed w' cs := by
  have readingsSame := calm.readings
  have secondsSame := calm.seconds
  obtain ⟨⟨later, journal, quiet⟩, lastTick⟩ := calm
  have runningSame : running w'.journal = running w.journal := by
    rw [journal, running_append quiet]
  have trivially : ∀ {P : History → Mark → Prop}, (∀ J m, m.isTick = false → P J m) →
      Everywhere P w.journal → Everywhere P w'.journal := by
    intro P holds all
    rw [journal]
    exact all.append fun m member J => holds J m (quiet m member)
  refine ⟨?_, ?_, so.nested, ?_, ?_, ?_, ?_, ?_⟩
  · rw [lastTick, so.followed, readingsSame]
  · rw [runningSame]
    exact so.stack.imp fun k c tracks => tracks.of_same readingsSame secondsSame
  · rw [secondsSame, readingsSame]
    exact so.past
  · rw [secondsSame]
    exact so.increasing
  · refine trivially ?_ so.inReach
    intro J m quiet
    cases m <;> trivial
  · refine trivially ?_ so.counted
    intro J m quiet
    cases m <;> trivial
  · unfold Covered
    rw [secondsSame, readingsSame]
    intro near
    rw [journal] at near
    exact so.covered near.before

theorem finish {reading next : Instant} {planned : Nat}
    (so : Followed w (⟨reading, planned, next, 0⟩ :: cs)) :
    Followed (w.marked (.tickEnded planned)) cs := by
  obtain ⟨k, outer, tracks, stack, runs⟩ := List.forall₂_cons_right_iff.mp so.stack
  refine ⟨so.followed, ?_, so.nested.of_cons, so.past, so.increasing, .cons trivial so.inReach,
    .cons ?_ so.counted, ?_⟩
  · change List.Forall₂ _ (running w.journal).tail cs
    rw [runs]
    exact stack.imp fun k c tracks => tracks.of_same rfl rfl
  · exact ⟨k, by simp [runs], tracks.count⟩
  · intro near s whole first earliest last latest low high
    rcases so.covered near.tail s whole first earliest last latest low high with
      old | ⟨c, member, left⟩
    · exact .inl old
    · rcases List.mem_cons.mp member with rfl | member
      · -- A course with nothing left holds no second.
        simp only [Instant.le_iff, Instant.lt_iff, Instant.addSeconds_nanos] at left
        omega
      · exact .inr ⟨c, member, left⟩

theorem second_covers {reading next : Instant} {planned left : Nat}
    (covered : Covered w.journal [⟨reading, planned, next, left + 1⟩]) (whole : next.Whole) :
    Covered (.second next :: w.journal) [⟨reading, planned, next.addSeconds 1, left⟩] := by
  intro near s wholeSecond first earliest last latest low high
  rcases covered near.tail s wholeSecond first earliest last latest low high with
    old | ⟨c, member, after, before⟩
  · exact .inl (.tail _ old)
  · obtain rfl := List.mem_singleton.mp member
    by_cases same : s = next
    · exact .inl (same ▸ .head _)
    · refine .inr ⟨_, .head _, ?_, ?_⟩
      · -- Whole seconds that differ are a second apart.
        have wholeNext := whole.nanos
        have wholeNanos := wholeSecond.nanos
        simp only [Instant.le_iff, Instant.addSeconds_nanos] at after ⊢
        rw [Instant.eq_iff] at same
        omega
      · rw [Instant.addSeconds_addSeconds, Nat.add_comm]
        exact before

theorem second {reading next : Instant} {planned left : Nat}
    (so : Followed w (⟨reading, planned, next, left + 1⟩ :: cs)) :
    Followed (w.marked (.second next)) (⟨reading, planned, next.addSeconds 1, left⟩ :: cs) := by
  obtain ⟨k, outer, tracks, stack, runs⟩ := List.forall₂_cons_right_iff.mp so.stack
  obtain rfl : cs = [] := by
    cases cs with
    | nil => rfl
    | cons c rest =>
      have none := List.rel_of_pairwise_cons so.nested List.mem_cons_self
      exact absurd none (Nat.succ_ne_zero left)
  have outerNone : outer = [] := by
    cases stack
    rfl
  have positive : 0 < left + 1 := Nat.succ_pos left
  have reach := tracks.reach positive
  refine ⟨so.followed, ?_, List.pairwise_singleton _ _, ?_,
    List.pairwise_cons.mpr ⟨tracks.fresh positive, so.increasing⟩,
    .cons ⟨k, by simp [runs], tracks.due, ?_⟩ so.inReach, .cons trivial so.counted,
    second_covers so.covered (tracks.whole positive)⟩
  · change List.Forall₂ _ (running w.journal) _
    rw [runs, outerNone]
    exact .cons tracks.second .nil
  · intro s member
    rcases List.mem_cons.mp member with rfl | old
    · exact ⟨k.reading, tracks.latest, tracks.due⟩
    · exact so.past s old
  · revert reach
    cases (readings k.before).head? with
    | none =>
      intro same
      exact same.trans (congrArg Instant.truncate tracks.reading)
    | some previous => exact id

theorem wholeLast (so : Followed w cs) {last : Instant} (known : w.agenda.lastTick = some last) :
    last.Whole := by
  rw [so.followed] at known
  obtain ⟨r, -, rfl⟩ := Option.map_eq_some_iff.mp known
  exact r.whole_truncate

section Begin

variable (so : Followed w cs) (steady : Steady w.beginning.journal)
include so steady

omit so in
theorem clock_ahead : ∀ previous ∈ (readings w.journal).head?,
    previous.truncate ≤ w.clock.truncate := by
  intro previous member
  exact Instant.truncate_mono (steady.head.1 previous (List.mem_of_mem_head? member))

/-- What a tick plans comes after the reading before. -/
theorem plan_ahead (some : 0 < w.plan.count) :
    ∀ previous ∈ (readings w.journal).head?, previous.truncate < w.plan.first := by
  intro previous member
  refine Agenda.plan_after ?_ (clock_ahead steady previous member) some
  rw [so.followed, member]
  rfl

/-- A tick inside another finds the clock where that one found it, and nothing to evaluate. -/
theorem plan_inner : ∀ c ∈ cs, w.plan.count = 0 := by
  intro c member
  obtain _ | ⟨c, rest⟩ := cs
  · cases member
  obtain ⟨k, outer, tracks, -, runs⟩ := List.forall₂_cons_right_iff.mp so.stack
  have same := steady.head.2 k (by simp [runs])
  refine Agenda.plan_same ?_
  rw [so.followed, tracks.latest, same]
  rfl

theorem begin_tracks : Tracks w.beginning.journal ⟨w.clock, w.journal⟩
    ⟨w.clock, w.plan.count, w.plan.first, w.plan.count⟩ := by
  refine ⟨rfl, rfl, Nat.add_comm _ _,
    Agenda.plan_whole (fun _ => so.wholeLast) w.clock.whole_truncate,
    Agenda.plan_last (fun _ => so.wholeLast) w.clock.whole_truncate, ?_, ?_⟩
  · intro some s member
    obtain ⟨r, latest, bound⟩ := so.past s member
    exact Int.lt_of_le_of_lt bound (so.plan_ahead steady some r latest)
  · intro some
    have after := so.plan_ahead steady some
    have followed := so.followed
    revert after followed
    dsimp only
    cases (readings w.journal).head? with
    | none => exact fun _ fresh => congrArg Agenda.Plan.first (Agenda.plan_first fresh)
    | some previous => exact fun after _ => after previous rfl

omit steady in
/-- The plan takes in what lies between the latest reading and the clock. -/
theorem begin_covers : Covered w.beginning.journal
    (⟨w.clock, w.plan.count, w.plan.first, w.plan.count⟩ :: cs) := by
  rintro near s whole first earliest last ⟨rfl⟩ low high
  have known : readings w.beginning.journal = w.clock :: readings w.journal := rfl
  rw [known] at earliest
  cases old : readings w.journal with
  | nil =>
    rw [old] at earliest
    obtain rfl : w.clock = first := Option.some.inj earliest
    have plan : w.plan = ⟨w.clock.truncate, 1, none⟩ :=
      Agenda.plan_first (by rw [so.followed, old]; rfl)
    refine .inr ⟨_, .head _, ?_⟩
    simp only [plan, Instant.le_iff, Instant.lt_iff, Instant.addSeconds_nanos] at *
    omega
  | cons previous rest =>
    have latest : (readings w.journal).head? = some previous := by rw [old]; rfl
    by_cases late : s ≤ previous.truncate
    · have earliest : first ∈ (readings w.journal).getLast? := by
        rw [old] at earliest ⊢
        exact earliest
      rcases so.covered near.tail s whole first earliest previous latest low late with
        done | ⟨c, member, left⟩
      · exact .inl done
      · exact .inr ⟨c, .tail _ member, left⟩
    · have followed : w.agenda.lastTick = some previous.truncate := by
        rw [so.followed, latest]
        rfl
      refine .inr ⟨_, .head _, Agenda.plan_covers followed previous.whole_truncate
        w.clock.whole_truncate ?_ whole (Int.not_le.mp late) high⟩
      have gap : w.clock.second - previous.second ≤ (w.agenda.maxCatchUp : Int) :=
        near.head previous latest
      simp only [Instant.second_eq, Instant.truncate_nanos] at gap ⊢
      omega

theorem begin :
    Followed w.beginning (⟨w.clock, w.plan.count, w.plan.first, w.plan.count⟩ :: cs) := by
  refine ⟨rfl, .cons (so.begin_tracks steady) ?_,
    List.pairwise_cons.mpr ⟨so.plan_inner steady, so.nested⟩, ?_, so.increasing,
    .cons trivial so.inReach, .cons trivial so.counted, so.begin_covers⟩
  · refine ((List.forall₂_and_left _ _).mpr ⟨steady.head.2, so.stack⟩).imp ?_
    rintro k c ⟨same, tracks⟩
    refine ⟨tracks.reading, ?_, tracks.count, tracks.whole, tracks.last, tracks.fresh, tracks.reach⟩
    rw [same]
    rfl
  · intro s member
    obtain ⟨r, latest, bound⟩ := so.past s member
    exact ⟨w.clock, rfl, Int.le_trans bound (clock_ahead steady r latest)⟩

end Begin

theorem turn {cs' : List Course} (so : Followed w cs) (turn : Turn w cs w' cs')
    (steady : Steady w'.journal) : Followed w' cs' := by
  cases turn with
  | calm calm => exact so.calm calm
  | begin => exact so.begin steady
  | second => exact so.second.calm (.taking _ _)
  | finish => exact so.finish

end Followed

theorem Reached.followed {rule : Rule} {m : Moment σ} (reached : Reached rule m)
    (steady : Steady m.world.journal) : Followed m.world (Frames.courses m.frames) := by
  refine reached.invariant_while (P := fun m => Followed m.world (Frames.courses m.frames))
    (fun clock devices memory => .start clock devices memory) ?_ steady
  intro m m' _ so step steady
  exact so.turn step.turn steady

namespace History

/-- No second leaves the range that the readings lie in. -/
theorem InReach.representable {J : History} (inReach : Everywhere InReach J)
    (readable : ∀ r ∈ readings J, r.Representable) : ∀ t ∈ seconds J, t.Representable := by
  intro t member
  obtain ⟨m, marked, same⟩ := List.mem_filterMap.mp member
  obtain ⟨later, earlier, rfl, reached⟩ := inReach.of_mem marked
  obtain rfl : m = .second t := by
    cases m <;> cases same
    rfl
  obtain ⟨k, runs, due, after⟩ := reached
  have known : readings earlier ⊆ readings (later ++ .second t :: earlier) := by
    intro r old
    simp only [readings, List.filterMap_append, List.filterMap_cons, List.mem_append]
    exact .inr old
  have runs := List.mem_of_mem_head? runs
  obtain ⟨low, high⟩ := readable _ (known (running_reading runs))
  have whole : Instant.earliest.truncate = Instant.earliest := by decide
  have upper := Instant.truncate_le k.reading
  simp only [Instant.Representable, Instant.le_iff] at *
  refine ⟨?_, by omega⟩
  cases before : (readings k.before).head? with
  | none =>
    rw [before] at after
    rw [after, ← whole]
    exact Instant.truncate_mono low
  | some previous =>
    rw [before] at after
    obtain ⟨low, -⟩ := readable _
      (known (running_readings runs (List.mem_of_mem_head? before)))
    have bound := Instant.truncate_mono low
    rw [whole, Instant.le_iff] at bound
    change previous.truncate < t at after
    rw [Instant.lt_iff] at after
    omega

/-- What a history tells of its seconds, at any moment and, in the end, between ticks. -/
structure SecondsKept (between : Bool) (J : History) : Prop where
  increasing : (seconds J).Pairwise (· > ·)
  inReach : Everywhere InReach J
  representable : (∀ r ∈ readings J, r.Representable) → ∀ t ∈ seconds J, t.Representable
  counted : Everywhere Counted J
  covered : between = true → Near J → ∀ s : Instant, s.Whole →
    ∀ first ∈ (readings J).getLast?, ∀ last ∈ (readings J).head?,
      first.truncate ≤ s → s ≤ last.truncate → s ∈ seconds J

end History

/-- A tick returns the number that it ends with. -/
theorem Engine.tick_answer {call : Call σ} {n : Nat} {w next : World σ}
    (ran : tick call w = (.ok n, next)) : ∃ J, next.journal = .tickEnded n :: J := by
  rw [tick_run] at ran
  obtain ⟨_, _, -, ran⟩ := of_bind_ok ran
  obtain ⟨_, after, -, ran⟩ := of_bind_ok ran
  rw [bind_ok (mark_run _ _)] at ran
  cases ran
  exact ⟨after.journal, rfl⟩

/-- However code nests ticks and whatever it does in them, no second is evaluated twice, out
of reach or left out, and each tick returns how many it evaluated. -/
theorem seconds_kept {e : Bool} {w : World σ} (session : Session Rule.free e w)
    (steady : Steady w.journal) :
    SecondsKept e w.journal ∧
      ∀ (call : Call σ) (n : Nat) (before after : World σ), tick call before = (.ok n, after) →
        ∃ J, after.journal = .tickEnded n :: J := by
  obtain ⟨-, fs, reached, came⟩ := session.reached Rule.free_open
  have so := reached.followed steady
  refine ⟨⟨so.increasing, so.inReach, InReach.representable so.inReach, so.counted, ?_⟩,
    fun call n before after => tick_answer⟩
  intro ended near s whole first earliest last latest low high
  rcases so.covered near s whole first earliest last latest low high with done | ⟨c, member, -⟩
  · exact done
  · rw [came ended] at member
    cases member

/-- Every second is followed by a tick of its own, and the clock jumps within a second and
then over two. -/
def restless : Program Unit :=
  .subscribe secondTopic (fun _ => .perform .tick) fun _ =>
    .request .tick fun _ =>
      .request (.setClock ⟨900000000⟩) fun _ =>
        .request .tick fun _ =>
          .request (.setClock ⟨3000000000⟩) fun _ =>
            .request .tick fun _ => .done true

def restlessWorld : World Unit := (run 3 restless (.start ⟨500000000⟩ [] ())).2

theorem restless_session : Session Rule.free true restlessWorld :=
  .run_ended (.start ⟨500000000⟩ [] ()) restless.within_free (by decide +kernel)

theorem restless_steady : Steady restlessWorld.journal := by decide +kernel

theorem seconds_kept_restless :
    Session Rule.free true restlessWorld ∧ Steady restlessWorld.journal ∧
      Near restlessWorld.journal ∧
      seconds restlessWorld.journal = [3, 2, 1, 0].map Instant.ofSecond ∧
      SecondsKept true restlessWorld.journal :=
  ⟨restless_session, restless_steady, by decide +kernel, by decide +kernel,
    (seconds_kept restless_session restless_steady).1⟩

end Reflex
