import Reflex.Proofs.Agenda
import Reflex.Proofs.Likeness
import Reflex.Proofs.Moves

/-! Splitting ticks. Ticks at readings in between do together what the last tick does alone,
if code cannot tell the two runs apart. The runs differ in where they cut the timers into
batches: a tick fires those that became due up to its own reading, which a single tick
leaves to the next second or to its end. So one run can be ahead by a batch of timers, and
they are level again as soon as both have fired the timers of a later instant. -/
namespace Reflex
open History Engine Act

variable {σ α : Type}

namespace Instant

/-- Whole seconds from one reading to another. -/
def secondsTo (r s : Instant) : Nat := (s.second - r.second).toNat

theorem second_mono {r s : Instant} (le : r ≤ s) : r.second ≤ s.second := by
  rw [le_iff] at le
  simp only [second_eq]
  omega

theorem secondsTo_add {r s last : Instant} (le : r ≤ s) (later : s ≤ last) :
    r.secondsTo last = r.secondsTo s + s.secondsTo last := by
  rw [le_iff] at le later
  simp only [secondsTo, second_eq]
  omega

theorem addSeconds_secondsTo {r s : Instant} (le : r ≤ s) :
    r.truncate.addSeconds (r.secondsTo s) = s.truncate := by
  rw [le_iff] at le
  simp only [eq_iff, addSeconds_nanos, truncate_nanos, secondsTo, second_eq]
  omega

end Instant

namespace Engine

/-- Ticks at readings of the clock, one after the other, with the total of the seconds that
they evaluated. -/
def tickAll (call : Call σ) : List Instant → Act σ Nat
  | [] => pure 0
  | r :: rest => do
    perform call (.setClock r)
    let seconds ← perform call .tick
    return seconds + (← tickAll call rest)

end Engine

namespace World

def clocked (w : World σ) (r : Instant) : World σ := { w with clock := r }

/-- A second begins to be evaluated. -/
def opening (w : World σ) (t : Instant) : World σ :=
  { w with agenda := { w.agenda with current := some t } }.marked (.second t)

theorem alike_taking (w : World σ) (t : Instant) : w.Alike (w.taking t) :=
  ⟨rfl, (Alike.progress w rfl).told⟩

theorem alike_opening (w : World σ) (t : Instant) : w.Alike (w.opening t) :=
  ⟨rfl, (Alike.progress w rfl).told⟩

/-- The evaluation of a second ends, with whatever was evaluated around it. -/
def closing (w : World σ) (outer : Option Instant) : World σ :=
  { w with agenda := { w.agenda with current := outer } }

/-- The same timers are left. -/
structure Level (w w' : World σ) : Prop where
  alike : w.Alike w'
  timers : w.agenda.timers = w'.agenda.timers
  current : w.agenda.current = w'.agenda.current

/-- The same second is evaluated, in runs with clocks so related and these scenarios. -/
structure Beside (scenarios : List (Scenario σ)) (K : Instant → Instant → Prop) (t : Instant)
    (w w' : World σ) : Prop where
  alike : w.Alike w'
  scenarios : w.scenarios = scenarios
  here : w.agenda.current = some t
  there : w'.agenda.current = some t
  clocks : K w.clock w'.clock

/-- Timers went off and code kept its memory and the journal; nothing else has changed. -/
def Spent (w w' : World σ) : Prop :=
  ∃ timers memory journal, timers ⊆ w.agenda.timers ∧
    w' = { w with agenda := { w.agenda with timers }, memory, journal }

/-- The same world with a journal that tells the same. -/
structure Twin (w w' : World σ) : Prop where
  state : { w with journal := [] } = { w' with journal := [] }
  told : told w.journal = told w'.journal

namespace Twin

theorem refl (w : World σ) : w.Twin w := ⟨rfl, rfl⟩

theorem trans {w w' w'' : World σ} (first : w.Twin w') (second : w'.Twin w'') : w.Twin w'' :=
  ⟨first.state.trans second.state, first.told.trans second.told⟩

end Twin

namespace Spent

variable {w w' w'' : World σ}

theorem trans (first : w.Spent w') (second : w'.Spent w'') : w.Spent w'' := by
  obtain ⟨timers, _, _, within, rfl⟩ := first
  obtain ⟨timers, memory, journal, further, rfl⟩ := second
  exact ⟨timers, memory, journal, List.Subset.trans further within, rfl⟩

theorem of_noted (noted : w.Noted w') : w.Spent w' := by
  obtain ⟨memory, journal, rfl⟩ := noted
  exact ⟨w.agenda.timers, memory, journal, List.Subset.refl _, rfl⟩

theorem taking (w : World σ) (t : Instant) : w.Spent (w.taking t) :=
  ⟨_, w.memory, _, fun _ member => (List.mem_filter.mp member).1, rfl⟩

/-- A second was evaluated, whose timers went off. -/
theorem second {t : Instant} (noted : ((w.opening t).taking t).Noted w') :
    w.Spent (w'.closing w.agenda.current) := by
  obtain ⟨memory, journal, rfl⟩ := noted
  exact ⟨_, memory, journal, fun _ member => (List.mem_filter.mp member).1, rfl⟩

theorem clock (spent : w.Spent w') : w'.clock = w.clock := by
  obtain ⟨_, _, _, -, rfl⟩ := spent
  rfl

theorem lastTick (spent : w.Spent w') : w'.agenda.lastTick = w.agenda.lastTick := by
  obtain ⟨_, _, _, -, rfl⟩ := spent
  rfl

theorem maxCatchUp (spent : w.Spent w') : w'.agenda.maxCatchUp = w.agenda.maxCatchUp := by
  obtain ⟨_, _, _, -, rfl⟩ := spent
  rfl

end Spent

end World

open World

theorem tie_beside (scenarios : List (Scenario σ)) (K : Instant → Instant → Prop) (t : Instant) :
    Tie (World.Beside scenarios K t) where
  alike := Beside.alike
  noted beside noted noted' alike := by
    refine ⟨alike, ?_, ?_, ?_, ?_⟩
    · rw [noted.scenarios]
      exact beside.scenarios
    · rw [noted.agenda]
      exact beside.here
    · rw [noted'.agenda]
      exact beside.there
    · rw [noted.clock, noted'.clock]
      exact beside.clocks

/-- The code that ticks run: timers and subscribers of ticks do the same in worlds that are
alike, and a job that is due at a second does so when clocks are related as `K` says for
that second. -/
structure World.Blinded (call : Call σ) (K : Instant → Instant → Instant → Prop) (w : World σ) :
    Prop where
  timers : ∀ x ∈ w.agenda.timers, call.Blind World.Alike (x.task.program [])
  listeners : ∀ topic ∈ [secondTopic, minuteTopic, hourTopic], ∀ s ∈ w.bus.subscribers topic,
    ∀ arguments, call.Blind World.Alike (s.handler.program arguments)
  jobs : ∀ t, ∀ j ∈ w.agenda.dueJobs t,
    call.Blind (World.Beside w.scenarios (K t) t) (j.task.program [])

theorem World.Blinded.spent {call : Call σ} {K : Instant → Instant → Instant → Prop}
    {w w' : World σ} (blinded : w.Blinded call K) (spent : w.Spent w') : w'.Blinded call K := by
  obtain ⟨timers, _, _, within, rfl⟩ := spent
  exact ⟨fun x member => blinded.timers x (within member), blinded.listeners, blinded.jobs⟩

namespace Engine

/-! The loops of a tick, in two worlds at once. -/

section Loops

variable {call : Call σ} {A : World σ → World σ → Prop} (tie : Tie A) {w w' : World σ}
include tie

theorem deliver_together (arguments : List Value) (subscriptions : List (Subscription (Reaction σ)))
    (blind : ∀ s ∈ subscriptions, call.Blind A (s.handler.program arguments)) (tied : A w w') :
    Together (deliver call arguments subscriptions) (deliver call arguments subscriptions)
      w w' := by
  induction subscriptions generalizing w w' with
  | nil => exact .pure (tie.alike tied) ()
  | cons s rest ih =>
    obtain ⟨first, others⟩ := List.forall_mem_cons.mp blind
    refine .bind tie tied (.mark (tie.alike tied) _) fun _ w w' tied => ?_
    refine .bind tie tied (.discard tie tied (first tied)) fun _ w w' tied => ?_
    exact ih others tied

theorem emit_together (topic : String) (arguments : List Value)
    (blind : ∀ s ∈ w'.bus.subscribers topic, call.Blind A (s.handler.program arguments))
    (tied : A w w') :
    Together (emit call topic arguments) (emit call topic arguments) w w' := by
  have alike := tie.alike tied
  refine .got ?_
  rw [alike.bus]
  refine .bind tie tied (.mark alike _) fun _ v v' tied => ?_
  exact deliver_together tie arguments _ blind tied

theorem runTimers_paired (batch : List (Timer (Reaction σ)))
    (blind : ∀ x ∈ batch, call.Blind A (x.task.program [])) (tied : A w w') :
    Paired (runTimers call batch) (runTimers call batch) w w' := by
  induction batch generalizing w w' with
  | nil => exact .pure (tie.alike tied)
  | cons x rest ih =>
    obtain ⟨first, others⟩ := List.forall_mem_cons.mp blind
    refine .bind tie tied (.mark (tie.alike tied) _) fun tied => ?_
    refine .bind tie tied (.reporting _ (first tied)) fun tied => ?_
    exact ih others tied

theorem runJobs_paired (t : Instant) (jobs : List (Job (Reaction σ)))
    (blind : ∀ j ∈ jobs, call.Blind A (j.task.program [])) (tied : A w w') :
    Paired (runJobs call t jobs) (runJobs call t jobs) w w' := by
  induction jobs generalizing w w' with
  | nil => exact .pure (tie.alike tied)
  | cons j rest ih =>
    obtain ⟨first, others⟩ := List.forall_mem_cons.mp blind
    refine .bind tie tied (.mark (tie.alike tied) _) fun tied => ?_
    refine .bind tie tied (.reporting _ (first tied)) fun tied => ?_
    exact ih others tied

end Loops

variable {call : Call σ} {K : Instant → Instant → Instant → Prop} {w w' : World σ}

theorem notify_paired {topic : String} (named : topic ∈ [secondTopic, minuteTopic, hourTopic])
    (arguments : List Value) (blinded : w'.Blinded call K) (alike : w.Alike w') :
    Paired (notify call topic arguments) (notify call topic arguments) w w' := by
  refine .bind (tie_since w') ⟨alike, .refl w'⟩ (.mark alike _) fun tied => ?_
  have blinded := blinded.spent (.of_noted tied.2)
  exact .reporting _ (emit_together tie_alike topic arguments
    (fun s member => blinded.listeners topic named s member arguments) tied.1)

theorem publishSecond_paired (t : Instant) (blinded : w'.Blinded call K) (alike : w.Alike w') :
    Paired (publishSecond call t) (publishSecond call t) w w' := by
  have tie := tie_since w'
  have since : ∀ {v v' : World σ}, v.Alike v' ∧ w'.Noted v' → v'.Blinded call K :=
    fun tied => blinded.spent (.of_noted tied.2)
  refine .bind tie ⟨alike, .refl w'⟩ (notify_paired (by simp) _ blinded alike) fun tied => ?_
  refine .ite tied.1 fun _ => ?_
  refine .bind tie tied (notify_paired (by simp) _ (since tied) tied.1) fun tied => ?_
  refine .ite tied.1 fun _ => ?_
  exact notify_paired (by simp) _ (since tied) tied.1

theorem notifyAll_paired (t : Instant) (blinded : w'.Blinded call K) (alike : w.Alike w') :
    Paired (notifyAll call t) (notifyAll call t) w w' :=
  .bind tie_alike alike (publishSecond_paired t blinded alike) fun alike => .mark alike _

theorem runTimers_append (first rest : List (Timer (Reaction σ))) :
    runTimers call (first ++ rest) =
      (runTimers call first >>= fun _ => runTimers call rest) := by
  induction first with
  | nil => rfl
  | cons x front ih => simp only [List.cons_append, runTimers, ih, bind_assoc]

theorem runSeconds_add (t : Instant) (m n : Nat) :
    runSeconds call t (m + n) =
      (runSeconds call t m >>= fun _ => runSeconds call (t.addSeconds m) n) := by
  induction m generalizing t with
  | zero =>
    rw [Instant.addSeconds_zero, Nat.zero_add]
    rfl
  | succ m ih =>
    rw [Nat.add_right_comm, runSeconds, ih, runSeconds, Instant.addSeconds_addSeconds,
      Nat.add_comm 1 m, bind_assoc]

theorem runSecond_run (t : Instant) (w : World σ) :
    runSecond call t w = (do
      fireTimers call t
      notifyAll call t
      runJobs call t ((← get).agenda.dueJobs t)
      setCurrent w.agenda.current : Act σ Unit) (w.opening t) := rfl

end Engine

/-- The run on the left has fired a batch of timers that the run on the right still has
among those due at the bound. -/
structure World.Ahead (call : Call σ) (batch : List (Timer (Reaction σ))) (bound : Instant)
    (w w' : World σ) : Prop where
  caught : ∃ v, runTimers call batch w' = (.ok (), v) ∧ w.Alike v
  due : ∀ t, bound ≤ t → w'.agenda.dueTimers t = batch ++ w.agenda.dueTimers t
  left : ∀ t, bound ≤ t → (w'.agenda.takeDue t).timers = (w.agenda.takeDue t).timers
  current : w.agenda.current = w'.agenda.current

section Ahead

variable {call : Call σ} {K : Instant → Instant → Instant → Prop}
  {batch : List (Timer (Reaction σ))} {bound t : Instant} {w w' v v' : World σ}

theorem World.Level.ahead (level : w.Level w') (bound : Instant) : w.Ahead call [] bound w' where
  caught := ⟨w', rfl, level.alike⟩
  due t _ := by
    unfold Agenda.dueTimers
    rw [level.timers]
    rfl
  left t _ := by
    unfold Agenda.takeDue
    rw [level.timers]
  current := level.current

/-- The timers that one run is ahead by are pending in the other. -/
theorem World.Ahead.pending (ahead : w.Ahead call batch bound w') :
    ∀ x ∈ batch, x ∈ w'.agenda.timers := by
  intro x member
  have due : x ∈ w'.agenda.dueTimers bound := by
    rw [ahead.due bound (Int.le_refl _)]
    exact List.mem_append_left _ member
  exact (Agenda.mem_dueTimers.mp due).1

/-- Firing the timers that are due later makes the runs level. -/
theorem World.Ahead.fire (ahead : w.Ahead call batch bound w') (blinded : w'.Blinded call K)
    (le : bound ≤ t) :
    ∃ v v', fireTimers call t w = (.ok (), v) ∧ fireTimers call t w' = (.ok (), v') ∧
      (w.taking t).Noted v ∧ (w'.taking t).Noted v' ∧ v.Level v' := by
  obtain ⟨v, ran, alike⟩ := ahead.caught
  have due := ahead.due t le
  have pending : ∀ x ∈ w'.agenda.dueTimers t, call.Blind World.Alike (x.task.program []) :=
    fun x member => blinded.timers x (Agenda.mem_dueTimers.mp member).1
  rw [due] at pending
  obtain ⟨early, later⟩ := List.forall_mem_append.mp pending
  obtain ⟨u, y, again, caught, -, noted, same⟩ :=
    runTimers_paired tie_alike batch early (alike_taking w' t)
  obtain rfl : v = u := by
    rw [ran] at again
    exact congrArg Prod.snd again
  have apart : (w.taking t).Alike y := (alike_taking w t).symm.trans (alike.trans same)
  obtain ⟨x, x', fired, fired', kept, kept', last⟩ := runTimers_paired tie_alike _ later apart
  have noted := noted.trans kept'
  refine ⟨x, x', fired, ?_, kept, noted, last, ?_, ?_⟩
  · rw [fireTimers_run, due, runTimers_append, bind_ok caught]
    exact fired'
  · rw [kept.agenda, noted.agenda]
    exact (ahead.left t le).symm
  · rw [kept.agenda, noted.agenda]
    exact ahead.current

/-- Being ahead has nothing to do with the clock, the progress of ticks or the second being
evaluated. -/
theorem World.Ahead.moved (ahead : w.Ahead call batch bound w') (blinded : w'.Blinded call K)
    (here : w.Alike v) (there : w'.Alike v') (timers : v.agenda.timers = w.agenda.timers)
    (timers' : v'.agenda.timers = w'.agenda.timers)
    (current : v.agenda.current = v'.agenda.current) : v.Ahead call batch bound v' := by
  obtain ⟨u, ran, alike⟩ := ahead.caught
  have early : ∀ x ∈ batch, call.Blind World.Alike (x.task.program []) :=
    fun x member => blinded.timers x (ahead.pending x member)
  obtain ⟨x, y, again, caught, -, -, same⟩ := runTimers_paired tie_alike batch early there
  obtain rfl : u = x := by
    rw [ran] at again
    exact congrArg Prod.snd again
  refine ⟨⟨y, caught, here.symm.trans (alike.trans same)⟩, ?_, ?_, current⟩
  · intro t le
    unfold Agenda.dueTimers
    rw [timers, timers']
    exact ahead.due t le
  · intro t le
    unfold Agenda.takeDue
    rw [timers, timers']
    exact ahead.left t le

/-- A later second makes the runs level, from its timers on. -/
theorem World.Ahead.second (ahead : w.Ahead call batch bound w') (blinded : w'.Blinded call K)
    (le : bound ≤ t) (clocks : K t w.clock w'.clock) :
    ∃ v v', runSecond call t w = (.ok (), v) ∧ runSecond call t w' = (.ok (), v') ∧
      w.Spent v ∧ w'.Spent v' ∧ v.Level v' := by
  have opened := ahead.moved blinded (alike_opening w t) (alike_opening w' t) rfl rfl rfl
  have blindedAt : (w'.opening t).Blinded call K := ⟨blinded.1, blinded.2, blinded.3⟩
  obtain ⟨u, u', fired, fired', noted, noted', level⟩ := opened.fire blindedAt le
  have blindedNow := (blindedAt.spent (.taking _ t)).spent (.of_noted noted')
  obtain ⟨x, x', told, told', more, more', alike⟩ := notifyAll_paired t blindedNow level.alike
  have noted := noted.trans more
  have noted' := noted'.trans more'
  have beside : x.Beside w'.scenarios (K t) t x' := by
    refine ⟨alike, ?_, ?_, ?_, ?_⟩
    · exact alike.scenarios.trans noted'.scenarios
    · rw [noted.agenda]
      rfl
    · rw [noted'.agenda]
      rfl
    · rw [noted.clock, noted'.clock]
      exact clocks
  have due : x'.agenda.dueJobs t = w'.agenda.dueJobs t := by
    rw [noted'.agenda]
    rfl
  have same : x.agenda.dueJobs t = x'.agenda.dueJobs t := by
    unfold Agenda.dueJobs
    rw [alike.jobs]
  have blind := blinded.jobs t
  rw [← due] at blind
  obtain ⟨y, y', ran, ran', further, further', last⟩ :=
    runJobs_paired (tie_beside _ _ _) t _ blind beside
  have noted := noted.trans further
  have noted' := noted'.trans further'
  refine ⟨y.closing w.agenda.current, y'.closing w'.agenda.current, ?_, ?_, .second noted,
    .second noted', ⟨last.core, last.told⟩, ?_, ahead.current⟩
  · rw [runSecond_run, bind_ok fired, bind_ok told, bind_ok (get_run x), same, bind_ok ran]
    rfl
  · rw [runSecond_run, bind_ok fired', bind_ok told', bind_ok (get_run x'), bind_ok ran']
    rfl
  · -- No timer is armed in between.
    change y.agenda.timers = y'.agenda.timers
    have kept := (more.trans further).agenda
    have kept' := (more'.trans further').agenda
    rw [kept, kept']
    exact level.timers

/-- The end of a second is recorded in both runs. -/
theorem World.Ahead.evaluate (ahead : w.Ahead call batch bound w') (blinded : w'.Blinded call K)
    (le : bound ≤ t) (clocks : K t w.clock w'.clock) :
    ∃ v v', evaluateSecond call t w = (.ok (), v) ∧ evaluateSecond call t w' = (.ok (), v') ∧
      w.Spent v ∧ w'.Spent v' ∧ v.Level v' := by
  obtain ⟨v, v', ran, ran', spent, spent', level⟩ := ahead.second blinded le clocks
  exact ⟨_, _, bind_ok ran, bind_ok ran', spent.trans (.of_noted (.marked v _)),
    spent'.trans (.of_noted (.marked v' _)), level.alike.marked (.secondEnded t), level.timers,
    level.current⟩

/-- Of two level runs, the one that fires the timers due at an instant gets ahead by them. -/
theorem World.Level.overtake (level : w.Level w') (blinded : w'.Blinded call K) (t : Instant) :
    ∃ v, fireTimers call t w = (.ok (), v) ∧ (w.taking t).Noted v ∧
      ∀ x : World σ, v.Alike x → x.agenda.timers = v.agenda.timers →
        x.agenda.current = v.agenda.current → x.Ahead call (w'.agenda.dueTimers t) t w' := by
  have blind : ∀ x ∈ w'.agenda.dueTimers t, call.Blind World.Alike (x.task.program []) :=
    fun x member => blinded.timers x (Agenda.mem_dueTimers.mp member).1
  obtain ⟨v, v', fired, caught, noted, -, alike⟩ := runTimers_paired tie_alike _ blind
    ((alike_taking w t).symm.trans level.alike)
  have same : w.agenda.dueTimers t = w'.agenda.dueTimers t := by
    unfold Agenda.dueTimers
    rw [level.timers]
  refine ⟨v, ?_, noted, ?_⟩
  · rw [fireTimers_run, same]
    exact fired
  intro x seen kept current
  have timers : x.agenda.timers = (w'.agenda.takeDue t).timers := by
    rw [kept, noted.agenda, Agenda.takeDue, ← level.timers]
    rfl
  refine ⟨⟨v', caught, seen.symm.trans alike⟩, ?_, ?_, ?_⟩
  · intro later due
    rw [Agenda.dueTimers_split due]
    unfold Agenda.dueTimers
    rw [timers]
  · intro later due
    rw [← Agenda.takeDue_takeDue due]
    unfold Agenda.takeDue
    rw [timers]
    rfl
  · rw [current, noted.agenda]
    exact level.current

theorem World.Level.seconds (n : Nat) (t : Instant) (level : w.Level w')
    (blinded : w'.Blinded call K) (clocks : ∀ k < n, K (t.addSeconds k) w.clock w'.clock) :
    ∃ v v', runSeconds call t n w = (.ok (), v) ∧ runSeconds call t n w' = (.ok (), v') ∧
      w.Spent v ∧ w'.Spent v' ∧ v.Level v' := by
  induction n generalizing t w w' with
  | zero =>
    exact ⟨w, w', rfl, rfl, .of_noted (.refl w), .of_noted (.refl w'), level⟩
  | succ n ih =>
    have first := clocks 0 (Nat.succ_pos n)
    rw [Instant.addSeconds_zero] at first
    obtain ⟨v, v', ran, ran', spent, spent', level⟩ :=
      (level.ahead t).evaluate blinded (Int.le_refl _) first
    have others : ∀ k < n, K ((t.addSeconds 1).addSeconds k) v.clock v'.clock := by
      intro k less
      rw [Instant.addSeconds_addSeconds, Nat.add_comm 1 k, spent.clock, spent'.clock]
      exact clocks (k + 1) (Nat.succ_lt_succ less)
    obtain ⟨x, x', further, further', more, more', level⟩ :=
      ih (t.addSeconds 1) level (blinded.spent spent') others
    refine ⟨x, x', ?_, ?_, spent.trans more, spent'.trans more', level⟩
    · rw [runSeconds, bind_ok ran]
      exact further
    · rw [runSeconds, bind_ok ran']
      exact further'

/-- The seconds of a tick and the timers due at its reading make the runs level. -/
theorem World.Ahead.sweep (n : Nat) (t : Instant) {now : Instant}
    (ahead : w.Ahead call batch bound w') (blinded : w'.Blinded call K)
    (le : 0 < n → bound ≤ t) (due : bound ≤ now)
    (clocks : ∀ k < n, K (t.addSeconds k) w.clock w'.clock) :
    ∃ v v', (runSeconds call t n >>= fun _ => fireTimers call now) w = (.ok (), v) ∧
      (runSeconds call t n >>= fun _ => fireTimers call now) w' = (.ok (), v') ∧
      w.Spent v ∧ w'.Spent v' ∧ v.Level v' := by
  cases n with
  | zero =>
    obtain ⟨v, v', ran, ran', noted, noted', level⟩ := ahead.fire blinded due
    exact ⟨v, v', ran, ran', (Spent.taking w now).trans (.of_noted noted),
      (Spent.taking w' now).trans (.of_noted noted'), level⟩
  | succ n =>
    have first := clocks 0 (Nat.succ_pos n)
    rw [Instant.addSeconds_zero] at first
    obtain ⟨v, v', ran, ran', spent, spent', level⟩ :=
      ahead.evaluate blinded (le (Nat.succ_pos n)) first
    have blinded := blinded.spent spent'
    have others : ∀ k < n, K ((t.addSeconds 1).addSeconds k) v.clock v'.clock := by
      intro k less
      rw [Instant.addSeconds_addSeconds, Nat.add_comm 1 k, spent.clock, spent'.clock]
      exact clocks (k + 1) (Nat.succ_lt_succ less)
    obtain ⟨x, x', further, further', more, more', level⟩ :=
      level.seconds n (t.addSeconds 1) blinded others
    obtain ⟨y, y', fired, fired', noted, noted', level⟩ :=
      (level.ahead now).fire (blinded.spent more') (Int.le_refl _)
    refine ⟨y, y', ?_, ?_, ?_, ?_, level⟩
    · rw [runSeconds, bind_assoc, bind_ok ran, bind_ok further]
      exact fired
    · rw [runSeconds, bind_assoc, bind_ok ran', bind_ok further']
      exact fired'
    · exact (spent.trans more).trans ((Spent.taking x now).trans (.of_noted noted))
    · exact (spent'.trans more').trans ((Spent.taking x' now).trans (.of_noted noted'))

end Ahead

section Ticks

variable {call : Call σ} {K : Instant → Instant → Instant → Prop} {w : World σ}
  {r s last : Instant}

/-- The world in which the clock was followed to a reading. -/
def World.followed (w : World σ) (r : Instant) : World σ := (w.clocked r).beginning

/-- A tick that is not too late evaluates every second since the reading before. -/
theorem Engine.tick_gap {v : World σ} (followed : w.agenda.lastTick = some r.truncate) (le : r ≤ s)
    (near : s.second - r.second ≤ w.agenda.maxCatchUp)
    (swept : (runSeconds call (r.truncate.addSeconds 1) (r.secondsTo s) >>= fun _ =>
      fireTimers call s) (w.followed s) = (.ok (), v)) :
    tick call (w.clocked s) = (.ok (r.secondsTo s), v.marked (.tickEnded (r.secondsTo s))) := by
  have near : s.truncate.second - r.truncate.second ≤ (w.agenda.maxCatchUp : Int) := by
    simp only [Instant.second_eq, Instant.truncate_nanos] at near ⊢
    omega
  have gap : (s.truncate.second - r.truncate.second).toNat = r.secondsTo s := by
    simp only [Instant.secondsTo, Instant.second_eq, Instant.truncate_nanos]
    omega
  obtain ⟨silent, count, first⟩ := Agenda.plan_gap followed r.whole_truncate s.whole_truncate
    (Instant.truncate_mono le) near
  rw [count, gap] at first
  have seconds : runSeconds call (w.agenda.plan s.truncate).first (r.secondsTo s) =
      runSeconds call (r.truncate.addSeconds 1) (r.secondsTo s) := by
    rcases Nat.eq_zero_or_pos (r.secondsTo s) with none | some
    · rw [none]
      rfl
    · rw [first some]
  have planned : tick call (w.clocked s) = (do
      runSeconds call (w.agenda.plan s.truncate).first (w.agenda.plan s.truncate).count
      fireTimers call s
      mark (.tickEnded (w.agenda.plan s.truncate).count)
      return (w.agenda.plan s.truncate).count : Act σ Nat)
        ((w.followed s).noting (w.agenda.plan s.truncate).report) := tick_run call (w.clocked s)
  rw [planned, silent, count, gap, seconds, ← bind_assoc]
  exact bind_ok swept

theorem World.alike_followed (w : World σ) (r : Instant) : w.Alike (w.followed r) :=
  ⟨rfl, (Alike.progress (w.clocked r) rfl).told⟩

theorem World.Blinded.followed (blinded : w.Blinded call K) (r : Instant) :
    (w.followed r).Blinded call K :=
  ⟨blinded.1, blinded.2, blinded.3⟩

theorem World.Level.twin {v v' : World σ} (level : v.Level v') (clock : v.clock = v'.clock)
    (lastTick : v.agenda.lastTick = v'.agenda.lastTick) : v.Twin v' := by
  refine ⟨?_, level.alike.told⟩
  have restored : ∀ u : World σ, { u with journal := [] } =
      ({ u.core with
        clock := u.clock
        agenda := { u.core.agenda with
          timers := u.agenda.timers
          lastTick := u.agenda.lastTick
          current := u.agenda.current } } : World σ) := fun _ => rfl
  rw [restored v, restored v', level.alike.core, clock, lastTick, level.timers, level.current]

/-- A tick in between: the two ticks together do what the later one does alone. In the
seconds up to the reading in between the runs read different clocks. -/
theorem World.Blinded.tick_tick (blinded : w.Blinded call K)
    (followed : w.agenda.lastTick = some r.truncate) (le : r ≤ s) (later : s ≤ last)
    (near : last.second - r.second ≤ w.agenda.maxCatchUp)
    (before : ∀ k < r.secondsTo s, K (r.truncate.addSeconds (k + 1)) s last)
    (after : ∀ t, K t last last) :
    ∃ mid split whole, tick call (w.clocked s) = (.ok (r.secondsTo s), mid) ∧
      (w.followed s).Spent mid ∧
      tick call (mid.clocked last) = (.ok (s.secondsTo last), split) ∧
      tick call (w.clocked last) = (.ok (r.secondsTo s + s.secondsTo last), whole) ∧
      split.Twin whole := by
  have shared : (w.followed s).Level (w.followed last) :=
    ⟨(w.alike_followed s).symm.trans (w.alike_followed last), rfl, rfl⟩
  have clocks : ∀ k < r.secondsTo s, K ((r.truncate.addSeconds 1).addSeconds k) s last := by
    intro k less
    rw [Instant.addSeconds_addSeconds, Nat.add_comm 1 k]
    exact before k less
  obtain ⟨v, v', ran, ran', spent, spent', level⟩ :=
    shared.seconds (r.secondsTo s) (r.truncate.addSeconds 1) (blinded.followed last) clocks
  have blinded' := (blinded.followed last).spent spent'
  -- The first tick fires the timers due at its reading, which the single tick still has.
  obtain ⟨u, fired, noted, overtaken⟩ := level.overtake blinded' s
  let mid := u.marked (.tickEnded (r.secondsTo s))
  have ended : u.Alike mid := .progress u rfl
  have ahead := overtaken (mid.followed last) (ended.trans (mid.alike_followed last)) rfl rfl
  have spentMid : (w.followed s).Spent mid :=
    (spent.trans ((Spent.taking v s).trans (.of_noted noted))).trans (.of_noted (.marked u _))
  have reading : v'.clock = last := spent'.clock
  have soon : s ≤ s.truncate.addSeconds 1 := by
    simp only [Instant.le_iff, Instant.addSeconds_nanos, Instant.truncate_nanos]
    omega
  have same : ∀ k < s.secondsTo last,
      K ((s.truncate.addSeconds 1).addSeconds k) (mid.followed last).clock v'.clock := by
    intro k _
    rw [reading]
    exact after _
  obtain ⟨x, x', swept, swept', more, more', level⟩ := ahead.sweep (s.secondsTo last)
    (s.truncate.addSeconds 1) blinded' (fun _ => soon) later same
  have limit : mid.agenda.maxCatchUp = w.agenda.maxCatchUp := spentMid.maxCatchUp
  have steps := Int.sub_le_sub_right (Instant.second_mono later) r.second
  have rest := Int.sub_le_sub_left (Instant.second_mono le) last.second
  have total := Instant.secondsTo_add le later
  have turned : (r.truncate.addSeconds 1).addSeconds (r.secondsTo s) = s.truncate.addSeconds 1 := by
    rw [Instant.addSeconds_addSeconds, Nat.add_comm, ← Instant.addSeconds_addSeconds,
      Instant.addSeconds_secondsTo le]
  have whole : (runSeconds call (r.truncate.addSeconds 1) (r.secondsTo last) >>= fun _ =>
      fireTimers call last) (w.followed last) = (.ok (), x') := by
    rw [total, runSeconds_add, bind_assoc, bind_ok ran', turned]
    exact swept'
  let split := x.marked (.tickEnded (s.secondsTo last))
  let single := x'.marked (.tickEnded (r.secondsTo s + s.secondsTo last))
  have here : x.Alike split := .progress x rfl
  have there : x'.Alike single := .progress x' rfl
  have marked : split.Level single :=
    ⟨here.symm.trans (level.alike.trans there), level.timers, level.current⟩
  refine ⟨mid, split, single, tick_gap followed le (Int.le_trans steps near)
    ((bind_ok ran).trans fired), spentMid, tick_gap spentMid.lastTick later ?_ swept, ?_,
    marked.twin ?_ ?_⟩
  · rw [limit]
    exact Int.le_trans rest near
  · have ticked := tick_gap followed (Int.le_trans le later) near whole
    rw [total] at ticked
    exact ticked
  · exact more.clock.trans (more'.clock.trans reading).symm
  · exact more.lastTick.trans (more'.lastTick.trans spent'.lastTick).symm

theorem Engine.tickAll_cons {n m : Nat} {rest : List Instant} {mid v : World σ}
    (first : tick call (w.clocked s) = (.ok n, mid)) (others : tickAll call rest mid = (.ok m, v)) :
    tickAll call (s :: rest) w = (.ok (n + m), v) := by
  have set : perform call (.setClock s) w = (.ok (), w.clocked s) := rfl
  rw [tickAll, bind_ok set]
  exact (bind_ok first).trans (bind_ok others)

theorem Engine.tickAll_single {n : Nat} {v : World σ}
    (ticked : tick call (w.clocked s) = (.ok n, v)) : tickAll call [s] w = (.ok n, v) := by
  have none : tickAll call [] v = (.ok 0, v) := rfl
  exact tickAll_cons ticked none

/-- Each second that a reading in between evaluates is related by `K` to that reading and the
last one. -/
def Readings.Agree (K : Instant → Instant → Instant → Prop) (last : Instant) :
    Instant → List Instant → Prop
  | _, [] => True
  | r, s :: rest => (∀ k < r.secondsTo s, K (r.truncate.addSeconds (k + 1)) s last) ∧
      Agree K last s rest

/-- Ticks at readings in between do together what the last one does alone. Induction over the
readings, each of which is a tick in between. -/
theorem World.Blinded.tickAll_twin (blinded : w.Blinded call K)
    (followed : w.agenda.lastTick = some r.truncate) {readings : List Instant}
    (sorted : (r :: (readings ++ [last])).Pairwise (· ≤ ·))
    (near : last.second - r.second ≤ w.agenda.maxCatchUp)
    (agree : Readings.Agree K last r readings) (after : ∀ t, K t last last) :
    ∃ split whole, tickAll call (readings ++ [last]) w = (.ok (r.secondsTo last), split) ∧
      tickAll call [last] w = (.ok (r.secondsTo last), whole) ∧ split.Twin whole := by
  induction readings generalizing r w with
  | nil =>
    have le : r ≤ last := List.rel_of_pairwise_cons sorted List.mem_cons_self
    have same : r.secondsTo r = 0 := by
      unfold Instant.secondsTo
      omega
    have vacuous : ∀ k < r.secondsTo r, K (r.truncate.addSeconds (k + 1)) r last := by
      rw [same]
      exact fun k less => absurd less (Nat.not_lt_zero k)
    obtain ⟨_, _, whole, -, -, -, single, -⟩ :=
      blinded.tick_tick followed (Int.le_refl _) le near vacuous after
    rw [same, Nat.zero_add] at single
    have ran := tickAll_single single
    exact ⟨whole, whole, ran, ran, .refl whole⟩
  | cons s rest ih =>
    obtain ⟨first, others⟩ := List.pairwise_cons.mp sorted
    have le : r ≤ s := first s List.mem_cons_self
    have later : s ≤ last := List.rel_of_pairwise_cons others (by simp)
    obtain ⟨mid, split, whole, ticked, spent, further, single, twin⟩ :=
      blinded.tick_tick followed le later near agree.1 after
    have soon : last.second - s.second ≤ (mid.agenda.maxCatchUp : Int) := by
      have limit : mid.agenda.maxCatchUp = w.agenda.maxCatchUp := spent.maxCatchUp
      rw [limit]
      exact Int.le_trans (Int.sub_le_sub_left (Instant.second_mono le) last.second) near
    obtain ⟨all, one, ran, alone, same⟩ :=
      ih ((blinded.followed s).spent spent) spent.lastTick others soon agree.2
    have again := tickAll_single further
    obtain rfl : one = split := by
      rw [alone] at again
      exact congrArg Prod.snd again
    rw [Instant.secondsTo_add le later]
    exact ⟨all, whole, tickAll_cons ticked ran, tickAll_single single, same.trans twin⟩

end Ticks

/-! Code that only records. -/

/-- Timers, jobs and the subscribers of ticks only record. -/
structure World.Recording (w : World σ) : Prop where
  timers : ∀ x ∈ w.agenda.timers, (x.task.program []).Records
  jobs : ∀ j ∈ w.agenda.jobs, (j.task.program []).Records
  listeners : ∀ topic ∈ [secondTopic, minuteTopic, hourTopic], ∀ s ∈ w.bus.subscribers topic,
    ∀ arguments, (s.handler.program arguments).Records

theorem World.Recording.blinded {w : World σ} (recording : w.Recording) (depth : Nat) :
    w.Blinded (exec (depth + 1)) fun _ _ _ => True where
  timers x member := Program.Records.blind tie_alike (recording.timers x member) depth
  listeners topic named s member arguments :=
    Program.Records.blind tie_alike (recording.listeners topic named s member arguments) depth
  jobs t j member :=
    Program.Records.blind (tie_beside _ _ t)
      (recording.jobs j (List.mem_filter.mp member).1) depth

theorem Readings.agree_trivially (last r : Instant) (readings : List Instant) :
    Agree (fun _ _ _ => True) last r readings := by
  induction readings generalizing r with
  | nil => trivial
  | cons s rest ih => exact ⟨fun _ _ => trivial, ih s⟩

/-- Where code only records, any ticks in between make no difference: the number of evaluated
seconds, all that ran in them and the state in the end are those of the single tick. -/
theorem ticks_split {w : World σ} (depth : Nat) (recording : w.Recording) {r last : Instant}
    (followed : w.agenda.lastTick = some r.truncate) {readings : List Instant}
    (sorted : (r :: (readings ++ [last])).Pairwise (· ≤ ·))
    (near : last.second - r.second ≤ w.agenda.maxCatchUp) :
    ∃ split whole,
      tickAll (exec (depth + 1)) (readings ++ [last]) w = (.ok (r.secondsTo last), split) ∧
      tickAll (exec (depth + 1)) [last] w = (.ok (r.secondsTo last), whole) ∧
      { split with journal := [] } = { whole with journal := [] } ∧
      told split.journal = told whole.journal := by
  obtain ⟨split, whole, ran, alone, state, same⟩ := (recording.blinded depth).tickAll_twin followed
    sorted near (Readings.agree_trivially last r readings) fun _ => trivial
  exact ⟨split, whole, ran, alone, state, same⟩

/-- Counts how often it runs, and writes the count and a value down. -/
def entry (v : Value) : Program Nat :=
  .load fun count => .save (count + 1) (.note (.note (.array [.int count, v])) (.done true))

/-- Halfway through the last second of a minute, with timers before, at and after the start
of the next. -/
def diary : World Nat :=
  { World.start ⟨59500000000⟩ [] 0 with
    bus := ⟨2, [⟨0, secondTopic, .custom fun arguments => entry (.array arguments)⟩,
      ⟨1, minuteTopic, .custom fun _ => .fail .dropped⟩]⟩
    agenda := { (Agenda.empty : Agenda (Reaction Nat)) with
      jobs := [⟨0, Schedule.minutely, .custom fun _ => entry .null⟩]
      nextJob := 1
      timers := [⟨0, ⟨60300000000⟩, .custom fun _ => entry (.int 0)⟩,
        ⟨1, ⟨60000000000⟩, .custom fun _ => entry (.int 1)⟩,
        ⟨2, ⟨59700000000⟩, .custom fun _ => entry (.int 2)⟩,
        ⟨3, ⟨60300000000⟩, .custom fun _ => entry (.int 3)⟩,
        ⟨4, ⟨61900000000⟩, .custom fun _ => entry (.int 4)⟩]
      nextTimer := 5
      lastTick := some ⟨59000000000⟩ } }

theorem diary_recording : diary.Recording := by
  refine ⟨?_, ?_, ?_⟩
  · simp [diary, entry, Reaction.program, Program.Records]
  · simp [diary, entry, Reaction.program, Program.Records]
  · simp [diary, entry, Reaction.program, Program.Records, Bus.subscribers, List.filter_cons,
      secondTopic, minuteTopic, hourTopic]

/-- Twice within the same second and once in the next. -/
def diaryReadings : List Instant := [⟨59800000000⟩, ⟨59800000000⟩, ⟨60400000000⟩]

def diaryEnd : Instant := ⟨61900000000⟩

theorem ticks_split_diary :
    diary.Recording ∧ diary.agenda.lastTick = some diary.clock.truncate ∧
      (diary.clock :: (diaryReadings ++ [diaryEnd])).Pairwise (· ≤ ·) ∧
      diaryEnd.second - diary.clock.second ≤ diary.agenda.maxCatchUp ∧
      diary.clock.secondsTo diaryEnd = 2 ∧
      ∃ split whole,
        tickAll (exec 1) (diaryReadings ++ [diaryEnd]) diary =
          (.ok (diary.clock.secondsTo diaryEnd), split) ∧
        tickAll (exec 1) [diaryEnd] diary = (.ok (diary.clock.secondsTo diaryEnd), whole) ∧
        { split with journal := [] } = { whole with journal := [] } ∧
        told split.journal = told whole.journal := by
  have followed : diary.agenda.lastTick = some diary.clock.truncate := by decide
  have sorted : (diary.clock :: (diaryReadings ++ [diaryEnd])).Pairwise (· ≤ ·) := by decide
  have near : diaryEnd.second - diary.clock.second ≤ diary.agenda.maxCatchUp := by decide
  exact ⟨diary_recording, followed, sorted, near, by decide,
    ticks_split 0 diary_recording followed sorted near⟩

end Reflex
