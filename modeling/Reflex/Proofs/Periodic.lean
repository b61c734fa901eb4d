import Reflex.Proofs.Rounds
import Reflex.Proofs.Timers

/-! When periodic jobs run: once in every evaluated second in which they are due, if they are
registered when the timers and the topics of the second have been served, in the order of their
registration, and at no other time. -/
namespace Reflex
open Act Engine History

variable {σ α : Type} {rule : Rule}

/-! The timers that ticks have taken. -/

namespace History

/-- For each tick in progress, the timers that it has taken and not started. -/
def hands : History → List (List Nat)
  | [] => []
  | .tickBegan _ _ :: earlier => [] :: hands earlier
  | .tickEnded _ :: earlier => (hands earlier).tail
  | .timersTaken _ timers :: earlier => timers :: (hands earlier).tail
  | .timerStarted _ :: earlier => (hands earlier).modifyHead List.tail
  | _ :: earlier => hands earlier

/-- The due jobs of a second are taken when its tick has no timer left to start. -/
def Rested (earlier : History) : Mark → Prop
  | .served _ => (hands earlier).head? = some []
  | _ => True

theorem hands_append {J later : History} (idle : ∀ m ∈ later, m.isIdle = true) :
    hands (later ++ J) = hands J := by
  apply append_of_silent _ idle
  rintro (_ | _) J first <;> first | rfl | cases first

end History

def Mark.isServing : Mark → Bool
  | served _ => true
  | _ => false

/-- What code does to timers and variables serves no second. -/
theorem Move.unserved {w w' : World σ} (move : Move rule w w') : w.Without Mark.isServing w' := by
  have absorbs : World.Absorbs (World.Without Mark.isServing : World σ → World σ → Prop) := {
    refl := fun _ => .of_same rfl
    trans := .trans
    store := fun _ _ _ => .of_same rfl
    arm := fun _ _ _ => .of_mark rfl rfl
    cancel := fun _ _ => .of_mark rfl rfl
    written := fun w _ => .marked w rfl }
  cases move with
  | apart apart => exact .of_same apart.journal
  | @plain m plain =>
    apply World.Without.marked
    cases m <;> first | rfl | cases plain
  | arm | cancel => exact .of_mark rfl rfl
  | drop => exact .of_same rfl
  | write => exact absorbs.writing w _ _ _

/-- A second is served by a tick that has no timer left to start. -/
theorem Step.unserved {m m' : Moment σ} (step : Step rule m m') :
    m.world.Without Mark.isServing m'.world ∨
      ∃ k rest t, Frames.ticks m.frames = k :: rest ∧ k.batch = [] ∧
        m'.world = m.world.marked (.served t) := by
  cases step with
  | code _ move => exact .inl move.unserved
  | begin | close => exact .inl (.of_mark rfl rfl)
  | fire | lapse | finish => exact .inl (.marked _ rfl)
  | second => exact .inl ⟨[_, _], rfl, by simp [Mark.isServing]⟩
  | serve rested => exact .inr ⟨_, _, _, rfl, rested, rfl⟩
  | ask => exact .inl (.of_same rfl)
  | @expire w fs name timer =>
    left
    unfold World.lapsing
    split
    · exact .of_mark rfl rfl
    · exact .of_same rfl

/-- The journal tells which timers the ticks in progress have left. -/
theorem Handling.hands {w w' : World σ} {ks ks' : List (Ticking σ)}
    (handling : Handling w ks w' ks')
    (told : hands w.journal = ks.map fun k => k.batch.map Timer.id) :
    hands w'.journal = ks'.map fun k => k.batch.map Timer.id := by
  cases handling with
  | shift shifts =>
    induction shifts with
    | refl => exact told
    | tail _ last ih =>
      cases last with
      | idle idle =>
        obtain ⟨⟨later, journal, quiet⟩, -⟩ := idle
        rw [journal, hands_append quiet]
        exact ih
      | arm | cancel => exact ih
  | begin =>
    change [] :: History.hands w.journal = _
    rw [told]
    rfl
  | second | close =>
    change _ :: (History.hands w.journal).tail = _
    rw [told]
    rfl
  | start batch =>
    change (History.hands w.journal).modifyHead _ = _
    rw [told]
    simp [batch]
  | finish =>
    change (History.hands w.journal).tail = _
    rw [told]
    rfl

theorem Reached.rested {m : Moment σ} (reached : Reached rule m) :
    hands m.world.journal = (Frames.ticks m.frames).map (fun k => k.batch.map Timer.id) ∧
      Everywhere Rested m.world.journal := by
  apply reached.invariant (P := fun m => hands m.world.journal =
    (Frames.ticks m.frames).map (fun k => k.batch.map Timer.id) ∧
      Everywhere Rested m.world.journal)
  · exact fun _ _ _ => ⟨rfl, .nil⟩
  · rintro m m' - ⟨told, rested⟩ step
    refine ⟨step.handling.hands told, ?_⟩
    rcases step.unserved with ⟨later, journal, quiet⟩ | ⟨k, rest, t, top, empty, served⟩
    · rw [journal]
      apply rested.append
      intro m member J
      have other := quiet m member
      cases m <;> trivial
    · rw [served]
      apply Everywhere.cons _ rested
      rw [Rested, told, top]
      simp [empty]

/-! Periodic jobs. -/

/-- Code that came to its end leaves the second being evaluated as it was. -/
theorem Act.Works.current {x : Act σ α} {w next : World σ} {outcome : Except Interrupt α}
    (works : Works x w) (ran : x w = (outcome, next)) (came : ended outcome = true) :
    next.agenda.current = w.agenda.current := by
  obtain ⟨ks, known⟩ := w.current_watched
  obtain ⟨_, _, -, after⟩ := works ks [] known
  rw [ran] at after
  exact (after came).2.trans known.symm

/-- What a journal tells of the second that is the tick time. -/
def History.now (J : History) (clock : Instant) : Instant :=
  ((rounds J).head?.map Round.second).getD clock

/-- What the history of a world tells of periodic jobs, at any moment and, in the end, between
runs of code. -/
structure PeriodsKept (between : Bool) (w : World σ) : Prop where
  registered : ∀ job s, (job, s) ∈ registered w.journal ↔
    .jobRegistered job s ∈ w.journal ∧ .jobRemoved job true ∉ w.journal
  ordered : (History.registered w.journal).Pairwise (·.1 < ·.1)
  /-- Each second goes through its topics and then through its due jobs in order. -/
  inTurn : Everywhere InTurn w.journal
  atOnce : Everywhere AtOnce w.journal
  rested : Everywhere Rested w.journal
  never : ∀ job t, (jobRuns w.journal).count (job, t) ≤ (services w.journal).count (job, t)
  starts : between = true →
    ∀ job t, (jobRuns w.journal).count (job, t) = (services w.journal).count (job, t)
  served : between = true → ∀ t, (servings w.journal).count t = (seconds w.journal).count t
  inOrder : ∀ later mid earlier t,
    w.journal = later ++ .secondEnded t :: (mid ++ .served t :: earlier) →
    (∀ m ∈ mid, (∀ u, m ≠ .second u) ∧ ∀ u, m ≠ .secondEnded u) →
    (jobRuns mid).reverse = (due t earlier).map (·, t)
  tickTime : w.tickTime = now w.journal w.clock
  idle : between = true → rounds w.journal = []
  /-- After a tick, the tick time is again what it would have been without it. -/
  restored : ∀ depth n next, tick (exec depth) w = (.ok n, next) →
    next.tickTime = now w.journal next.clock

/-- However code registers and removes jobs and nests ticks, a job starts once for each time that
the due jobs of a second are taken while it is registered and due, which happens once for each
evaluated second. -/
theorem periods_kept {e : Bool} {w : World σ} (session : Session Rule.free e w) :
    PeriodsKept e w := by
  obtain ⟨-, fs, moment, -⟩ := session.reached Rule.free_open
  obtain ⟨ks, all, reached, came⟩ := session.roster
  have told := reached.told
  have current : w.agenda.current = (rounds w.journal).head?.map Round.second := by
    rw [← told.rounds, reached.sound.current]
    simp [Watches.current, Watch.round, Function.comp_def]
  have idle : e = true → rounds w.journal = [] := by
    intro between
    rw [← told.rounds, (came between).1]
    rfl
  have starts := starts_add_left told.inTurn
  constructor
  · exact fun job s => mem_registered told.numbers told.finds
  · exact registered_ordered told.numbers
  · exact told.inTurn
  · exact told.atOnce
  · exact moment.rested.2
  · exact fun job t => Nat.le_of_add_right_le (Nat.le_of_eq (starts job t))
  · intro between job t
    have all := starts job t
    rw [idle between] at all
    exact all
  · intro between t
    have all := servings_add_unserved told.inTurn t
    rw [idle between] at all
    exact all
  · intro later mid earlier t split alone
    have inTurn := told.inTurn
    rw [split] at inTurn
    obtain ⟨rest, top, so⟩ := starts_in_order inTurn.before.tail alone
    have last : (rounds (mid ++ .served t :: earlier)).head? = some ⟨t, [], some []⟩ :=
      inTurn.split
    rw [top] at last
    cases last
    simpa using so
  · rw [World.tickTime, current, now]
  · exact idle
  · intro depth n next ran
    rw [World.tickTime, (tick_works (exec_works depth)).current ran rfl, current, now]

def eightOClock : Instant := .ofSecond 1792137600

/-- A job for every second registers another one for every minute each time that it runs. The
clock passes eight, with a subscriber of the minute and a job of the hour that fail, and the
first job is removed in the end. -/
def rota : Program Unit :=
  .every Schedule.secondly
    (.every Schedule.minutely (.done true) fun _ => .done true) fun first =>
    .every Schedule.hourly (.fail .dropped) fun _ =>
      .subscribe minuteTopic (fun _ => .fail .dropped) fun _ =>
        .request .tick fun _ =>
          .request (.setClock (eightOClock.addSeconds 1)) fun _ =>
            .request .tick fun _ =>
              .request (.remove first) fun _ =>
                .request (.setClock (eightOClock.addSeconds 2)) fun _ => .perform .tick

def rotaWorld : World Unit := (run 3 rota (.start ⟨1792137599500000000⟩ [] ())).2

theorem rota_session : Session Rule.free true rotaWorld :=
  .run_ended (.start ⟨1792137599500000000⟩ [] ()) rota.within_free (by decide +kernel)

/-- At eight the jobs that were there before start in order; a job that is registered then has to
wait, and the one that was removed has stopped. -/
theorem periods_kept_rota :
    Session Rule.free true rotaWorld ∧
      (seconds rotaWorld.journal).reverse = [Instant.ofSecond 1792137599, eightOClock,
        eightOClock.addSeconds 1, eightOClock.addSeconds 2] ∧
      (jobRuns rotaWorld.journal).reverse = [(0, Instant.ofSecond 1792137599), (0, eightOClock),
        (1, eightOClock), (2, eightOClock), (0, eightOClock.addSeconds 1)] ∧
      PeriodsKept true rotaWorld :=
  ⟨rota_session, by decide +kernel, by decide +kernel, periods_kept rota_session⟩

end Reflex
