import Reflex.Proofs.Blindness
import Reflex.Proofs.Duties

/-! Failures in a tick. Whether a timer, a job or a publication fails makes no difference to a
tick, if it has the same effects either way. -/
namespace Reflex
open Act Engine History

variable {σ α β : Type}

/-- The topics published on, with the arguments. -/
def History.published (J : History) : List (String × List Value) := J.filterMap fun
  | .emitted topic arguments => some (topic, arguments)
  | _ => none

/-- The two steps have the same effects in every world; one may fail where the other succeeds. -/
def Act.Mimics (x : Act σ α) (y : Act σ β) : Prop :=
  ∀ w, (x w).2.Same (y w).2 ∧ ended (x w).1 = ended (y w).1

/-- Run in either way, timers, jobs and the publications of ticks have the same effects. -/
structure Call.Mimics (call call' : Call σ) : Prop where
  tasks (task : Reaction σ) : (call (task.program [])).Mimics (call' (task.program []))
  publications (topic : String) (t : Instant) : topic ∈ [secondTopic, minuteTopic, hourTopic] →
    (emit call topic [Tick.payload t]).Mimics (emit call' topic [Tick.payload t])

/-- What two ticks have in common that differ in the reports of failures alone. -/
structure TicksAlike (ticked ticked' : Except Interrupt Nat × World σ) : Prop where
  answer : ∀ cause, ticked.1 ≠ .error (.failed cause)
  count : ticked'.1 = ticked.1
  seconds : seconds ticked'.2.journal = seconds ticked.2.journal
  published : published ticked'.2.journal = published ticked.2.journal
  timers : started ticked'.2.journal = started ticked.2.journal
  jobs : jobRuns ticked'.2.journal = jobRuns ticked.2.journal
  told : unreported ticked'.2.journal = unreported ticked.2.journal
  state : ticked'.2 = { ticked.2 with journal := ticked'.2.journal }

theorem Act.Mimics.akin {x y : Act σ α} (mimics : x.Mimics y) (blind : x.Blind) {w w' : World σ}
    (same : w.Same w') : Akin x y w w' := by
  obtain ⟨outcome, alike⟩ := (blind same).akin
  obtain ⟨effects, further⟩ := mimics w'
  exact ⟨outcome.trans further, alike.trans effects⟩

/-- Failures in a tick stay where they are: two ticks from the same world that differ in what
fails evaluate the same seconds and do the same in them. -/
theorem failures_isolated {depth : Nat} {call : Call σ} (mimics : Call.Mimics (exec depth) call)
    {w w' : World σ} (same : w.Same w') : TicksAlike (tick (exec depth) w) (tick call w') := by
  have akin : (exec depth).Akin call := {
    tasks := fun task _ _ same => (mimics.tasks task).akin (exec_blind depth _) same
    publications := fun topic t _ _ named same =>
      (mimics.publications topic t named).akin (emit_blind (exec_blind depth) _ _) same }
  have unfailing := tick_unfailing (exec depth) w
  obtain ⟨r, v, v', ran, ran', last⟩ := tick_even akin same
  rw [ran] at unfailing ⊢
  rw [ran']
  constructor
  · exact unfailing
  · rfl
  · exact (last.reading fun m report => by cases m <;> first | rfl | cases report).symm
  · exact (last.reading fun m report => by cases m <;> first | rfl | cases report).symm
  · exact (last.reading fun m report => by cases m <;> first | rfl | cases report).symm
  · exact (last.reading fun m report => by cases m <;> first | rfl | cases report).symm
  · exact last.journal.symm
  · obtain ⟨J, rfl, -⟩ := last
    rfl

/-! Code that is made to fail. -/

theorem Roster.Next.grows {m m' : Roster σ} (next : Next m m') :
    ∃ later, m'.world.journal = later ++ m.world.journal := by
  cases next with
  | idle idles =>
    obtain ⟨later, journal, -⟩ := idles.journal
    exact ⟨later, journal⟩
  | enlist | dismiss | take | start | close => exact ⟨[_], rfl⟩
  | second | announce => exact ⟨[_, _], rfl⟩

/-- Code only adds to the journal. -/
theorem Act.Works.grows {x : Act σ α} {w : World σ} (works : Works x w) :
    ∃ later, (x w).2.journal = later ++ w.journal := by
  obtain ⟨ks, known⟩ := w.current_watched
  obtain ⟨_, _, path, -⟩ := works ks [] known
  suffices grown : ∀ {m m' : Roster σ}, Roster.Path m m' →
      ∃ later, m'.world.journal = later ++ m.world.journal from grown path
  intro m m' path
  induction path with
  | refl => exact ⟨[], rfl⟩
  | tail _ next ih =>
    obtain ⟨before, earlier⟩ := ih
    obtain ⟨later, journal⟩ := next.grows
    exact ⟨later ++ before, by rw [journal, earlier, List.append_assoc]⟩

def Mark.isDelivery : Mark → Bool
  | delivered _ _ => true
  | _ => false

/-- Nobody was called before who may be followed by another subscriber. -/
def World.Lone (w : World σ) : Prop :=
  w.bus.subscriptions.length ≤ 1 ∧ w.journal.countP Mark.isDelivery ≤ 1

instance (w : World σ) : Decidable w.Lone := by
  unfold World.Lone
  infer_instance

/-- Code fails at its end where it would have succeeded, unless that could keep others from being
called. -/
def sabotaged (call : Call σ) : Call σ := fun p w =>
  match call p w with
  | (.ok holds, last) =>
    if w.Lone then (.error (.failed .dropped), last) else (.ok holds, last)
  | stopped => stopped

theorem sabotaged_mimics (call : Call σ) (p : Program σ) : (call p).Mimics (sabotaged call p) := by
  intro w
  unfold sabotaged
  split
  · rename_i ran
    rw [ran]
    split
    · exact ⟨.refl _, rfl⟩
    · exact ⟨.refl _, rfl⟩
  · exact ⟨.refl _, rfl⟩

theorem sabotaged_spared (call : Call σ) (p : Program σ) {w : World σ} (spared : ¬ w.Lone) :
    sabotaged call p w = call p w := by
  unfold sabotaged
  split
  · rename_i ran
    rw [if_neg spared, ran]
  · rfl

section Sparing

variable {depth : Nat} {arguments : List Value}

theorem deliver_behind {s : Subscription (Reaction σ)} {rest : List (Subscription (Reaction σ))}
    {w : World σ} (spared : ¬ (w.marked (.delivered s.id arguments)).Lone)
    (others : ∀ v : World σ, 1 ≤ v.journal.countP Mark.isDelivery →
      deliver (sabotaged (exec depth)) arguments rest v = deliver (exec depth) arguments rest v) :
    deliver (sabotaged (exec depth)) arguments (s :: rest) w =
      deliver (exec depth) arguments (s :: rest) w := by
  have first := sabotaged_spared (exec depth) (s.handler.program arguments) spared
  obtain ⟨later, journal⟩ :=
    (exec_works depth (s.handler.program arguments) (w.marked (.delivered s.id arguments))).grows
  rw [deliver, deliver, bind_ok (mark_run _ _), bind_ok (mark_run _ _)]
  rcases ran : exec depth (s.handler.program arguments) (w.marked (.delivered s.id arguments))
    with ⟨r, next⟩
  rw [ran] at first journal
  cases r with
  | error i => rw [bind_error (discard_error first), bind_error (discard_error ran)]
  | ok holds =>
    rw [bind_ok (discard_ok first), bind_ok (discard_ok ran)]
    apply others
    rw [journal, List.countP_append]
    change _ ≤ _ + List.countP _ (_ :: w.journal)
    rw [List.countP_cons_of_pos (by rfl)]
    omega

/-- Once a subscriber was called, all others are spared. -/
theorem deliver_spared (subscriptions : List (Subscription (Reaction σ))) (w : World σ)
    (called : 1 ≤ w.journal.countP Mark.isDelivery) :
    deliver (sabotaged (exec depth)) arguments subscriptions w =
      deliver (exec depth) arguments subscriptions w := by
  induction subscriptions generalizing w with
  | nil => rfl
  | cons s rest ih =>
    apply deliver_behind _ ih
    rintro ⟨-, few⟩
    change List.countP _ (_ :: w.journal) ≤ 1 at few
    rw [List.countP_cons_of_pos (by rfl)] at few
    omega

theorem deliver_one_mimics {call call' : Call σ} (mimics : ∀ p, (call p).Mimics (call' p))
    (s : Subscription (Reaction σ)) :
    (deliver call arguments [s]).Mimics (deliver call' arguments [s]) := by
  intro w
  obtain ⟨effects, outcome⟩ := mimics (s.handler.program arguments)
    (w.marked (.delivered s.id arguments))
  have only : ∀ call : Call σ,
      (deliver call arguments [s] w).2 =
          (call (s.handler.program arguments) (w.marked (.delivered s.id arguments))).2 ∧
        ended (deliver call arguments [s] w).1 =
          ended (call (s.handler.program arguments) (w.marked (.delivered s.id arguments))).1 := by
    intro call
    rw [deliver, bind_ok (mark_run _ _)]
    rcases ran : call (s.handler.program arguments) (w.marked (.delivered s.id arguments))
      with ⟨r, next⟩
    cases r with
    | ok holds =>
      rw [bind_ok (discard_ok ran)]
      exact ⟨rfl, rfl⟩
    | error i =>
      rw [bind_error (discard_error ran)]
      exact ⟨rfl, rfl⟩
  rw [(only call).1, (only call').1, (only call).2, (only call').2]
  exact ⟨effects, outcome⟩

theorem emit_sabotaged (topic : String) :
    (emit (exec depth) topic arguments : Act σ Unit).Mimics
      (emit (sabotaged (exec depth)) topic arguments) := by
  intro w
  rw [emit_run, emit_run]
  have within : (w.bus.subscribers topic).length ≤ w.bus.subscriptions.length :=
    List.length_filter_le _ _
  match listed : w.bus.subscribers topic with
  | [] => exact ⟨.refl _, rfl⟩
  | [s] => exact deliver_one_mimics (sabotaged_mimics _) s _
  | s :: t :: rest =>
    rw [deliver_behind _ (deliver_spared (t :: rest))]
    · exact ⟨.refl _, rfl⟩
    · rintro ⟨few, -⟩
      change w.bus.subscriptions.length ≤ 1 at few
      rw [listed] at within
      simp only [List.length_cons] at within
      omega

end Sparing

theorem exec_sabotaged (depth : Nat) :
    Call.Mimics (exec depth : Call σ) (sabotaged (exec depth)) where
  tasks _ := sabotaged_mimics _ _
  publications topic _ _ := emit_sabotaged topic

/-- A timer, two jobs and a subscriber of the second are waiting for the tick; each leaves a note
and the first job registers another one. -/
def crew : Program Unit :=
  .subscribe secondTopic (fun _ => .note (.note (.text "subscriber")) (.done true)) fun _ =>
    .every Schedule.secondly
      (.every Schedule.minutely (.done true) fun _ => .note (.note (.text "first")) (.done true))
      fun _ => .every Schedule.secondly
        (.note (.note (.text "second")) (.done true)) fun _ =>
          .once (.ofSeconds 0) (.note (.note (.text "timer")) (.done true)) fun _ => .done true

def crewWorld : World Unit := (run 1 crew (.start ⟨1000000000⟩ [] ())).2

/-- In one tick nothing fails, in the other the timer, the publication and both jobs do. -/
theorem failures_isolated_crew :
    (tick (exec 2) crewWorld).2.journal.countP Mark.isReport = 0 ∧
      (tick (sabotaged (exec 2)) crewWorld).2.journal.countP Mark.isReport = 4 ∧
      (tick (sabotaged (exec 2)) crewWorld).1.toOption = some 1 ∧
      jobRuns (tick (sabotaged (exec 2)) crewWorld).2.journal =
        [(1, ⟨1000000000⟩), (0, ⟨1000000000⟩)] ∧
      started (tick (sabotaged (exec 2)) crewWorld).2.journal = [0] ∧
      Call.Mimics (exec 2 : Call Unit) (sabotaged (exec 2)) ∧ crewWorld.Same crewWorld ∧
      TicksAlike (tick (exec 2) crewWorld) (tick (sabotaged (exec 2)) crewWorld) :=
  ⟨by decide +kernel, by decide +kernel, by decide +kernel, by decide +kernel, by decide +kernel,
    exec_sabotaged 2, .refl crewWorld, failures_isolated (exec_sabotaged 2) (.refl crewWorld)⟩

end Reflex
