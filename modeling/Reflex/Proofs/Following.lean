import Reflex.Proofs.Agenda
import Reflex.Proofs.Moments
import Reflex.Proofs.Operations

/-! Running code is a path of moments. Code that comes to its end leaves in progress what
was in progress; a tick is the only loop that code does not close by itself, and it is
followed here frame by frame. -/
namespace Reflex
open Act Engine Evaluation

variable {σ α β : Type} {rule : Rule}

/-- A path from a moment, which ends among given frames if the run does. -/
def Traced (rule : Rule) (before after : Frames σ) : Link σ :=
  fun w e w' => ∃ fs, Path rule ⟨w, before⟩ ⟨w', fs⟩ ∧ (e = true → fs = after)

/-- Code runs along a path, wherever it may run. -/
def Running (rule : Rule) : Link σ := fun w e w' =>
  ∀ fs : Frames σ, fs.Open → Traced rule fs fs w e w'

/-- The code of a timer that ends a lifetime. -/
def Lapsing (rule : Rule) (name : String) : Link σ := fun w e w' =>
  ∀ (fs : Frames σ) timer, fs.Open → Traced rule (.lapse name timer :: fs) fs w e w'

theorem Traced.chain {before middle after : Frames σ} {w w' last : World σ} {e : Bool}
    (first : Traced rule before middle w true w') (rest : Traced rule middle after w' e last) :
    Traced rule before after w e last := by
  obtain ⟨fs, path, came⟩ := first
  obtain rfl := came rfl
  obtain ⟨last, further, ended⟩ := rest
  exact ⟨last, path.trans further, ended⟩

theorem Traced.step {before after : Frames σ} {w w' : World σ} {e : Bool}
    (step : Step rule ⟨w, before⟩ ⟨w', after⟩) : Traced rule before after w e w' :=
  ⟨after, .single step, fun _ => rfl⟩

theorem running_chained : (Running rule : Link σ).Chained where
  refl _ fs _ := ⟨fs, .refl, fun _ => rfl⟩
  cut run fs ready := by
    obtain ⟨last, path, -⟩ := run fs ready
    exact ⟨last, path, fun came => nomatch came⟩
  trans first rest fs ready := (first fs ready).chain (rest fs ready)

theorem running_move {w w' : World σ} (move : Move rule w w') : Running rule w true w' :=
  fun _ ready => .step (.code ready move)

/-- A change and the mark that tells of it. -/
theorem running_marked {w w' : World σ} {m : Mark} (apart : w.Apart w') (plain : m.isPlain = true) :
    Running rule w true (w'.marked m) :=
  running_chained.trans (running_move (.apart apart)) (running_move (.plain plain))

theorem Mark.isPlain_of_bare {m : Mark} (bare : m.isBare = true) : m.isPlain = true := by
  cases m <;> first | rfl | cases bare

theorem running_change {w w' : World σ} (change : Change rule w w') : Running rule w true w' := by
  cases change with
  | mark bare => exact running_move (.plain (Mark.isPlain_of_bare bare))
  | aside aside =>
    exact running_move (.apart ⟨aside.journal, aside.timers, aside.nextTimer, aside.lastTick,
      aside.slots, aside.storeHeld⟩)
  | subscribe | unsubscribe => exact running_marked ⟨rfl, rfl, rfl, rfl, rfl, rfl⟩ rfl
  | extend | create | test | clear | bind =>
    exact running_move (.apart ⟨rfl, rfl, rfl, rfl, rfl, rfl⟩)
  | equip => exact running_marked ⟨rfl, rfl, rfl, rfl, rfl, rfl⟩ rfl
  | @adjust d device feature value _ =>
    have tuned : Running rule w true (w.tuning d device feature value) :=
      running_marked ⟨rfl, rfl, rfl, rfl, rfl, rfl⟩ rfl
    unfold World.adjusting
    split
    · exact running_chained.trans tuned (running_move (.plain rfl))
    · exact tuned

theorem running_closed (id : Nat) (outcome : Except Interrupt Nat) (w : World σ) :
    Running rule w (ended outcome) (closed id outcome w) := by
  match outcome with
  | .ok n => exact running_marked ⟨rfl, rfl, rfl, rfl, rfl, rfl⟩ rfl
  | .error (.failed cause) => exact running_marked ⟨rfl, rfl, rfl, rfl, rfl, rfl⟩ rfl
  | .error .exhausted => exact running_chained.cut (running_chained.refl w)

theorem running_law : (Running rule : Link σ).Law rule where
  toChained := running_chained
  change := running_change
  pass {w last id s} outcome _ visited := by
    have began : Running rule w true (begun id w) :=
      running_marked ⟨rfl, rfl, rfl, rfl, rfl, rfl⟩ rfl
    have through := running_chained.trans began visited
    cases outcome with
    | ok n => exact running_chained.trans through (running_closed id (.ok n) last)
    | error cause =>
      cases cause with
      | failed cause => exact running_chained.trans through (running_closed id _ last)
      | exhausted => exact through

/-- A step that follows the frames and never fails. -/
structure Follows (rule : Rule) (x : Act σ α) (w : World σ) (before after : Frames σ) : Prop where
  lodges : (x w).2.Lodges rule
  unfailing : ∀ cause, (x w).1 ≠ .error (.failed cause)
  path : Traced rule before after w (ended (x w).1) (x w).2

namespace Follows

variable {x : Act σ α} {f : α → Act σ β} {w next : World σ} {before middle after : Frames σ}

theorem of_run {a : α} (ran : x w = (.ok a, next)) (lodges : next.Lodges rule)
    (path : Traced rule before after w true next) : Follows rule x w before after := by
  constructor <;> simp only [ran]
  · exact lodges
  · exact fun _ failed => nomatch failed
  · exact path

theorem bind (first : Follows rule x w before middle)
    (rest : ∀ a next, x w = (.ok a, next) → next.Lodges rule →
      Follows rule (f a) next middle after) :
    Follows rule (x >>= f) w before after := by
  obtain ⟨lodges, unfailing, path⟩ := first
  rcases ran : x w with ⟨outcome, next⟩
  rw [ran] at lodges unfailing path
  match outcome, ran, unfailing, path with
  | .error (.failed cause), _, unfailing, _ => exact absurd rfl (unfailing cause)
  | .error .exhausted, ran, _, path =>
    obtain ⟨fs, path, -⟩ := path
    constructor <;> rw [bind_error ran]
    · exact lodges
    · exact fun _ failed => nomatch failed
    · exact ⟨fs, path, fun came => nomatch came⟩
  | .ok a, ran, _, path =>
    have tail := rest a next ran lodges
    constructor <;> rw [bind_ok ran]
    · exact tail.lodges
    · exact tail.unfailing
    · exact path.chain tail.path

/-- A run that is a run from further along. -/
theorem behind {y : Act σ α} (same : x w = y next) (path : Traced rule before middle w true next)
    (rest : Follows rule y next middle after) : Follows rule x w before after := by
  constructor <;> rw [same]
  · exact rest.lodges
  · exact rest.unfailing
  · exact path.chain rest.path

theorem pure (a : α) (lodges : w.Lodges rule) : Follows rule (pure a : Act σ α) w after after :=
  of_run (pure_run a w) lodges ⟨after, .refl, fun _ => rfl⟩

/-- Code that fails, with the failure reported. -/
theorem reporting {report : Failure → Mark} (plain : ∀ cause, (report cause).isPlain = true)
    (ready : after.Open) (lodges : (x w).2.Lodges rule)
    (path : Traced rule before after w (ended (x w).1) (x w).2) :
    Follows rule (reporting report x) w before after := by
  rcases ran : x w with ⟨outcome, next⟩
  rw [ran] at lodges path
  match outcome, ran, path with
  | .ok a, ran, path =>
    exact of_run (by rw [Act.reporting, bind_ok (attempt_ok ran)]; rfl) lodges path
  | .error (.failed cause), ran, path =>
    have reported : Act.reporting report x w = (.ok (), next.marked (report cause)) := by
      rw [Act.reporting, bind_ok (attempt_failed ran)]
      rfl
    exact of_run reported (lodges.marked _)
      (path.chain (.step (.code ready (.plain (plain cause)))))
  | .error .exhausted, ran, path =>
    obtain ⟨fs, path, -⟩ := path
    have stopped : Act.reporting report x w = (.error .exhausted, next) := by
      rw [Act.reporting, bind_error (attempt_exhausted ran)]
    constructor <;> rw [stopped]
    · exact lodges
    · exact fun _ failed => nomatch failed
    · exact ⟨fs, path, fun came => nomatch came⟩

theorem of_reported {report : Failure → Mark} (plain : ∀ cause, (report cause).isPlain = true)
    (ready : after.Open) (upheld : Upheld rule (Running rule) x w) :
    Follows rule (Act.reporting report x) w after after :=
  reporting plain ready upheld.lodges (upheld.link after ready)

end Follows

namespace Engine

theorem fireTimers_bind (call : Call σ) (t : Instant) (f : Unit → Act σ α) (w : World σ) :
    (fireTimers call t >>= f) w = (runTimers call (w.agenda.dueTimers t) >>= f) (w.taking t) := by
  simp only [bind_run, fireTimers_run]

theorem plan_report_plain {κ : Type} {a : Agenda κ} {now : Instant} {m : Mark}
    (reported : (a.plan now).report = some m) : m.isPlain = true := by
  rcases Agenda.plan_report reported with ⟨_, rfl⟩ | ⟨_, rfl⟩
  · rfl
  · rfl

theorem due_within {w : World σ} (lodges : w.Lodges rule) (t : Instant) :
    ∀ x ∈ w.agenda.dueTimers t, x.Within rule := by
  intro x member
  exact lodges.timers x (Agenda.mem_dueTimers.mp member).1

section Ticks

variable (allowed : rule.Open) {call : Call σ}
  (calls : Calls rule (Running rule) (Lapsing rule) call)
include allowed calls

theorem runTimers_follows (batch : List (Timer (Reaction σ)))
    (kept : ∀ x ∈ batch, x.Within rule) (k : Ticking σ) (fs : Frames σ) {w : World σ}
    (lodges : w.Lodges rule) :
    Follows rule (runTimers call batch) w (.tick { k with batch } :: fs)
      (.tick { k with batch := [] } :: fs) := by
  induction batch generalizing w with
  | nil => exact .pure () lodges
  | cons x rest ih =>
    obtain ⟨first, others⟩ := List.forall_mem_cons.mp kept
    have marked := lodges.marked (.timerStarted x.id)
    have ready : Frames.Open (.tick { k with batch := rest } :: fs) := trivial
    rcases first with ⟨name, task⟩ | within
    · refine .behind (bind_ok (mark_run _ _)) (.step (.lapse rfl task)) ?_
      rw [task]
      have ended := (calls.expiry marked : Upheld rule (Lapsing rule name) _ _)
      exact .bind (.reporting (fun _ => rfl) ready ended.lodges (ended.link _ _ ready))
        fun _ _ _ lodges => ih others lodges
    · refine .behind (bind_ok (mark_run _ _)) (.step (.fire rfl within)) ?_
      have ran := calls.code (Reaction.program_within allowed within []) marked
      exact .bind (.of_reported (fun _ => rfl) ready ran) fun _ _ _ lodges => ih others lodges

theorem notify_follows (topic : String) (arguments : List Value) {fs : Frames σ} (ready : fs.Open)
    {w : World σ} (lodges : w.Lodges rule) :
    Follows rule (notify call topic arguments) w fs fs := by
  refine .behind (bind_ok (mark_run _ w)) (.step (.code ready (.plain rfl))) ?_
  exact .of_reported (fun _ => rfl) ready
    (emit_upheld running_law allowed calls topic arguments (lodges.marked _))

theorem publishSecond_follows (t : Instant) {fs : Frames σ} (ready : fs.Open) {w : World σ}
    (lodges : w.Lodges rule) : Follows rule (publishSecond call t) w fs fs := by
  refine .bind (notify_follows allowed calls _ _ ready lodges) fun _ w _ lodges => ?_
  split
  · refine .bind (notify_follows allowed calls _ _ ready lodges) fun _ w _ lodges => ?_
    split
    · exact notify_follows allowed calls _ _ ready lodges
    · exact .pure _ lodges
  · exact .pure _ lodges

theorem notifyAll_follows (t : Instant) {k : Ticking σ} (rested : k.batch = []) {fs : Frames σ}
    {w : World σ} (lodges : w.Lodges rule) :
    Follows rule (notifyAll call t) w (.tick k :: fs) (.tick k :: fs) := by
  have ready : Frames.Open (.tick k :: fs) := trivial
  refine .bind (publishSecond_follows allowed calls t ready lodges) fun _ w _ lodges => ?_
  exact .of_run (mark_run _ w) (lodges.marked _) (.step (.serve rested))

theorem runJobs_follows (t : Instant) (jobs : List (Job (Reaction σ)))
    (kept : ∀ j ∈ jobs, j.task.Within rule) {fs : Frames σ} (ready : fs.Open) {w : World σ}
    (lodges : w.Lodges rule) : Follows rule (runJobs call t jobs) w fs fs := by
  induction jobs generalizing w with
  | nil => exact .pure _ lodges
  | cons j rest ih =>
    obtain ⟨first, others⟩ := List.forall_mem_cons.mp kept
    refine .behind (bind_ok (mark_run _ _)) (.step (.code ready (.plain rfl))) ?_
    have kept := Reaction.program_within allowed first []
    have ran := calls.code kept (lodges.marked (.jobStarted j.id t))
    exact .bind (.of_reported (fun _ => rfl) ready ran) fun _ _ _ lodges => ih others lodges

/-- One evaluated second, from its timers to its jobs. -/
theorem runSecond_follows (reading next : Instant) (planned left : Nat) (fs : Frames σ)
    {w : World σ} (lodges : w.Lodges rule) :
    Follows rule (runSecond call next) w (.tick ⟨reading, planned, next, left + 1, false, []⟩ :: fs)
      (.tick ⟨reading, planned, next.addSeconds 1, left, false, []⟩ :: fs) := by
  let evaluated : World σ := { w with agenda := { w.agenda with current := some next } }
  have taken : (runSecond call next) w = (do
      runTimers call (w.agenda.dueTimers next)
      notifyAll call next
      runJobs call next ((← get).agenda.dueJobs next)
      setCurrent w.agenda.current) ((evaluated.marked (.second next)).taking next) := by
    rw [runSecond, bind_ok (get_run _), setCurrent, bind_ok (modify_run _ _),
      bind_ok (mark_run _ _),
      fireTimers_bind]
    rfl
  have lodgesAt : evaluated.Lodges rule :=
    ⟨lodges.1, lodges.2, lodges.3, lodges.4, lodges.5, lodges.6⟩
  let before : Frames σ := .tick ⟨reading, planned, next, left + 1, false, []⟩ :: fs
  have apart : Traced rule before before w true evaluated :=
    .step (.code trivial (.apart ⟨rfl, rfl, rfl, rfl, rfl, rfl⟩))
  have path : Traced rule before
      (.tick ⟨reading, planned, next.addSeconds 1, left, false, w.agenda.dueTimers next⟩ :: fs) w
      true ((evaluated.marked (.second next)).taking next) := apart.chain (.step .second)
  refine .behind taken path ?_
  have ready : Frames.Open (.tick ⟨reading, planned, next.addSeconds 1, left, false, []⟩ :: fs) :=
    trivial
  refine .bind (runTimers_follows allowed calls _ (due_within lodges next)
    ⟨reading, planned, next.addSeconds 1, left, false, []⟩ fs
    ((lodgesAt.marked _).taking next)) fun _ w _ lodges => ?_
  refine .bind (notifyAll_follows allowed calls next rfl lodges) fun _ w _ lodges => ?_
  have due : ∀ j ∈ w.agenda.dueJobs next, j.task.Within rule :=
    fun j member => lodges.jobs j (List.mem_filter.mp member).1
  refine .behind (bind_ok (get_run w)) ⟨_, .refl, fun _ => rfl⟩ ?_
  refine .bind (runJobs_follows allowed calls next _ due ready lodges) fun _ w _ lodges => ?_
  exact .of_run (modify_run _ w) ⟨lodges.1, lodges.2, lodges.3, lodges.4, lodges.5, lodges.6⟩
    (.step (.code ready (.apart ⟨rfl, rfl, rfl, rfl, rfl, rfl⟩)))

theorem evaluateSecond_follows (reading next : Instant) (planned left : Nat) (fs : Frames σ)
    {w : World σ} (lodges : w.Lodges rule) :
    Follows rule (evaluateSecond call next) w
      (.tick ⟨reading, planned, next, left + 1, false, []⟩ :: fs)
      (.tick ⟨reading, planned, next.addSeconds 1, left, false, []⟩ :: fs) := by
  refine .bind (runSecond_follows allowed calls reading next planned left fs lodges)
    fun _ w _ lodges => ?_
  exact .of_run (mark_run _ w) (lodges.marked _) (.step (.code trivial (.plain rfl)))

theorem runSeconds_follows (reading next : Instant) (planned left : Nat) (fs : Frames σ)
    {w : World σ} (lodges : w.Lodges rule) :
    Follows rule (runSeconds call next left) w
      (.tick ⟨reading, planned, next, left, false, []⟩ :: fs)
      (.tick ⟨reading, planned, next.addSeconds left, 0, false, []⟩ :: fs) := by
  induction left generalizing next w with
  | zero =>
    rw [Instant.addSeconds_zero]
    exact .pure () lodges
  | succ left ih =>
    rw [Nat.add_comm left 1, ← Instant.addSeconds_addSeconds, Nat.add_comm 1 left]
    exact .bind (evaluateSecond_follows allowed calls reading next planned left fs lodges)
      fun _ _ _ lodges => ih (next.addSeconds 1) lodges

theorem tick_follows (fs : Frames σ) (ready : fs.Open) {w : World σ} (lodges : w.Lodges rule) :
    Follows rule (tick call) w fs fs := by
  have begun : w.beginning.Lodges rule :=
    (lodges.agenda_kept { w.agenda with lastTick := some w.clock.truncate } rfl
      lodges.timers).marked _
  have path : Traced rule fs
      (.tick ⟨w.clock, w.plan.count, w.plan.first, w.plan.count, false, []⟩ :: fs) w true
      (w.beginning.noting w.plan.report) := by
    refine .chain (.step (.begin ready)) ?_
    cases reported : w.plan.report with
    | none => exact ⟨_, .refl, fun _ => rfl⟩
    | some m => exact .step (.code trivial (.plain (plan_report_plain reported)))
  refine .behind (tick_run call w) path ?_
  refine .bind (runSeconds_follows allowed calls w.clock w.plan.first w.plan.count w.plan.count fs
    (begun.noting _)) fun _ w' _ lodges => ?_
  refine .behind (fireTimers_bind call w.clock _ w') (.step .close) ?_
  refine .bind (runTimers_follows allowed calls _ (due_within lodges _)
    ⟨w.clock, w.plan.count, w.plan.first.addSeconds w.plan.count, 0, true, []⟩ fs
    (lodges.taking w.clock)) fun _ w' _ lodges => ?_
  exact .of_run (bind_ok (mark_run _ w')) (lodges.marked _) (.step .finish)

end Ticks

end Engine

end Reflex
