import Reflex.Proofs.Roster

/-! Two runs of a tick whose code has the same effects but fails in different places. A failure
of a timer, a job or a publication is reported in the journal and goes no further, so the runs go
side by side, in worlds that differ in those reports alone. -/
namespace Reflex
open Act Engine

variable {σ α β : Type}

/-- Reports of code that failed while a second was evaluated. -/
def Mark.isReport : Mark → Bool
  | jobFailed _ _ _ | timerFailed _ _ | topicFailed _ _ => true
  | _ => false

/-- What a journal tells apart from the reports of failures. -/
def History.unreported (J : History) : History := J.filter (!·.isReport)

open History

namespace World

/-- The two worlds differ in the reports of failures alone. -/
def Same (w w' : World σ) : Prop :=
  ∃ J, w' = { w with journal := J } ∧ unreported w.journal = unreported J

/-- The world with more history before its own. -/
def after (J : History) (w : World σ) : World σ := { w with journal := w.journal ++ J }

/-- The journal has no part in the change, which only adds to it. -/
def Appends (f : World σ → World σ) : Prop := ∀ w J, f (w.after J) = (f w).after J

namespace Same

variable {w w' w'' : World σ}

@[refl] theorem refl (w : World σ) : w.Same w := ⟨w.journal, rfl, rfl⟩

theorem symm (same : w.Same w') : w'.Same w := by
  obtain ⟨J, rfl, told⟩ := same
  exact ⟨w.journal, rfl, told.symm⟩

theorem trans (first : w.Same w') (second : w'.Same w'') : w.Same w'' := by
  obtain ⟨J, rfl, told⟩ := first
  obtain ⟨K, rfl, further⟩ := second
  exact ⟨K, rfl, told.trans further⟩

theorem journal (same : w.Same w') : unreported w.journal = unreported w'.journal := by
  obtain ⟨J, rfl, told⟩ := same
  exact told

/-- What a function tells without the journal, it tells of both. -/
theorem agree (same : w.Same w') (f : World σ → β)
    (blind : ∀ w J, f { w with journal := J } = f w) : f w' = f w := by
  obtain ⟨J, rfl, -⟩ := same
  exact blind w J

/-- The same change to both. -/
theorem change (same : w.Same w') (f : World σ → World σ) (appends : Appends f) :
    (f w).Same (f w') := by
  obtain ⟨J, rfl, told⟩ := same
  let bare : World σ := { w with journal := [] }
  have here : f w = (f bare).after w.journal := appends bare w.journal
  have there : f { w with journal := J } = (f bare).after J := appends bare J
  rw [here, there]
  refine ⟨(f bare).journal ++ J, rfl, ?_⟩
  change List.filter _ (_ ++ w.journal) = List.filter _ (_ ++ J)
  rw [List.filter_append, List.filter_append]
  exact congrArg _ told

theorem marked (same : w.Same w') (m : Mark) : (w.marked m).Same (w'.marked m) :=
  same.change (World.marked · m) fun _ _ => rfl

theorem taking (same : w.Same w') (t : Instant) : (w.taking t).Same (w'.taking t) :=
  same.change (World.taking · t) fun _ _ => rfl

theorem beginning (same : w.Same w') : w.beginning.Same w'.beginning :=
  same.change World.beginning fun _ _ => rfl

theorem noting (same : w.Same w') (report : Option Mark) :
    (w.noting report).Same (w'.noting report) := by
  cases report with
  | none => exact same
  | some m => exact same.marked m

/-- A report makes no difference. -/
theorem reported (w : World σ) {m : Mark} (report : m.isReport = true) : w.Same (w.marked m) := by
  refine ⟨m :: w.journal, rfl, ?_⟩
  simp [unreported, report]

/-- A reading of the marks other than reports tells the same of both. -/
theorem reading (same : w.Same w') {f : Mark → Option β}
    (silent : ∀ m, m.isReport = true → f m = none) :
    w.journal.filterMap f = w'.journal.filterMap f := by
  have only : ∀ J : History, J.filterMap f = (unreported J).filterMap f := by
    intro J
    induction J with
    | nil => rfl
    | cons m earlier ih =>
      unfold unreported at ih ⊢
      cases report : m.isReport with
      | true => simpa [report, silent m report] using ih
      | false => simp [report, List.filterMap_cons, ih]
  rw [only w.journal, only w'.journal, same.journal]

end Same

end World

open World

/-- The two steps end alike, in worlds that are the same. -/
def Even (x y : Act σ α) (w w' : World σ) : Prop :=
  ∃ r v v', x w = (r, v) ∧ y w' = (r, v') ∧ v.Same v'

/-- The two steps have the same effects, though one may fail where the other succeeds. -/
def Akin (x y : Act σ α) (w w' : World σ) : Prop :=
  ended (x w).1 = ended (y w').1 ∧ (x w).2.Same (y w').2

namespace Even

variable {x y : Act σ α} {f g : α → Act σ β} {w w' : World σ}

theorem of_eq {x' y' : Act σ α} {u u' : World σ} (here : x w = x' u) (there : y w' = y' u')
    (even : Even x' y' u u') : Even x y w w' := by
  obtain ⟨r, v, v', ran, ran', same⟩ := even
  exact ⟨r, v, v', here.trans ran, there.trans ran', same⟩

theorem pure (same : w.Same w') (a : α) : Even (pure a : Act σ α) (pure a) w w' :=
  ⟨.ok a, w, w', rfl, rfl, same⟩

theorem fail (same : w.Same w') (cause : Failure) :
    Even (fail cause : Act σ α) (fail cause) w w' :=
  ⟨.error (.failed cause), w, w', rfl, rfl, same⟩

theorem mark (same : w.Same w') (m : Mark) : Even (mark m : Act σ Unit) (mark m) w w' :=
  ⟨.ok (), _, _, rfl, rfl, same.marked m⟩

theorem modify {f : World σ → World σ} (same : w.Same w') (appends : World.Appends f) :
    Even (modify f : Act σ PUnit) (modify f) w w' :=
  ⟨.ok ⟨⟩, _, _, rfl, rfl, same.change f appends⟩

theorem bind (first : Even x y w w') (rest : ∀ a v v', v.Same v' → Even (f a) (g a) v v') :
    Even (x >>= f) (y >>= g) w w' := by
  obtain ⟨r, v, v', ran, ran', same⟩ := first
  match r, ran, ran' with
  | .error i, ran, ran' => exact ⟨.error i, v, v', bind_error ran, bind_error ran', same⟩
  | .ok a, ran, ran' =>
    obtain ⟨r, u, u', further, further', last⟩ := rest a v v' same
    exact ⟨r, u, u', (bind_ok ran).trans further, (bind_ok ran').trans further', last⟩

/-- Neither goes on after a failure. -/
theorem failed (same : w.Same w') (cause : Failure) :
    Even (Act.fail cause >>= f) (Act.fail cause >>= g) w w' :=
  ⟨.error (.failed cause), w, w', rfl, rfl, same⟩

theorem set {v v' : World σ} (same : v.Same v') : Even (set v : Act σ PUnit) (set v') w w' :=
  ⟨.ok ⟨⟩, v, v', rfl, rfl, same⟩

theorem ite {c c' : Prop} [Decidable c] [Decidable c'] {x' y' : Act σ α} (alike : c ↔ c')
    (yes : Even x y w w') (no : Even x' y' w w') :
    Even (if c then x else x') (if c' then y else y') w w' := by
  by_cases holds : c
  · rw [if_pos holds, if_pos (alike.mp holds)]
    exact yes
  · rw [if_neg holds, if_neg fun other => holds (alike.mpr other)]
    exact no

/-- Each looks at its own world. -/
theorem got {f g : World σ → Act σ β} (rest : Even (f w) (g w') w w') :
    Even (get >>= f) (get >>= g) w w' :=
  .of_eq (bind_ok (get_run w)) (bind_ok (get_run w')) rest

theorem akin (even : Even x y w w') : Akin x y w w' := by
  obtain ⟨r, v, v', ran, ran', same⟩ := even
  rw [Akin, ran, ran']
  exact ⟨rfl, same⟩

end Even

/-- Where only the outcomes differ, reporting a failure makes up for it. -/
theorem Akin.reporting {x y : Act σ α} {w w' : World σ} (akin : Akin x y w w')
    {report : Failure → Mark} (told : ∀ cause, (report cause).isReport = true) :
    Even (Act.reporting report x) (Act.reporting report y) w w' := by
  have settled : ∀ (x : Act σ α) (w : World σ),
      (ended (x w).1 = true ∧ ∃ v, Act.reporting report x w = (.ok (), v) ∧ (x w).2.Same v) ∨
        (ended (x w).1 = false ∧ Act.reporting report x w = (.error .exhausted, (x w).2)) := by
    intro x w
    rcases ran : x w with ⟨r, v⟩
    match r, ran with
    | .ok a, ran => exact .inl ⟨rfl, v, bind_ok (attempt_ok ran), .refl v⟩
    | .error (.failed cause), ran =>
      exact .inl ⟨rfl, _, bind_ok (attempt_failed ran), .reported v (told cause)⟩
    | .error .exhausted, ran => exact .inr ⟨rfl, bind_error (attempt_exhausted ran)⟩
  obtain ⟨outcome, same⟩ := akin
  rcases settled x w with ⟨came, v, ran, kept⟩ | ⟨cut, ran⟩
  · rcases settled y w' with ⟨-, v', ran', kept'⟩ | ⟨cut', -⟩
    · exact ⟨.ok (), v, v', ran, ran', kept.symm.trans (same.trans kept')⟩
    · rw [came, cut'] at outcome
      cases outcome
  · rcases settled y w' with ⟨came', -⟩ | ⟨-, ran'⟩
    · rw [cut, came'] at outcome
      cases outcome
    · exact ⟨.error .exhausted, _, _, ran, ran', same⟩

/-- The step fails in no world. -/
def Act.Unfailing (x : Act σ α) : Prop := ∀ w cause, (x w).1 ≠ .error (.failed cause)

namespace Act.Unfailing

variable {x : Act σ α} {f : α → Act σ β}

theorem of_ok {a : World σ → α} {next : World σ → World σ} (ran : ∀ w, x w = (.ok (a w), next w)) :
    Unfailing x := by
  intro w cause failed
  rw [ran] at failed
  cases failed

theorem bind (first : Unfailing x) (rest : ∀ a, Unfailing (f a)) : Unfailing (x >>= f) := by
  intro w cause failed
  rcases ran : x w with ⟨r, v⟩
  cases r with
  | ok a =>
    rw [bind_ok ran] at failed
    exact rest a v cause failed
  | error i =>
    rw [bind_error ran] at failed
    injection failed with same
    apply first w cause
    rw [ran, same]

theorem reporting (report : Failure → Mark) (x : Act σ α) : Unfailing (reporting report x) := by
  intro w cause failed
  rcases ran : x w with ⟨r, v⟩
  match r, ran with
  | .ok a, ran =>
    rw [Act.reporting, bind_ok (attempt_ok ran)] at failed
    cases failed
  | .error (.failed _), ran =>
    rw [Act.reporting, bind_ok (attempt_failed ran)] at failed
    cases failed
  | .error .exhausted, ran =>
    rw [Act.reporting, bind_error (attempt_exhausted ran)] at failed
    cases failed

end Act.Unfailing

/-- Run in worlds that are the same, what a tick starts and publishes has the same effects. -/
structure Call.Akin (call call' : Call σ) : Prop where
  tasks (task : Reaction σ) {w w' : World σ} : w.Same w' →
    Reflex.Akin (call (task.program [])) (call' (task.program [])) w w'
  publications (topic : String) (t : Instant) {w w' : World σ} :
    topic ∈ [secondTopic, minuteTopic, hourTopic] → w.Same w' →
    Reflex.Akin (emit call topic [Tick.payload t]) (emit call' topic [Tick.payload t]) w w'

namespace Engine

/-! Whatever its code does, a tick does not fail. -/

section Unfailing

variable (call : Call σ)

theorem mark_unfailing (m : Mark) : Unfailing (mark m : Act σ Unit) := .of_ok (mark_run m)

theorem runTimers_unfailing (batch : List (Timer (Reaction σ))) :
    Unfailing (runTimers call batch) := by
  induction batch with
  | nil => exact .of_ok (pure_run ())
  | cons x rest ih => exact .bind (mark_unfailing _) fun _ => .bind (.reporting _ _) fun _ => ih

theorem fireTimers_unfailing (t : Instant) : Unfailing (fireTimers call t) := by
  intro w cause failed
  rw [fireTimers_run] at failed
  exact runTimers_unfailing call _ _ cause failed

theorem notify_unfailing (topic : String) (arguments : List Value) :
    Unfailing (notify call topic arguments) :=
  .bind (mark_unfailing _) fun _ => .reporting _ _

theorem publishSecond_unfailing (t : Instant) : Unfailing (publishSecond call t) := by
  apply Act.Unfailing.bind (notify_unfailing call _ _)
  intro _
  split
  · apply Act.Unfailing.bind (notify_unfailing call _ _)
    intro _
    split
    · exact notify_unfailing call _ _
    · exact .of_ok (pure_run ())
  · exact .of_ok (pure_run ())

theorem runJobs_unfailing (t : Instant) (jobs : List (Job (Reaction σ))) :
    Unfailing (runJobs call t jobs) := by
  induction jobs with
  | nil => exact .of_ok (pure_run ())
  | cons j rest ih => exact .bind (mark_unfailing _) fun _ => .bind (.reporting _ _) fun _ => ih

theorem setCurrent_unfailing (t : Option Instant) : Unfailing (setCurrent t : Act σ Unit) :=
  .of_ok (modify_run _)

theorem evaluateSecond_unfailing (t : Instant) : Unfailing (evaluateSecond call t) := by
  have taken : Unfailing (notifyAll call t) :=
    .bind (publishSecond_unfailing call t) fun _ => mark_unfailing _
  have second : Unfailing (runSecond call t) := by
    apply Act.Unfailing.bind (.of_ok get_run)
    intro w
    apply Act.Unfailing.bind (setCurrent_unfailing _)
    intro _
    apply Act.Unfailing.bind (mark_unfailing _)
    intro _
    apply Act.Unfailing.bind (fireTimers_unfailing call t)
    intro _
    apply Act.Unfailing.bind taken
    intro _
    apply Act.Unfailing.bind (.of_ok get_run)
    intro w
    exact .bind (runJobs_unfailing call t _) fun _ => setCurrent_unfailing _
  exact .bind second fun _ => mark_unfailing _

theorem runSeconds_unfailing (t : Instant) (n : Nat) : Unfailing (runSeconds call t n) := by
  induction n generalizing t with
  | zero => exact .of_ok (pure_run ())
  | succ n ih => exact .bind (evaluateSecond_unfailing call t) fun _ => ih _

theorem tick_unfailing : Unfailing (tick call) := by
  intro w cause failed
  rw [tick_run] at failed
  revert failed
  apply Act.Unfailing.bind (runSeconds_unfailing call _ _)
  intro _
  apply Act.Unfailing.bind (fireTimers_unfailing call _)
  intro _
  exact .bind (mark_unfailing _) fun _ => .of_ok (pure_run _)

end Unfailing

/-! The loops of a tick, in two worlds at once. -/

section Loops

variable {call call' : Call σ} (akin : call.Akin call') {w w' : World σ}
include akin

theorem runTimers_even (batch : List (Timer (Reaction σ))) (same : w.Same w') :
    Even (runTimers call batch) (runTimers call' batch) w w' := by
  induction batch generalizing w w' with
  | nil => exact .pure same ()
  | cons x rest ih =>
    apply Even.bind (.mark same _)
    intro _ v v' same
    apply Even.bind ((akin.tasks x.task same).reporting fun _ => rfl)
    intro _ v v' same
    exact ih same

theorem fireTimers_even (t : Instant) (same : w.Same w') :
    Even (fireTimers call t) (fireTimers call' t) w w' := by
  have due : w'.agenda.dueTimers t = w.agenda.dueTimers t :=
    same.agree (fun w => w.agenda.dueTimers t) fun _ _ => rfl
  apply Even.of_eq (fireTimers_run call t w) (fireTimers_run call' t w')
  rw [due]
  exact runTimers_even akin _ (same.taking t)

theorem notify_even {topic : String} (named : topic ∈ [secondTopic, minuteTopic, hourTopic])
    (t : Instant) (same : w.Same w') :
    Even (notify call topic [Tick.payload t]) (notify call' topic [Tick.payload t]) w w' := by
  apply Even.bind (.mark same _)
  intro _ v v' same
  exact (akin.publications topic t named same).reporting fun _ => rfl

theorem publishSecond_even (t : Instant) (same : w.Same w') :
    Even (publishSecond call t) (publishSecond call' t) w w' := by
  apply Even.bind (notify_even akin (by simp) t same)
  intro _ v v' same
  split
  · apply Even.bind (notify_even akin (by simp) t same)
    intro _ v v' same
    split
    · exact notify_even akin (by simp) t same
    · exact .pure same ()
  · exact .pure same ()

theorem notifyAll_even (t : Instant) (same : w.Same w') :
    Even (notifyAll call t) (notifyAll call' t) w w' :=
  .bind (publishSecond_even akin t same) fun _ _ _ same => .mark same _

theorem runJobs_even (t : Instant) (jobs : List (Job (Reaction σ))) (same : w.Same w') :
    Even (runJobs call t jobs) (runJobs call' t jobs) w w' := by
  induction jobs generalizing w w' with
  | nil => exact .pure same ()
  | cons j rest ih =>
    apply Even.bind (.mark same _)
    intro _ v v' same
    apply Even.bind ((akin.tasks j.task same).reporting fun _ => rfl)
    intro _ v v' same
    exact ih same

omit akin in
theorem setCurrent_even (t : Option Instant) (same : w.Same w') :
    Even (setCurrent t) (setCurrent t) w w' :=
  .modify same fun _ _ => rfl

theorem runSecond_even (t : Instant) (same : w.Same w') :
    Even (runSecond call t) (runSecond call' t) w w' := by
  apply Even.got
  obtain ⟨J, rfl, told⟩ := same
  apply Even.bind (setCurrent_even _ ⟨J, rfl, told⟩)
  intro _ v v' same
  apply Even.bind (.mark same _)
  intro _ v v' same
  apply Even.bind (fireTimers_even akin t same)
  intro _ v v' same
  apply Even.bind (notifyAll_even akin t same)
  intro _ v v' same
  apply Even.got
  obtain ⟨K, rfl, told⟩ := same
  apply Even.bind (runJobs_even akin t _ ⟨K, rfl, told⟩)
  intro _ v v' same
  exact setCurrent_even _ same

theorem evaluateSecond_even (t : Instant) (same : w.Same w') :
    Even (evaluateSecond call t) (evaluateSecond call' t) w w' :=
  .bind (runSecond_even akin t same) fun _ _ _ same => .mark same _

theorem runSeconds_even (t : Instant) (n : Nat) (same : w.Same w') :
    Even (runSeconds call t n) (runSeconds call' t n) w w' := by
  induction n generalizing t w w' with
  | zero => exact .pure same ()
  | succ n ih => exact .bind (evaluateSecond_even akin t same) fun _ _ _ same => ih _ same

theorem tick_even (same : w.Same w') : Even (tick call) (tick call') w w' := by
  have clock : w'.clock = w.clock := same.agree World.clock fun _ _ => rfl
  have plan : w'.agenda.plan w.clock.truncate = w.agenda.plan w.clock.truncate :=
    same.agree (fun v => v.agenda.plan w.clock.truncate) fun _ _ => rfl
  apply Even.of_eq (tick_run call w) (tick_run call' w')
  rw [clock, plan]
  apply Even.bind (runSeconds_even akin _ _ (same.beginning.noting _))
  intro _ v v' same
  apply Even.bind (fireTimers_even akin _ same)
  intro _ v v' same
  exact .bind (.mark same _) fun _ _ _ same => .pure same _

end Loops

end Engine

end Reflex
