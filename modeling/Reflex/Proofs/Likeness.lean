import Reflex.Proofs.History
import Reflex.Proofs.Laws

/-! Two runs of the same code from worlds that are alike: they differ in the clock and in how
far the scheduler has come, and in nothing else that code can change. Code that only
records cannot tell such worlds apart, so it ends alike and leaves alike worlds. -/
namespace Reflex
open Act Engine

variable {σ α β : Type}

/-- Marks that tell how far ticks have come, and nothing of what ran in them. -/
def Mark.isProgress : Mark → Bool
  | tickBegan _ _ | tickEnded _ | second _ | timersTaken _ _ | served _ | secondEnded _ => true
  | _ => false

namespace History

/-- What a journal tells apart from the progress of ticks: timers, publications and jobs with
their seconds and all that code did. -/
def told (J : History) : History := J.filter (!·.isProgress)

theorem told_cons (m : Mark) (J : History) :
    told (m :: J) = if m.isProgress then told J else m :: told J := by
  unfold told
  cases shown : m.isProgress <;> simp [shown]

end History

open History

namespace World

/-- The world without the clock, the journal and the progress of the scheduler. -/
def core (w : World σ) : World σ :=
  { w with
    clock := ⟨0⟩
    agenda := { w.agenda with timers := [], lastTick := none, current := none }
    journal := [] }

structure Alike (w w' : World σ) : Prop where
  core : w.core = w'.core
  told : told w.journal = told w'.journal

namespace Alike

variable {w w' w'' : World σ}

theorem trans (first : w.Alike w') (second : w'.Alike w'') : w.Alike w'' :=
  ⟨first.core.trans second.core, first.told.trans second.told⟩

theorem symm (alike : w.Alike w') : w'.Alike w := ⟨alike.core.symm, alike.told.symm⟩

/-- What a function tells of the core alone, it tells of both. -/
theorem of_core {β : Type _} (f : World σ → β) (alike : w.Alike w') : f w.core = f w'.core :=
  congrArg f alike.core

theorem bus (alike : w.Alike w') : w.bus = w'.bus := alike.of_core World.bus

theorem jobs (alike : w.Alike w') : w.agenda.jobs = w'.agenda.jobs :=
  alike.of_core fun v => v.agenda.jobs

theorem scenarios (alike : w.Alike w') : w.scenarios = w'.scenarios :=
  alike.of_core World.scenarios

theorem registry (alike : w.Alike w') : w.registry = w'.registry := alike.of_core World.registry

theorem memory (alike : w.Alike w') : w.memory = w'.memory := alike.of_core World.memory

/-- A mark tells the same in both. -/
theorem marked (alike : w.Alike w') (m : Mark) : (w.marked m).Alike (w'.marked m) := by
  refine ⟨alike.core, ?_⟩
  change History.told (m :: w.journal) = History.told (m :: w'.journal)
  rw [told_cons, told_cons, alike.told]

/-- A mark of progress tells nothing. -/
theorem progress (w : World σ) {m : Mark} (shown : m.isProgress = true) : w.Alike (w.marked m) := by
  refine ⟨rfl, ?_⟩
  change History.told w.journal = History.told (m :: w.journal)
  rw [told_cons, if_pos shown]

/-- The same change to the core of both. -/
theorem saving (alike : w.Alike w') (memory : σ) :
    ({ w with memory } : World σ).Alike { w' with memory } :=
  ⟨alike.of_core fun v => { v with memory }, alike.told⟩

end Alike

/-- Only memory and journal have changed. -/
def Noted (w w' : World σ) : Prop := ∃ memory journal, w' = { w with memory, journal }

namespace Noted

variable {w w' w'' : World σ}

@[refl] theorem refl (w : World σ) : w.Noted w := ⟨w.memory, w.journal, rfl⟩

theorem trans (first : w.Noted w') (second : w'.Noted w'') : w.Noted w'' := by
  obtain ⟨_, _, rfl⟩ := first
  obtain ⟨memory, journal, rfl⟩ := second
  exact ⟨memory, journal, rfl⟩

theorem marked (w : World σ) (m : Mark) : w.Noted (w.marked m) := ⟨w.memory, m :: w.journal, rfl⟩

theorem agenda (noted : w.Noted w') : w'.agenda = w.agenda := by
  obtain ⟨_, _, rfl⟩ := noted
  rfl

theorem clock (noted : w.Noted w') : w'.clock = w.clock := by
  obtain ⟨_, _, rfl⟩ := noted
  rfl

theorem scenarios (noted : w.Noted w') : w'.scenarios = w.scenarios := by
  obtain ⟨_, _, rfl⟩ := noted
  rfl

end Noted

end World

open World

/-- The two steps come to the same end, in worlds that are alike, and touch nothing but memory
and journal. -/
def Together (x y : Act σ α) (w w' : World σ) : Prop :=
  ∃ r v v', x w = (r, v) ∧ y w' = (r, v') ∧ ended r = true ∧ w.Noted v ∧ w'.Noted v' ∧ v.Alike v'

/-- A relation between alike worlds that memory and journal have no part in. -/
structure Tie (A : World σ → World σ → Prop) : Prop where
  alike {w w' : World σ} : A w w' → w.Alike w'
  noted {w w' v v' : World σ} : A w w' → w.Noted v → w'.Noted v' → v.Alike v' → A v v'

theorem tie_alike : Tie (World.Alike : World σ → World σ → Prop) :=
  ⟨id, fun _ _ _ alike => alike⟩

theorem tie_since (origin : World σ) : Tie fun w w' : World σ => w.Alike w' ∧ origin.Noted w' where
  alike := And.left
  noted tied _ noted alike := ⟨alike, tied.2.trans noted⟩

/-- Called in worlds so related, the program runs alike. -/
def Call.Blind (call : Call σ) (A : World σ → World σ → Prop) (p : Program σ) : Prop :=
  ∀ ⦃w w' : World σ⦄, A w w' → Together (call p) (call p) w w'

namespace Together

variable {A : World σ → World σ → Prop} {x y : Act σ α} {f g : α → Act σ β} {w w' : World σ}

theorem pure (alike : w.Alike w') (a : α) :
    Together (pure a : Act σ α) (pure a) w w' :=
  ⟨.ok a, w, w', rfl, rfl, rfl, .refl w, .refl w', alike⟩

theorem fail (alike : w.Alike w') (cause : Failure) :
    Together (fail cause : Act σ α) (fail cause) w w' :=
  ⟨.error (.failed cause), w, w', rfl, rfl, rfl, .refl w, .refl w', alike⟩

theorem bind (tie : Tie A) (tied : A w w') (first : Together x y w w')
    (rest : ∀ a {v v'}, A v v' → Together (f a) (g a) v v') :
    Together (x >>= f) (y >>= g) w w' := by
  obtain ⟨r, v, v', ran, ran', came, noted, noted', alike⟩ := first
  match r, ran, ran', came with
  | .error i, ran, ran', came =>
    exact ⟨.error i, v, v', bind_error ran, bind_error ran', came, noted, noted', alike⟩
  | .ok a, ran, ran', _ =>
    obtain ⟨r, u, u', further, further', came, more, more', last⟩ :=
      rest a (tie.noted tied noted noted' alike)
    exact ⟨r, u, u', (bind_ok ran).trans further, (bind_ok ran').trans further', came,
      noted.trans more, noted'.trans more', last⟩

theorem mark (alike : w.Alike w') (m : Mark) : Together (mark m : Act σ Unit) (mark m) w w' :=
  ⟨.ok (), _, _, rfl, rfl, rfl, .marked w m, .marked w' m, alike.marked m⟩

theorem of_eq {x' y' : Act σ α} (here : x w = x' w) (there : y w' = y' w')
    (both : Together x' y' w w') : Together x y w w' := by
  obtain ⟨r, v, v', ran, ran', told⟩ := both
  exact ⟨r, v, v', here.trans ran, there.trans ran', told⟩

/-- Each looks at its own world. -/
theorem got {f g : World σ → Act σ β} (rest : Together (f w) (g w') w w') :
    Together (get >>= f) (get >>= g) w w' := by
  obtain ⟨r, v, v', ran, ran', told⟩ := rest
  exact ⟨r, v, v', (bind_ok (get_run w)).trans ran, (bind_ok (get_run w')).trans ran', told⟩

theorem attempt (both : Together x y w w') : Together (attempt x) (attempt y) w w' := by
  obtain ⟨r, v, v', ran, ran', came, told⟩ := both
  match r, ran, ran', came with
  | .ok a, ran, ran', _ =>
    exact ⟨.ok (.ok a), v, v', attempt_ok ran, attempt_ok ran', rfl, told⟩
  | .error (.failed cause), ran, ran', _ =>
    exact ⟨.ok (.error cause), v, v', attempt_failed ran, attempt_failed ran', rfl, told⟩

theorem discard (tie : Tie A) (tied : A w w') (both : Together x y w w') :
    Together (discard x) (discard y) w w' :=
  bind tie tied both fun _ _ _ tied => pure (tie.alike tied) _

end Together

/-- The two steps succeed, in worlds that are alike, and touch nothing but memory and
journal. -/
def Paired (x y : Act σ Unit) (w w' : World σ) : Prop :=
  ∃ v v', x w = (.ok (), v) ∧ y w' = (.ok (), v') ∧ w.Noted v ∧ w'.Noted v' ∧ v.Alike v'

namespace Paired

variable {A : World σ → World σ → Prop} {x y x' y' : Act σ Unit} {w w' : World σ}

theorem pure (alike : w.Alike w') : Paired (pure ()) (pure ()) w w' :=
  ⟨w, w', rfl, rfl, .refl w, .refl w', alike⟩

theorem mark (alike : w.Alike w') (m : Mark) : Paired (mark m) (mark m) w w' :=
  ⟨_, _, rfl, rfl, .marked w m, .marked w' m, alike.marked m⟩

theorem bind (tie : Tie A) (tied : A w w') (first : Paired x y w w')
    (rest : ∀ {v v'}, A v v' → Paired x' y' v v') :
    Paired (x >>= fun _ => x') (y >>= fun _ => y') w w' := by
  obtain ⟨v, v', ran, ran', noted, noted', alike⟩ := first
  obtain ⟨u, u', further, further', more, more', last⟩ := rest (tie.noted tied noted noted' alike)
  exact ⟨u, u', (bind_ok ran).trans further, (bind_ok ran').trans further', noted.trans more,
    noted'.trans more', last⟩

theorem ite {P : Prop} [Decidable P] (alike : w.Alike w') (both : P → Paired x y w w') :
    Paired (if P then x else Pure.pure ()) (if P then y else Pure.pure ()) w w' := by
  by_cases holds : P
  · rw [if_pos holds, if_pos holds]
    exact both holds
  · rw [if_neg holds, if_neg holds]
    exact pure alike

/-- A failure that is only reported does not stop what follows. -/
theorem reporting {x y : Act σ α} (report : Failure → Mark) (both : Together x y w w') :
    Paired (reporting report x) (reporting report y) w w' := by
  obtain ⟨r, v, v', ran, ran', came, noted, noted', alike⟩ := both
  match r, ran, ran', came with
  | .ok a, ran, ran', _ =>
    exact ⟨v, v', bind_ok (attempt_ok ran), bind_ok (attempt_ok ran'), noted, noted', alike⟩
  | .error (.failed cause), ran, ran', _ =>
    exact ⟨_, _, bind_ok (attempt_failed ran), bind_ok (attempt_failed ran'),
      noted.trans (.marked v _), noted'.trans (.marked v' _), alike.marked _⟩

end Paired

/-! Code that only records. -/

/-- What can be seen apart from the clock, the tick in progress, the timers that are left and
the scenarios with their times of suppression. -/
def View.timeless (v : View) : View :=
  { v with now := ⟨0⟩, tickTime := ⟨0⟩, timers := 0, scenario := fun _ => none }

/-- The program keeps its memory and writes notes, and looks at nothing that depends on the
clock or on the scheduler. -/
def Program.Records : Program σ → Prop
  | done _ => True
  | fail _ => True
  | look next => (∀ v v', v.timeless = v'.timeless → next v = next v') ∧ ∀ v, (next v).Records
  | load next => ∀ memory, (next memory).Records
  | save _ next => next.Records
  | note _ next => next.Records
  | _ => False

theorem World.Alike.view {w w' : World σ} (alike : w.Alike w') :
    w.view.timeless = w'.view.timeless :=
  alike.of_core fun v => v.view.timeless

theorem Engine.interpret_records {call : Call σ} {p : Program σ} (records : p.Records)
    {w w' : World σ} (alike : w.Alike w') :
    Together (interpret call p) (interpret call p) w w' := by
  induction p generalizing w w' with
  | done holds => exact .pure alike holds
  | fail cause => exact .fail alike cause
  | look next ih =>
    obtain ⟨blind, records⟩ := records
    have same : next w'.view = next w.view := (blind _ _ alike.view).symm
    refine .got ?_
    rw [same]
    exact ih w.view (records w.view) alike
  | load next ih =>
    refine .got ?_
    rw [← alike.memory]
    exact ih w.memory (records w.memory) alike
  | save memory next ih =>
    have saved : Together (modify fun w : World σ => { w with memory })
        (modify fun w => { w with memory }) w w' :=
      ⟨.ok ⟨⟩, _, _, rfl, rfl, rfl, ⟨memory, w.journal, rfl⟩, ⟨memory, w'.journal, rfl⟩,
        alike.saving memory⟩
    exact .bind tie_alike alike saved fun _ _ _ alike => ih records alike
  | note m next ih =>
    exact .bind tie_alike alike (.mark alike m.mark) fun _ _ _ alike => ih records alike
  | _ => exact records.elim

theorem Program.Records.blind {A : World σ → World σ → Prop} (tie : Tie A) {p : Program σ}
    (records : p.Records) (depth : Nat) : Call.Blind (exec (depth + 1)) A p :=
  fun _ _ tied => interpret_records records (tie.alike tied)

end Reflex
