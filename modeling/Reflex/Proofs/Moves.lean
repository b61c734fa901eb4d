import Reflex.Proofs.Changes

/-! The steps that touch timers and variables, as functions from worlds to worlds. Code
runs only between them. -/
namespace Reflex
open Act

variable {σ : Type}

namespace World

/-- A timer is armed, due a span after the clock's reading. -/
def arming (w : World σ) (d : Span) (task : Reaction σ) : World σ :=
  { w with agenda := w.agenda.arm (w.clock.add d) task }.marked
    (.timerArmed w.agenda.nextTimer (w.clock.add d))

def cancelling (w : World σ) (id : Nat) : World σ :=
  { w with agenda := w.agenda.cancel id }.marked (.timerCancelled id (w.agenda.hasTimer id))

/-- The timers due at an instant are taken off the agenda. -/
def taking (w : World σ) (t : Instant) : World σ :=
  { w with agenda := w.agenda.takeDue t }.marked
    (.timersTaken t ((w.agenda.dueTimers t).map Timer.id))

/-- A tick begins at the clock's reading. -/
def beginning (w : World σ) : World σ :=
  { w with agenda := { w.agenda with lastTick := some w.clock.truncate } }.marked
    (.tickBegan w.clock w.agenda.maxCatchUp)

def noting (w : World σ) : Option Mark → World σ
  | some m => w.marked m
  | none => w

def slot? (w : World σ) (name : String) : Option Slot := Table.find? name w.slots

def storing (w : World σ) (name : String) (slot : Slot) : World σ :=
  { w with slots := Table.put name slot w.slots }

/-- A slot is stored and the timer of the slot before it cancelled. -/
def replacing (w : World σ) (name : String) (slot : Slot) : World σ :=
  match (w.slot? name).bind (·.expiry) with
  | some timer => (w.storing name slot).cancelling timer
  | none => w.storing name slot

/-- The world in which a write is published. -/
def writing (w : World σ) (name : String) (value : Value) : Option Span → World σ
  | some d => ((w.arming d (.expiry name)).replacing name ⟨value, some w.agenda.nextTimer⟩).marked
      (.written ⟨name, value, w.clock, some d, some w.agenda.nextTimer⟩)
  | none => (w.replacing name ⟨value, none⟩).marked (.written ⟨name, value, w.clock, none, none⟩)

/-- The world in which the end of a variable's lifetime is published. -/
def expiring (w : World σ) (name : String) : World σ :=
  (w.storing name ⟨.null, none⟩).marked (.expired name)

/-- The world after the end of a variable's lifetime. Nothing happens without the store or
the variable. -/
def lapsing (w : World σ) (name : String) : World σ :=
  if w.storeAlive && (w.slot? name).isSome then w.expiring name else w

def dropping (w : World σ) (withStore : Bool) : World σ :=
  { w with registry := none, storeHeld := w.storeHeld && !withStore }

/-- The journal goes on without marks of a kind. -/
def Without (kind : Mark → Bool) (w w' : World σ) : Prop :=
  ∃ later, w'.journal = later ++ w.journal ∧ ∀ m ∈ later, kind m = false

namespace Without

variable {kind : Mark → Bool} {w w' last : World σ}

theorem of_same (journal : w'.journal = w.journal) : w.Without kind w' :=
  ⟨[], journal, fun _ none => nomatch none⟩

theorem trans (first : w.Without kind w') (rest : w'.Without kind last) : w.Without kind last := by
  obtain ⟨earlier, before, quiet⟩ := first
  obtain ⟨later, after, silent⟩ := rest
  refine ⟨later ++ earlier, by rw [after, before, List.append_assoc], ?_⟩
  exact List.forall_mem_append.mpr ⟨silent, quiet⟩

theorem mono {other : Mark → Bool} (quiet : w.Without kind w')
    (narrower : ∀ m, kind m = false → other m = false) : w.Without other w' := by
  obtain ⟨later, journal, quiet⟩ := quiet
  exact ⟨later, journal, fun m member => narrower m (quiet m member)⟩

theorem of_mark {m : Mark} (journal : w'.journal = m :: w.journal) (quiet : kind m = false) :
    w.Without kind w' :=
  ⟨[m], journal, by simpa using quiet⟩

theorem marked (w : World σ) {m : Mark} (quiet : kind m = false) : w.Without kind (w.marked m) :=
  of_mark rfl quiet

end Without

/-- A relation that composes and holds of the steps that a write of a variable is made of. -/
structure Absorbs (R : World σ → World σ → Prop) : Prop where
  refl (w : World σ) : R w w
  trans {w w' last : World σ} : R w w' → R w' last → R w last
  store (w : World σ) (name : String) (slot : Slot) : R w (w.storing name slot)
  arm (w : World σ) (d : Span) (name : String) : R w (w.arming d (.expiry name))
  cancel (w : World σ) (id : Nat) : R w (w.cancelling id)
  written (w : World σ) (x : Write) : R w (w.marked (.written x))

namespace Absorbs

variable {R : World σ → World σ → Prop}

theorem replacing (absorbs : Absorbs R) (w : World σ) (name : String) (slot : Slot) :
    R w (w.replacing name slot) := by
  unfold World.replacing
  cases (w.slot? name).bind (·.expiry) with
  | none => exact absorbs.store w name slot
  | some timer => exact absorbs.trans (absorbs.store w name slot) (absorbs.cancel _ timer)

theorem writing (absorbs : Absorbs R) (w : World σ) (name : String) (value : Value)
    (ttl : Option Span) : R w (w.writing name value ttl) := by
  cases ttl with
  | none => exact absorbs.trans (absorbs.replacing w name _) (absorbs.written _ _)
  | some d =>
    apply absorbs.trans _ (absorbs.written _ _)
    exact absorbs.trans (absorbs.arm w d name) (absorbs.replacing _ name _)

theorem lapsing (absorbs : Absorbs R) {name : String}
    (expired : ∀ w : World σ, R w (w.marked (.expired name))) (w : World σ) :
    R w (w.lapsing name) := by
  unfold World.lapsing
  split
  · exact absorbs.trans (absorbs.store w name _) (expired _)
  · exact absorbs.refl w

end Absorbs

/-! None of them holds code that was not there. -/

variable {rule : Rule}

theorem Lodges.noting {w : World σ} (lodges : w.Lodges rule) (report : Option Mark) :
    (w.noting report).Lodges rule := by
  cases report with
  | none => exact lodges
  | some m => exact lodges.marked m

theorem Lodges.agenda_kept {w : World σ} (lodges : w.Lodges rule)
    (agenda : Agenda (Reaction σ)) (jobs : agenda.jobs = w.agenda.jobs)
    (timers : ∀ t ∈ agenda.timers, t.Within rule) :
    { w with agenda }.Lodges rule :=
  ⟨lodges.1, by rw [jobs]; exact lodges.2, timers, lodges.4, lodges.5, lodges.6⟩

theorem Lodges.arming {w : World σ} (lodges : w.Lodges rule) (d : Span) {task : Reaction σ}
    (kept : (∃ name, task = .expiry name) ∨ task.Within rule) : (w.arming d task).Lodges rule := by
  refine (lodges.agenda_kept (w.agenda.arm (w.clock.add d) task) rfl fun t member => ?_).marked _
  rcases List.mem_append.mp member with earlier | new
  · exact lodges.timers t earlier
  · rw [List.mem_singleton.mp new]
    exact kept

theorem Lodges.cancelling {w : World σ} (lodges : w.Lodges rule) (id : Nat) :
    (w.cancelling id).Lodges rule :=
  (lodges.agenda_kept (w.agenda.cancel id) rfl fun x member =>
    lodges.timers x (List.mem_filter.mp member).1).marked _

theorem Lodges.taking {w : World σ} (lodges : w.Lodges rule) (t : Instant) :
    (w.taking t).Lodges rule :=
  (lodges.agenda_kept (w.agenda.takeDue t) rfl fun x member =>
    lodges.timers x (List.mem_filter.mp member).1).marked _

theorem Lodges.storing {w : World σ} (lodges : w.Lodges rule) (name : String) (slot : Slot) :
    (w.storing name slot).Lodges rule :=
  ⟨lodges.1, lodges.2, lodges.3, lodges.4, lodges.5, lodges.6⟩

theorem Lodges.replacing {w : World σ} (lodges : w.Lodges rule) (name : String)
    (slot : Slot) : (w.replacing name slot).Lodges rule := by
  unfold World.replacing
  cases (w.slot? name).bind (·.expiry) with
  | none => exact lodges.storing name slot
  | some timer => exact (lodges.storing name slot).cancelling timer

theorem Lodges.writing {w : World σ} (lodges : w.Lodges rule) (name : String) (value : Value)
    (ttl : Option Span) : (w.writing name value ttl).Lodges rule := by
  cases ttl with
  | none => exact (lodges.replacing name _).marked _
  | some d => exact ((lodges.arming d (.inl ⟨name, rfl⟩)).replacing name _).marked _

theorem Lodges.lapsing {w : World σ} (lodges : w.Lodges rule) (name : String) :
    (w.lapsing name).Lodges rule := by
  unfold World.lapsing
  split
  · exact (lodges.storing name _).marked _
  · exact lodges

end World

namespace Engine

theorem once_run (d : Span) (task : Reaction σ) (w : World σ) :
    once d task w = (.ok w.agenda.nextTimer, w.arming d task) := rfl

theorem cancel_run (id : Nat) (w : World σ) :
    cancel id w = (.ok (w.agenda.hasTimer id), w.cancelling id) := rfl

variable (call : Call σ)

theorem fireTimers_run (t : Instant) (w : World σ) :
    fireTimers call t w = runTimers call (w.agenda.dueTimers t) (w.taking t) := rfl

theorem replaceSlot_run (name : String) (slot : Slot) (w : World σ) :
    replaceSlot name slot w = (.ok (w.value name), w.replacing name slot) := by
  rw [replaceSlot, bind_ok (get_run _), bind_ok (set_run _ _), World.value, World.replacing,
    World.slot?]
  cases Table.find? name w.slots with
  | none => rfl
  | some old =>
    obtain ⟨value, expiry⟩ := old
    cases expiry <;> rfl

theorem setVariable_run (name : String) (value : Value) (ttl : Option Span) (w : World σ) :
    setVariable call name value ttl w =
      publishVariable call name value (w.value name) (w.writing name value ttl) := by
  rw [setVariable, bind_ok (get_run _)]
  cases ttl with
  | none =>
    dsimp only
    rw [bind_ok (pure_run _ _), bind_ok (replaceSlot_run _ _ _), bind_ok (mark_run _ _)]
    rfl
  | some d =>
    have armed : (some <$> once d (.expiry name) : Act σ (Option Nat)) w =
        (.ok (some w.agenda.nextTimer), w.arming d (.expiry name)) := rfl
    dsimp only
    rw [bind_ok armed, bind_ok (replaceSlot_run _ _ _), bind_ok (mark_run _ _)]
    rfl

/-- What publishes the end of a lifetime, once it is stored. -/
def publishLapse (name : String) (w : World σ) : Act σ Unit :=
  if w.storeAlive && (w.slot? name).isSome then publishVariable call name .null (w.value name)
  else pure ()

theorem expireVariable_run (name : String) (w : World σ) :
    expireVariable call name w = publishLapse call name w (w.lapsing name) := by
  rw [expireVariable, bind_ok (get_run _), publishLapse, World.lapsing, World.slot?, World.value]
  cases w.storeAlive with
  | false => rfl
  | true => cases Table.find? name w.slots <;> rfl

theorem takePlan_run (now : Instant) (w : World σ) :
    takePlan now w = (.ok (w.agenda.plan now),
      { w with agenda := { w.agenda with lastTick := some now } }.noting
        (w.agenda.plan now).report) := by
  rw [takePlan, bind_ok (get_run _)]
  dsimp only
  rw [bind_ok (set_run _ _)]
  cases (w.agenda.plan now).report <;> rfl

theorem tick_run (w : World σ) :
    tick call w = (do
      runSeconds call (w.agenda.plan w.clock.truncate).first
        (w.agenda.plan w.clock.truncate).count
      fireTimers call w.clock
      mark (.tickEnded (w.agenda.plan w.clock.truncate).count)
      return (w.agenda.plan w.clock.truncate).count : Act σ Nat)
      (w.beginning.noting (w.agenda.plan w.clock.truncate).report) := by
  rw [tick, bind_ok (get_run _), bind_ok (mark_run _ _), bind_ok (takePlan_run _ _)]
  rfl

end Engine

end Reflex
