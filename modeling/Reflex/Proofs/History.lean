import Reflex.Journal

/-! What a journal tells of ticks, timers and variables. The latest mark stands first, so
the rest of a journal after a mark is what was there when the mark was made. -/
namespace Reflex

abbrev History := List Mark

namespace History

/-- What holds of every mark, given what was there when it was made. -/
inductive Everywhere (P : History → Mark → Prop) : History → Prop
  | nil : Everywhere P []
  | cons {m : Mark} {earlier : History} : P earlier m → Everywhere P earlier →
      Everywhere P (m :: earlier)

/-- A condition on ticks as they begin. -/
def WhenBegun (P : History → Instant → Nat → Prop) (earlier : History) : Mark → Prop
  | .tickBegan reading limit => P earlier reading limit
  | _ => True

/-- A condition on writes. -/
def WhenWritten (P : History → Write → Prop) (earlier : History) : Mark → Prop
  | .written x => P earlier x
  | _ => True

/-- A condition on calls to cancel and on what they tell. -/
def WhenCancelled (P : History → Nat → Bool → Prop) (earlier : History) : Mark → Prop
  | .timerCancelled i found => P earlier i found
  | _ => True

instance (P : History → Instant → Nat → Prop) [∀ J r n, Decidable (P J r n)] (earlier : History)
    (m : Mark) : Decidable (WhenBegun P earlier m) := by
  cases m <;> unfold WhenBegun <;> infer_instance

instance (P : History → Write → Prop) [∀ J x, Decidable (P J x)] (earlier : History) (m : Mark) :
    Decidable (WhenWritten P earlier m) := by
  cases m <;> unfold WhenWritten <;> infer_instance

instance (P : History → Nat → Bool → Prop) [∀ J i found, Decidable (P J i found)]
    (earlier : History) (m : Mark) : Decidable (WhenCancelled P earlier m) := by
  cases m <;> unfold WhenCancelled <;> infer_instance

/-- The readings that ticks began with. -/
def readings (J : History) : List Instant := J.filterMap fun
  | .tickBegan reading _ => some reading
  | _ => none

/-- The seconds evaluated. -/
def seconds (J : History) : List Instant := J.filterMap fun
  | .second t => some t
  | _ => none

/-- A tick, with what was there when it began. -/
structure Begun where
  reading : Instant
  before : History

/-- The ticks that have begun and not ended. -/
def running : History → List Begun
  | [] => []
  | .tickBegan reading _ :: earlier => ⟨reading, earlier⟩ :: running earlier
  | .tickEnded _ :: earlier => (running earlier).tail
  | _ :: earlier => running earlier

/-- The ticks that have begun. -/
def begun : History → List Begun
  | [] => []
  | .tickBegan reading _ :: earlier => ⟨reading, earlier⟩ :: begun earlier
  | _ :: earlier => begun earlier

/-- The ticks that have ended. -/
def completed : History → List Begun
  | [] => []
  | .tickEnded _ :: earlier => (running earlier).head?.toList ++ completed earlier
  | _ :: earlier => completed earlier

/-- Timers with their deadlines. -/
def armed (J : History) : List (Nat × Instant) := J.filterMap fun
  | .timerArmed timer deadline => some (timer, deadline)
  | _ => none

def started (J : History) : List Nat := J.filterMap fun
  | .timerStarted timer => some timer
  | _ => none

/-- The timers that were cancelled while they were pending. -/
def cancelled (J : History) : List Nat := J.filterMap fun
  | .timerCancelled timer true => some timer
  | _ => none

/-- The timers that were taken to be fired and have not started. -/
def waiting : History → List Nat
  | [] => []
  | .timersTaken _ timers :: earlier => timers ++ waiting earlier
  | .timerStarted timer :: earlier => (waiting earlier).erase timer
  | _ :: earlier => waiting earlier

def writes (J : History) : List Write := J.filterMap fun
  | .written x => some x
  | _ => none

namespace Everywhere

variable {P : History → Mark → Prop} {later earlier J : History} {m : Mark}

theorem head (all : Everywhere P (m :: earlier)) : P earlier m := by
  cases all
  assumption

theorem tail (all : Everywhere P (m :: earlier)) : Everywhere P earlier := by
  cases all
  assumption

theorem cons_iff : Everywhere P (m :: earlier) ↔ P earlier m ∧ Everywhere P earlier :=
  ⟨fun all => ⟨all.head, all.tail⟩, fun ⟨head, tail⟩ => .cons head tail⟩

instance decidable (P : History → Mark → Prop) [∀ J m, Decidable (P J m)] (J : History) :
    Decidable (Everywhere P J) :=
  match J with
  | [] => .isTrue .nil
  | _ :: earlier =>
    have : Decidable (Everywhere P earlier) := decidable P earlier
    decidable_of_iff _ cons_iff.symm

theorem before (all : Everywhere P (later ++ earlier)) : Everywhere P earlier := by
  induction later with
  | nil => exact all
  | cons _ _ ih => exact ih all.tail

theorem split (all : Everywhere P (later ++ m :: earlier)) : P earlier m := all.before.head

theorem of_mem (all : Everywhere P J) (member : m ∈ J) :
    ∃ later earlier, J = later ++ m :: earlier ∧ P earlier m := by
  obtain ⟨later, earlier, rfl⟩ := List.append_of_mem member
  exact ⟨later, earlier, rfl, all.split⟩

theorem append (all : Everywhere P earlier) (each : ∀ m ∈ later, ∀ J, P J m) :
    Everywhere P (later ++ earlier) := by
  induction later with
  | nil => exact all
  | cons m rest ih =>
    obtain ⟨first, others⟩ := List.forall_mem_cons.mp each
    exact .cons (first _) (ih others)

end Everywhere

end History

/-- Marks of the course of a tick. -/
def Mark.isTick : Mark → Bool
  | tickBegan _ _ | tickEnded _ | second _ => true
  | _ => false

/-- Marks that tell nothing of ticks and timers. -/
def Mark.isIdle : Mark → Bool
  | tickBegan _ _ | tickEnded _ | second _ => false
  | timerArmed _ _ | timerCancelled _ _ | timersTaken _ _ | timerStarted _ => false
  | _ => true

namespace History

variable {J later : History}

/-- Marks of a kind that a reading of the journal passes over leave it as it was. -/
theorem append_of_silent {α : Type} {f : History → α} {silent : Mark → Prop}
    (skips : ∀ m J, silent m → f (m :: J) = f J) (all : ∀ m ∈ later, silent m) :
    f (later ++ J) = f J := by
  induction later with
  | nil => rfl
  | cons m rest ih =>
    obtain ⟨first, others⟩ := List.forall_mem_cons.mp all
    exact (skips m _ first).trans (ih others)

theorem readings_append (quiet : ∀ m ∈ later, m.isTick = false) :
    readings (later ++ J) = readings J := by
  refine append_of_silent ?_ quiet
  intro m J first
  cases m <;> first | rfl | cases first

theorem seconds_append (quiet : ∀ m ∈ later, m.isTick = false) :
    seconds (later ++ J) = seconds J := by
  refine append_of_silent ?_ quiet
  intro m J first
  cases m <;> first | rfl | cases first

theorem running_append (quiet : ∀ m ∈ later, m.isTick = false) :
    running (later ++ J) = running J := by
  refine append_of_silent ?_ quiet
  intro m J first
  cases m <;> first | rfl | cases first

theorem armed_append (idle : ∀ m ∈ later, m.isIdle = true) : armed (later ++ J) = armed J := by
  refine append_of_silent ?_ idle
  intro m J first
  cases m <;> first | rfl | cases first

theorem started_append (idle : ∀ m ∈ later, m.isIdle = true) :
    started (later ++ J) = started J := by
  refine append_of_silent ?_ idle
  intro m J first
  cases m <;> first | rfl | cases first

theorem cancelled_append (idle : ∀ m ∈ later, m.isIdle = true) :
    cancelled (later ++ J) = cancelled J := by
  refine append_of_silent ?_ idle
  intro m J first
  cases m <;> first | rfl | cases first

theorem waiting_append (idle : ∀ m ∈ later, m.isIdle = true) :
    waiting (later ++ J) = waiting J := by
  refine append_of_silent ?_ idle
  intro m J first
  cases m <;> first | rfl | cases first

theorem filterMap_later {α : Type} {f : Mark → Option α} :
    J.filterMap f ⊆ (later ++ J).filterMap f := by
  intro x member
  rw [List.filterMap_append]
  exact List.mem_append_right _ member

theorem filterMap_behind {α : Type} {f : Mark → Option α} {m : Mark} :
    J.filterMap f ⊆ (later ++ m :: J).filterMap f := by
  rw [List.append_cons]
  exact filterMap_later

theorem begun_later : begun J ⊆ begun (later ++ J) := by
  induction later with
  | nil => exact List.Subset.refl _
  | cons m rest ih =>
    intro k member
    have before := ih member
    cases m <;> first | exact before | exact .tail _ before

theorem begun_split {k : Begun} (member : k ∈ begun J) :
    ∃ later limit, J = later ++ .tickBegan k.reading limit :: k.before := by
  induction J with
  | nil => cases member
  | cons m earlier ih =>
    have inner : k ∈ begun earlier →
        ∃ later limit, m :: earlier = later ++ .tickBegan k.reading limit :: k.before := by
      intro member
      obtain ⟨later, limit, rfl⟩ := ih member
      exact ⟨m :: later, limit, rfl⟩
    cases m with
    | tickBegan reading limit =>
      rcases List.mem_cons.mp member with rfl | member
      · exact ⟨[], limit, rfl⟩
      · exact inner member
    | _ => exact inner member

/-- A tick in progress has begun. -/
theorem running_begun : running J ⊆ begun J := by
  induction J with
  | nil => exact List.Subset.refl _
  | cons m earlier ih =>
    intro k member
    cases m with
    | tickBegan reading limit =>
      rcases List.mem_cons.mp member with rfl | member
      · exact .head _
      · exact .tail _ (ih member)
    | tickEnded n => exact ih (List.mem_of_mem_tail member)
    | _ => exact ih member

/-- A tick in progress was in progress some time ago, or has begun since. -/
theorem running_since {k : Begun} (member : k ∈ running (later ++ J)) :
    k ∈ running J ∨ ∃ since, k.before = since ++ J := by
  induction later with
  | nil => exact .inl member
  | cons m rest ih =>
    cases m with
    | tickBegan reading limit =>
      rcases List.mem_cons.mp member with rfl | member
      · exact .inr ⟨rest, rfl⟩
      · exact ih member
    | tickEnded n => exact ih (List.mem_of_mem_tail member)
    | _ => exact ih member

theorem completed_split {k : Begun} (member : k ∈ completed J) :
    ∃ later n earlier, J = later ++ .tickEnded n :: earlier ∧ k ∈ (running earlier).head? := by
  induction J with
  | nil => cases member
  | cons m before ih =>
    have inner : k ∈ completed before → ∃ later n earlier,
        m :: before = later ++ .tickEnded n :: earlier ∧ k ∈ (running earlier).head? := by
      intro member
      obtain ⟨later, n, earlier, rfl, top⟩ := ih member
      exact ⟨m :: later, n, earlier, rfl, top⟩
    cases m with
    | tickEnded n =>
      rcases List.mem_append.mp member with top | member
      · exact ⟨[], n, before, rfl, Option.mem_toList.mp top⟩
      · exact inner member
    | _ => exact inner member

theorem running_reading {k : Begun} (member : k ∈ running J) : k.reading ∈ readings J := by
  obtain ⟨later, limit, rfl⟩ := begun_split (running_begun member)
  exact filterMap_later (.head _)

theorem running_readings {k : Begun} (member : k ∈ running J) : readings k.before ⊆ readings J := by
  obtain ⟨later, limit, rfl⟩ := begun_split (running_begun member)
  exact filterMap_behind

theorem running_armed {k : Begun} (member : k ∈ running J) : armed k.before ⊆ armed J := by
  obtain ⟨later, limit, rfl⟩ := begun_split (running_begun member)
  exact filterMap_behind

end History

end Reflex
