import Reflex.Proofs.Firing

/-! Cancelling timers. Whoever cancels a timer, and whenever, succeeds exactly while the timer
is on the agenda, and what is off the agenda by then has started, was cancelled, or waits
in the batch of a tick, where no call reaches it. -/
namespace Reflex
open History Engine

variable {σ : Type}

namespace History

/-- Cancelling finds a timer exactly while it is pending. -/
abbrev CancelsPending : History → Mark → Prop := WhenCancelled fun earlier i found =>
  found = true ↔ ∃ d, Pending earlier i d

/-- Cancelling finds a timer from its arming until it starts or is cancelled. -/
abbrev CancelsUnstarted : History → Mark → Prop := WhenCancelled fun earlier i found =>
  found = true ↔ i ∈ (armed earlier).map Prod.fst ∧ i ∉ started earlier ∧ i ∉ cancelled earlier

/-- No timer starts that was cancelled while it was pending. -/
def StartsUncancelled (earlier : History) : Mark → Prop
  | .timerStarted i => i ∉ cancelled earlier
  | _ => True

variable {J later : History} {i : Nat}

/-- A timer leaves its batch only by being started. -/
theorem waiting_since (waits : i ∈ waiting J) :
    i ∈ waiting (later ++ J) ∨ i ∈ started (later ++ J) := by
  induction later with
  | nil => exact .inl waits
  | cons m rest ih =>
    have kept : i ∈ started (rest ++ J) → i ∈ started ([m] ++ (rest ++ J)) :=
      fun ran => filterMap_later ran
    cases m with
    | timerStarted k =>
      by_cases same : i = k
      · exact .inr (same ▸ .head _)
      · rcases ih with waits | ran
        · exact .inl ((List.mem_erase_of_ne same).mpr waits)
        · exact .inr (kept ran)
    | timersTaken t timers => exact ih.imp (List.mem_append_right _) kept
    | _ => exact ih.imp id kept

/-- What starts after a moment starts by a mark that came after it. -/
theorem started_since (ran : i ∈ started (later ++ J)) :
    i ∈ started J ∨ ∃ after before, later = after ++ .timerStarted i :: before := by
  rw [started, List.filterMap_append, List.mem_append] at ran
  rcases ran with since | before
  · obtain ⟨m, member, same⟩ := List.mem_filterMap.mp since
    obtain rfl : m = .timerStarted i := by
      cases m <;> cases same
      rfl
    exact .inr (List.append_of_mem member)
  · exact .inl before

end History

/-- What calls to cancel have told and what has started since. -/
structure Decided (w : World σ) (ks : List (Ticking σ)) : Prop where
  held : Held w ks
  cancels : Everywhere CancelsPending w.journal
  starts : Everywhere StartsUncancelled w.journal

namespace Decided

variable {w w' : World σ} {ks ks' : List (Ticking σ)}

theorem start (clock : Instant) (devices : List Device) (memory : σ) :
    Decided (.start clock devices memory) [] where
  held := .start clock devices memory
  cancels := .nil
  starts := .nil

theorem cancel (decided : Decided w ks) (id : Nat) : Decided (w.cancelling id) ks := by
  have found : w.agenda.hasTimer id = true ↔ ∃ d, Pending w.journal id d := by
    constructor
    · intro has
      obtain ⟨x, member, same⟩ : ∃ x ∈ w.agenda.timers, x.id = id := by
        simpa [Agenda.hasTimer] using has
      exact ⟨x.deadline, (decided.held.pending id _).mp ⟨x, member, same, rfl⟩⟩
    · rintro ⟨d, pending⟩
      obtain ⟨x, member, same, -⟩ := (decided.held.pending id d).mpr pending
      simpa [Agenda.hasTimer] using ⟨x, member, same⟩
  exact ⟨decided.held.cancel id, .cons found decided.cancels, .cons trivial decided.starts⟩

theorem shift (decided : Decided w ks) (shift : Shift w w') : Decided w' ks := by
  have held := decided.held.shift shift
  cases shift with
  | idle idle =>
    obtain ⟨⟨later, journal, quiet⟩, -⟩ := idle
    refine ⟨held, ?_, ?_⟩ <;> rw [journal]
    · refine decided.cancels.append ?_
      intro m member J
      have first := quiet m member
      cases m <;> trivial
    · refine decided.starts.append ?_
      intro m member J
      have first := quiet m member
      cases m <;> trivial
  | arm => exact ⟨held, .cons trivial decided.cancels, .cons trivial decided.starts⟩
  | cancel => exact decided.cancel _

theorem handle (decided : Decided w ks) (handling : Handling w ks w' ks') : Decided w' ks' := by
  have held := decided.held.handle handling
  have cancels := decided.cancels
  have starts := decided.starts
  cases handling with
  | shift shifts =>
    clear held cancels starts
    induction shifts with
    | refl => exact decided
    | tail _ last ih => exact ih.shift last
  | begin => exact ⟨held, .cons trivial cancels, .cons trivial starts⟩
  | second =>
    exact ⟨held, .cons trivial (.cons trivial cancels), .cons trivial (.cons trivial starts)⟩
  | close => exact ⟨held, .cons trivial cancels, .cons trivial starts⟩
  | @start _ k x rest batch =>
    have uncancelled : x.id ∉ cancelled w.journal :=
      (decided.held.batch x (by simp [batches_cons, batch])).2.2
    exact ⟨held, .cons trivial cancels, .cons uncancelled starts⟩
  | finish => exact ⟨held, .cons trivial cancels, .cons trivial starts⟩

/-- A timer that had not started when it was cancelled, and did not wait, never starts. -/
theorem never_starts (decided : Decided w ks) {later earlier : History} {i : Nat} {found : Bool}
    {d : Instant} (journal : w.journal = later ++ .timerCancelled i found :: earlier)
    (armed : (i, d) ∈ armed earlier) (unstarted : i ∉ started earlier)
    (reached : i ∉ waiting earlier) : i ∉ started w.journal := by
  have cancels := decided.cancels
  have starts := decided.starts
  rw [journal] at cancels starts
  have gone : i ∈ cancelled (.timerCancelled i found :: earlier) := by
    cases found with
    | true => exact .head _
    | false =>
      by_contra uncancelled
      have pending : Pending earlier i d := ⟨armed, unstarted, uncancelled, reached⟩
      have missed : false = true := cancels.split.mpr ⟨d, pending⟩
      cases missed
  intro ran
  rw [journal] at ran
  rcases started_since ran with before | ⟨after, before, rfl⟩
  · exact unstarted before
  · rw [List.append_assoc] at starts
    exact starts.split (filterMap_later gone)

end Decided

theorem Reached.decided {rule : Rule} {m : Moment σ} (reached : Reached rule m) :
    Decided m.world (Frames.ticks m.frames) :=
  reached.invariant (P := fun m => Decided m.world (Frames.ticks m.frames))
    (fun clock devices memory => .start clock devices memory)
    fun _ decided step => decided.handle step.handling

/-- What a history tells of each call to cancel a timer: it finds the timer exactly while that is
pending, and of the timers that had not started only one that waits in a batch starts
after the call, and does so before the ticks are over. -/
structure CancelsKept (between : Bool) (J : History) : Prop where
  found : Everywhere CancelsPending J
  stays : ∀ later i found earlier d, J = later ++ .timerCancelled i found :: earlier →
    (i, d) ∈ armed earlier → i ∉ started earlier → i ∈ started J → i ∈ waiting earlier
  escapes : between = true → ∀ later i found earlier,
    J = later ++ .timerCancelled i found :: earlier → i ∈ waiting earlier → i ∈ started J

/-- Wherever it is called from, cancelling is decisive for a timer unless a tick has taken it off
the agenda and not started it yet. -/
theorem cancel_kept {between : Bool} {w : World σ} (session : Session Rule.free between w) :
    CancelsKept between w.journal ∧
      ∀ (i : Nat) (found : Bool) (before after : World σ), cancel i before = (.ok found, after) →
        after.journal = .timerCancelled i found :: before.journal := by
  obtain ⟨-, fs, reached, came⟩ := session.reached Rule.free_open
  have decided := reached.decided
  refine ⟨⟨decided.cancels, ?_, ?_⟩, ?_⟩
  · intro later i found earlier d journal armed unstarted ran
    by_contra reached
    exact decided.never_starts journal armed unstarted reached ran
  · intro ended later i found earlier journal waits
    have rests : waiting w.journal = [] := by
      rw [decided.held.waiting, came ended]
      rfl
    have since : i ∈ waiting w.journal ∨ i ∈ started w.journal := by
      rw [journal, List.append_cons]
      exact waiting_since (show i ∈ waiting (.timerCancelled i found :: earlier) from waits)
    rw [rests] at since
    exact since.resolve_left (List.not_mem_nil)
  · intro i found before after ran
    cases ran
    rfl

/-- Two timers are due in one tick, and the first cancels the other and a third, which is due
later. -/
def standoff : Program Unit :=
  .once (.ofSeconds 1) (.request (.cancel 1) fun _ => .request (.cancel 2) fun _ => .done true)
    fun _ => .once (.ofSeconds 1) (.done true)
      fun _ => .once (.ofSeconds 2) (.done true)
        fun _ => .request (.setClock ⟨1000000000⟩) fun _ => .request .tick
          fun _ => .request (.setClock ⟨2000000000⟩) fun _ => .perform .tick

def standoffWorld : World Unit := (run 3 standoff (.start ⟨0⟩ [] ())).2

theorem standoff_session : Session Rule.free true standoffWorld :=
  .run_ended (.start ⟨0⟩ [] ()) standoff.within_free (by decide +kernel)

theorem cancel_kept_standoff :
    Session Rule.free true standoffWorld ∧ started standoffWorld.journal = [1, 0] ∧
      cancelled standoffWorld.journal = [2] ∧ CancelsKept true standoffWorld.journal :=
  ⟨standoff_session, by decide +kernel, by decide +kernel, (cancel_kept standoff_session).1⟩

/-- The call that cancels the waiting timer does not find it, and the timer starts. -/
theorem standoff_misses_waiting :
    Session Rule.free true standoffWorld ∧ ¬ Everywhere CancelsUnstarted standoffWorld.journal ∧
      1 ∈ started standoffWorld.journal :=
  ⟨standoff_session, by decide +kernel, by decide +kernel⟩

end Reflex
