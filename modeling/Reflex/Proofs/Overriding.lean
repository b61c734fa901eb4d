import Reflex.Proofs.Lifetimes

/-! A write and the waiting timer of an older one. The timer is out of reach of the write
that replaces it, so it resets a variable that is no longer its own; nothing else makes a
variable lose its latest value. -/
namespace Reflex
open History Engine

variable {σ : Type}

namespace History

/-- The timer of an older write waited when the latest write of a variable was made. -/
def Trapped (name : String) (timer : Nat) (J : History) : Prop :=
  ∃ since x earlier, J = since ++ .written x :: earlier ∧ x.name = name ∧
    (∀ y ∈ writes since, y.name ≠ name) ∧ timer ∈ waiting earlier ∧
    ∃ y ∈ writes earlier, y.name = name ∧ y.timer = some timer

/-- The timer of an older write has reset what the latest write stored. -/
def Overridden (name : String) (J : History) : Prop :=
  ∃ later timer earlier, J = later ++ .expired name :: .timerStarted timer :: earlier ∧
    Trapped name timer earlier

variable {name : String} {timer : Nat} {J : History}

theorem Trapped.extend (trapped : Trapped name timer J) (later : History)
    (others : ∀ y ∈ writes later, y.name ≠ name) : Trapped name timer (later ++ J) := by
  obtain ⟨since, x, earlier, rfl, named, silent, rest⟩ := trapped
  refine ⟨later ++ since, x, earlier, (List.append_assoc ..).symm, named, ?_, rest⟩
  intro y member
  rw [writes, List.filterMap_append] at member
  exact (List.mem_append.mp member).elim (others y) (silent y)

/-- The write that the timer belongs to. -/
theorem Trapped.owner (trapped : Trapped name timer J) :
    ∃ y ∈ writes J, y.name = name ∧ y.timer = some timer := by
  obtain ⟨since, x, earlier, rfl, -, -, -, y, written, owner⟩ := trapped
  exact ⟨y, filterMap_behind written, owner⟩

theorem Trapped.disturbed (trapped : Trapped name timer J) : ¬ Undisturbed name J := by
  obtain ⟨since, x, earlier, rfl, named, -, waits, y, written, older, owner⟩ := trapped
  intro undisturbed
  exact undisturbed.split named y written older timer owner waits

theorem Overridden.extend (overridden : Overridden name J) (later : History) :
    Overridden name (later ++ J) := by
  obtain ⟨after, timer, earlier, rfl, trapped⟩ := overridden
  exact ⟨later ++ after, timer, earlier, (List.append_assoc ..).symm, trapped⟩

theorem Overridden.disturbed (overridden : Overridden name J) : ¬ Undisturbed name J := by
  obtain ⟨after, timer, earlier, rfl, trapped⟩ := overridden
  intro undisturbed
  exact trapped.disturbed undisturbed.before.tail.tail

end History

/-- What becomes of a variable: if a write ever met the waiting timer of an older one, the
timer waits still, or is about to reset the variable, or has done so. -/
inductive Fate (name : String) (m : Moment σ) : Prop
  | undisturbed : Undisturbed name m.world.journal → Fate name m
  | waits (timer : Nat) : Trapped name timer m.world.journal → timer ∈ waiting m.world.journal →
      Fate name m
  | ends (timer : Nat) (earlier : History) (rest : Frames σ) :
      m.world.journal = .timerStarted timer :: earlier → Trapped name timer earlier →
      m.frames = .lapse name (some timer) :: rest → Fate name m
  | overridden : Overridden name m.world.journal → Fate name m

namespace Fate

variable {name : String} {m m' : Moment σ}

theorem extend (fate : Fate name m) (later : History)
    (journal : m'.world.journal = later ++ m.world.journal)
    (silent : ∀ k ∈ later, ∀ x, k ≠ .written x)
    (code : ∀ timer rest, m.frames ≠ .lapse name timer :: rest)
    (waits : ∀ timer, Trapped name timer m.world.journal → timer ∈ waiting m.world.journal →
      timer ∈ waiting m'.world.journal) : Fate name m' := by
  cases fate with
  | undisturbed undisturbed =>
    refine .undisturbed ?_
    rw [journal]
    refine undisturbed.append ?_
    intro k member J
    cases k with
    | written x => exact absurd rfl (silent _ member x)
    | _ => trivial
  | waits timer trapped still =>
    refine .waits timer ?_ (waits timer trapped still)
    rw [journal]
    refine trapped.extend later ?_
    intro y written
    obtain ⟨before, after, rfl⟩ := written_of_mem written
    exact absurd rfl (silent _ (List.mem_append_right _ (.head _)) y)
  | ends timer earlier rest _ _ frames => exact absurd frames (code _ _)
  | overridden overridden =>
    refine .overridden ?_
    rw [journal]
    exact overridden.extend _

theorem still (fate : Fate name m) (still : m.Still m') : Fate name m' := by
  obtain ⟨before, after, ⟨later, journal, remote⟩, -⟩ := still
  refine fate.extend later journal ?_ (fun _ _ => before.not_lapse) ?_
  · intro k member x same
    subst same
    cases remote _ member
  · intro timer _ waits
    rw [journal]
    exact waiting_remote remote waits

theorem write {w w' : World σ} {fs : Frames σ} {x : Write} (fate : Fate name ⟨w, fs⟩)
    (ready : fs.Open) (wrote : Wrote w x w') : Fate name ⟨w', fs⟩ := by
  obtain ⟨marks, journal, arming, -, -⟩ := wrote.journal
  have silent : writes (.written x :: marks) = [x] := by
    have none := writes_arming (J := []) arming
    rw [List.append_nil] at none
    exact congrArg _ none
  -- A timer of the variable that waits when it is written is trapped from then on.
  have trap : ∀ {timer}, x.name = name → timer ∈ waiting w.journal →
      (∃ y ∈ writes w.journal, y.name = name ∧ y.timer = some timer) → Fate name ⟨w', fs⟩ := by
    rintro timer named waits ⟨y, written, owner⟩
    refine .waits timer ⟨[], x, marks ++ w.journal, journal, named, by simp [writes], ?_, y, ?_,
      owner⟩ (wrote.waiting_now ▸ waits)
    · rwa [waiting_arming arming]
    · rwa [writes_arming arming]
  cases fate with
  | undisturbed undisturbed =>
    by_cases settled : x.name = name → Settled name w.journal
    · refine .undisturbed ?_
      rw [journal]
      refine .cons ?_ (undisturbed.append ?_)
      · intro named
        exact (settled_arming arming).mpr (settled named)
      · intro k member J
        have first := arming k member
        cases k <;> trivial
    · simp only [Settled, not_forall, not_not] at settled
      obtain ⟨named, y, written, older, timer, owner, waits⟩ := settled
      exact trap named waits ⟨y, written, older, owner⟩
  | waits timer trapped waits =>
    by_cases named : x.name = name
    · exact trap named waits trapped.owner
    · refine .waits timer ?_ (wrote.waiting_now ▸ waits)
      rw [journal, ← List.cons_append]
      refine trapped.extend _ ?_
      rw [silent]
      simpa using named
  | ends timer earlier rest _ _ frames => exact absurd frames ready.not_lapse
  | overridden overridden =>
    refine .overridden ?_
    rw [journal, ← List.cons_append]
    exact overridden.extend _

theorem fire {w : World σ} {fs : Frames σ} {k : Ticking σ} {z : Timer (Reaction σ)}
    {rest : List (Timer (Reaction σ))} (fate : Fate name ⟨w, .tick k :: fs⟩)
    (booked : Booked ⟨w, .tick k :: fs⟩) (batch : k.batch = z :: rest)
    (plain : z.task ≠ .expiry name) {frames : Frames σ} :
    Fate name ⟨w.marked (.timerStarted z.id), frames⟩ := by
  refine fate.extend [.timerStarted z.id] rfl (by simp) (fun _ _ same => nomatch same) ?_
  intro timer trapped waits
  refine (List.mem_erase_of_ne ?_).mpr waits
  rintro rfl
  obtain ⟨y, written, rfl, owner⟩ := trapped.owner
  exact plain (booked.task y written z (live_first batch) owner)

theorem lapse {w : World σ} {fs : Frames σ} {k : Ticking σ} {z : Timer (Reaction σ)}
    {rest : List (Timer (Reaction σ))} {other : String} (fate : Fate name ⟨w, .tick k :: fs⟩)
    (booked : Booked ⟨w, .tick k :: fs⟩) (batch : k.batch = z :: rest)
    (task : z.task = .expiry other) :
    Fate name ⟨w.marked (.timerStarted z.id),
      .lapse other (some z.id) :: .tick { k with batch := rest } :: fs⟩ := by
  by_cases trapped : Trapped name z.id w.journal
  · obtain ⟨y, written, rfl, owner⟩ := trapped.owner
    have own : z.task = .expiry y.name := booked.task y written z (live_first batch) owner
    obtain rfl : other = y.name := by
      rw [task] at own
      exact Reaction.expiry.inj own
    exact .ends z.id w.journal _ rfl trapped rfl
  · refine fate.extend [.timerStarted z.id] rfl (by simp) (fun _ _ same => nomatch same) ?_
    intro timer also waits
    refine (List.mem_erase_of_ne ?_).mpr waits
    rintro rfl
    exact trapped also

theorem expire {w : World σ} {fs : Frames σ} {other : String} {timer : Option Nat}
    (fate : Fate name ⟨w, .lapse other timer :: fs⟩) : Fate name ⟨w.expiring other, fs⟩ := by
  cases fate with
  | undisturbed undisturbed => exact .undisturbed (.cons trivial undisturbed)
  | waits timer trapped waits =>
    exact .waits timer (trapped.extend [.expired other] (by simp [writes])) waits
  | ends timer earlier rest journal trapped frames =>
    cases frames
    exact .overridden ⟨[], timer, earlier, congrArg _ journal, trapped⟩
  | overridden overridden => exact .overridden (overridden.extend [.expired other])

theorem keep (fate : Fate name m) (booked : Booked m) (keeping : Keeping m m') : Fate name m' := by
  cases keeping with
  | still still => exact fate.still still
  | arm ready plain =>
    exact fate.extend [_] rfl (by simp) (fun _ _ => ready.not_lapse) fun _ _ waits => waits
  | write ready wrote => exact fate.write ready wrote
  | fire batch plain => exact fate.fire booked batch (plain name)
  | lapse batch task => exact fate.lapse booked batch task
  | expire ready =>
    rw [(booked.expiring ready).1]
    exact fate.expire

end Fate

theorem Reached.fate (name : String) {m : Moment σ} (reached : Reached Rule.storing m) :
    Fate name m :=
  reached.invariant (P := Fate name) (fun _ _ _ => .undisturbed .nil)
    fun before fate step => fate.keep before.booked (step.keeping before.proper)

/-- Between runs no timer waits, so a variable was disturbed only if it was overridden. -/
theorem Fate.undisturbed_iff {name : String} {w : World σ} (fate : Fate name ⟨w, []⟩)
    (held : Held w []) : Undisturbed name w.journal ↔ ¬ Overridden name w.journal := by
  refine ⟨fun undisturbed overridden => overridden.disturbed undisturbed, ?_⟩
  intro free
  cases fate with
  | undisturbed undisturbed => exact undisturbed
  | waits timer _ waits =>
    rw [held.waiting] at waits
    cases waits
  | ends _ _ _ _ _ frames => cases frames
  | overridden overridden => exact absurd overridden free

/-- Whatever writes variables, and from wherever: the latest write of a variable and its
lifetime rule, unless the timer of an older write waited in a batch when a newer one was
made. That timer resets what the newer write stored. -/
theorem last_write_wins {between : Bool} {w : World σ} (session : Session Rule.storing between w)
    (flat : Flat w.journal) (forward : Forward w.journal) (name : String) :
    (Undisturbed name w.journal → LastWriteWins name between w) ∧
      (between = true → (Undisturbed name w.journal ↔ ¬ Overridden name w.journal)) := by
  obtain ⟨-, fs, reached, alone⟩ := session.reached Rule.storing_open
  refine ⟨reached.lastWriteWins alone flat forward, ?_⟩
  intro done
  obtain rfl := alone done
  exact (reached.fate name).undisturbed_iff reached.timely.held

/-- Two lifetimes end in one tick, and when the first has ended the other variable is written
anew, to stay. -/
def clash : Program Unit :=
  .request (.set "a" (.bool true) (some (.ofSeconds 5))) fun _ =>
    .request (.set "b" (.bool true) (some (.ofSeconds 5))) fun _ =>
      .subscribe "variable"
        (fun _ => .request (.unsubscribe 0) fun _ => .perform (.set "b" (.bool false) none))
        fun _ => .request (.setClock ⟨5000000000⟩) fun _ => .perform .tick

def clashWorld : World Unit := (run 3 clash (.start ⟨0⟩ [] ())).2

theorem clash_within : clash.Within Rule.storing := by
  refine ⟨trivial, fun _ => ⟨trivial, fun _ => ⟨fun _ => ⟨trivial, fun _ => ⟨trivial, ?_⟩⟩,
    fun _ => ⟨trivial, fun _ => ⟨trivial, ?_⟩⟩⟩⟩⟩ <;>
  · intro answer
    cases answer <;> trivial

theorem clash_session : Session Rule.storing true clashWorld :=
  .run_ended (.start ⟨0⟩ [] ()) clash_within (by decide +kernel)

theorem clash_flat : Flat clashWorld.journal := by decide +kernel

theorem clash_forward : Forward clashWorld.journal := by decide +kernel

theorem last_write_wins_clash :
    Session Rule.storing true clashWorld ∧ Flat clashWorld.journal ∧ Forward clashWorld.journal ∧
      LastWriteWins "a" true clashWorld ∧ Overridden "b" clashWorld.journal := by
  have undisturbed : Undisturbed "a" clashWorld.journal := by decide +kernel
  have disturbed : ¬ Undisturbed "b" clashWorld.journal := by decide +kernel
  refine ⟨clash_session, clash_flat, clash_forward,
    (last_write_wins clash_session clash_flat clash_forward "a").1 undisturbed, ?_⟩
  by_contra free
  exact disturbed
    (((last_write_wins clash_session clash_flat clash_forward "b").2 rfl).mpr free)

/-- The write that stays is lost. -/
theorem clash_loses_write :
    Session Rule.storing true clashWorld ∧ Flat clashWorld.journal ∧ Forward clashWorld.journal ∧
      ∃ x, latest? "b" clashWorld.journal = some x ∧ x.lifetime = none ∧
        clashWorld.value "b" ≠ x.value := by
  have stays : (latest? "b" clashWorld.journal).any
      (fun x => x.lifetime.isNone && !x.value.isNull) = true := by decide +kernel
  have lost : (clashWorld.value "b").isNull = true := by decide +kernel
  obtain ⟨x, latest, holds⟩ := (Option.any_eq_true _ _).mp stays
  obtain ⟨lifetime, some⟩ := Bool.and_eq_true_iff.mp holds
  refine ⟨clash_session, clash_flat, clash_forward, x, latest,
    Option.isNone_iff_eq_none.mp lifetime, ?_⟩
  intro same
  rw [← same, lost] at some
  cases some

end Reflex
