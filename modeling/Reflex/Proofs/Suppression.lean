import Reflex.Proofs.Evolution

/-! How long scenarios stay quiet. The end of suppression is moved when a pass ends in which
a callback ran, and then by the clock as it is at that moment; no other pass, and nothing
that passes do, moves it. -/
namespace Reflex
open Act Engine Evaluation

variable {σ : Type}

namespace Scenario

/-- For how long passes keep the scenario quiet, and until when it is. -/
def quiet (s : Scenario σ) : Option Span × Option Instant := (s.suppressFor, s.suppressedUntil)

/-- Until when the scenario is quiet after an assert of it that ended at an instant. -/
def quietAfter (s : Scenario σ) (now : Instant) : Except Interrupt Nat → Option Instant
  | .ok (_ + 1) => (s.suppressFor.map now.add).or s.suppressedUntil
  | _ => s.suppressedUntil

theorem quietAfter_unfruitful (s : Scenario σ) (now : Instant) {outcome : Except Interrupt Nat}
    (none : ∀ ran, outcome = .ok ran → ran = 0) :
    s.quietAfter now outcome = s.suppressedUntil := by
  match outcome with
  | .ok 0 | .error _ => rfl
  | .ok (n + 1) => cases none _ rfl

theorem quietAfter_fruitful (s : Scenario σ) (now : Instant) {ran : Nat} (fruitful : 0 < ran) :
    s.quietAfter now (.ok ran) = (s.suppressFor.map now.add).or s.suppressedUntil := by
  cases ran with
  | zero => cases fruitful
  | succ n => rfl

end Scenario

/-- A pass over the scenario ends in which a callback ran. -/
def Mark.fruitful (id : Nat) : Mark → Bool
  | passEnded n (some ran) => n == id && decide (0 < ran)
  | _ => false

namespace Mark

theorem fruitful_iff {id : Nat} {m : Mark} :
    m.fruitful id = true ↔ ∃ ran, 0 < ran ∧ m = .passEnded id (some ran) := by
  constructor
  · intro fruitful
    cases m with
    | passEnded n ran =>
      cases ran with
      | none => cases fruitful
      | some ran =>
        obtain ⟨same, positive⟩ := Bool.and_eq_true_iff.mp fruitful
        obtain rfl := eq_of_beq same
        exact ⟨ran, of_decide_eq_true positive, rfl⟩
    | _ => cases fruitful
  · rintro ⟨ran, positive, rfl⟩
    simp [fruitful, positive]

theorem fruitful_of_passless {id : Nat} {m : Mark} (none : m.isPass = false) :
    m.fruitful id = false := by
  cases m <;> first | rfl | cases none

/-- Of marks in a row, none is of such a pass. -/
theorem unfruitful_iff {id : Nat} {later : List Mark} :
    (∀ m ∈ later, m.fruitful id = false) ↔
      ∀ ran, 0 < ran → .passEnded id (some ran) ∉ later := by
  constructor
  · intro none ran positive member
    have fruitful : (passEnded id (some ran)).fruitful id = true :=
      fruitful_iff.mpr ⟨ran, positive, rfl⟩
    rw [none _ member] at fruitful
    cases fruitful
  · intro none m member
    rw [Bool.eq_false_iff]
    intro fruitful
    obtain ⟨ran, positive, rfl⟩ := fruitful_iff.mp fruitful
    exact none ran positive member

end Mark

/-! The end of a pass. -/

theorem Evaluation.closed_at {id : Nat} {w : World σ} {s : Scenario σ}
    (found : w.scenarios[id]? = some s) (outcome : Except Interrupt Nat) :
    ∃ t, (closed id outcome w).scenarios[id]? = some t ∧ t.suppressFor = s.suppressFor ∧
      t.suppressedUntil = s.quietAfter w.clock outcome := by
  have released : (released id w).scenarios[id]? = some { s with evaluating := false } := by
    rw [Evaluation.released, World.getElem?_modifyScenario, found, Option.map_some, if_pos rfl]
  match outcome with
  | .error (.failed _) => exact ⟨_, released, rfl, rfl⟩
  | .error .exhausted => exact ⟨s, found, rfl, rfl⟩
  | .ok n =>
    change ∃ t, (suppressed id n (Evaluation.released id w)).scenarios[id]? = some t ∧ _
    rw [suppressed, World.getElem?_modifyScenario, released, Option.map_some, if_pos rfl]
    refine ⟨_, rfl, ?_⟩
    dsimp only
    cases window : s.suppressFor with
    | none => cases n <;> simp [Scenario.quietAfter, window]
    | some d => cases n <;> simp [Scenario.quietAfter, window, Evaluation.released,
        World.modifyScenario]

theorem Evaluation.closed_clock (id : Nat) (outcome : Except Interrupt Nat) (w : World σ) :
    (closed id outcome w).clock = w.clock := by
  match outcome with
  | .ok _ => rfl
  | .error (.failed _) => rfl
  | .error .exhausted => rfl

section Asserting

variable {rule : Rule} {id depth : Nat} {payload : Option Value} {w next : World σ}
  {s : Scenario σ} {outcome : Except Interrupt Nat}

/-- Whatever code an assert runs, it moves the end of suppression only by its own result. -/
theorem Engine.assert_quiet (allowed : rule.Open) (lodges : w.Lodges rule)
    (found : w.scenarios[id]? = some s)
    (ran : assert (exec depth) id payload w = (outcome, next)) :
    ∃ t, next.scenarios[id]? = some t ∧ t.suppressFor = s.suppressFor ∧
      t.suppressedUntil = s.quietAfter next.clock outcome := by
  rcases assert_cases (exec depth) payload found with still | reentered | ⟨admits, passed⟩
  · obtain ⟨rfl, rfl⟩ := Prod.mk.inj (still.symm.trans ran)
    exact ⟨s, found, rfl, rfl⟩
  · obtain ⟨rfl, rfl⟩ := Prod.mk.inj (reentered.symm.trans ran)
    exact ⟨s, found, rfl, rfl⟩
  · rcases answered : visit (exec depth) id s.description payload 0 ⟨0, 0⟩ s.entries (begun id w)
      with ⟨answer, last⟩
    have visited := visit_upheld (attending_entire rule).law allowed
      (exec_entire (attending_entire rule) allowed depth) id s.description payload 0 ⟨0, 0⟩
      s.entries (lodges.entries s (List.mem_of_getElem? found)) (lodges.begun id)
    -- The scenario is in its pass during the visits, so no nested assert makes another.
    obtain ⟨u, there, pace⟩ := (visited.after_run answered).2 id _ (begun_at found) rfl
    have window : u.suppressFor = s.suppressFor := congrArg (fun x => x.2.1) pace
    have limit : u.suppressedUntil = s.suppressedUntil := congrArg (fun x => x.2.2) pace
    obtain ⟨rfl, rfl⟩ := Prod.mk.inj ((runPass_closed answered).symm.trans (passed.symm.trans ran))
    obtain ⟨t, here, same, after⟩ := closed_at there (answer.map Tally.ran)
    rw [← closed_clock id (answer.map Tally.ran) last] at after
    have alike : u.quietAfter = s.quietAfter := by
      funext now outcome
      simp only [Scenario.quietAfter, window, limit]
    exact ⟨t, here, same.trans window, after.trans (by rw [alike])⟩

end Asserting

namespace World

/-- The steps as far as one scenario's suppression goes. -/
inductive Tempers (id : Nat) : World σ → World σ → Prop
  | calm {w w' : World σ} :
      (∀ s, w.scenarios[id]? = some s → ∃ s', w'.scenarios[id]? = some s' ∧ s'.quiet = s.quiet) →
      (∀ s', w'.scenarios[id]? = some s' → s'.suppressedUntil = none ∨
        ∃ s, w.scenarios[id]? = some s ∧ s.quiet = s'.quiet) →
      w.Without (Mark.fruitful id) w' → Tempers id w w'
  | conclude {w : World σ} {s : Scenario σ} {ran : Nat} : w.scenarios[id]? = some s → 0 < ran →
      Tempers id w (concluded id ran w)

variable {rule : Rule} {w w' : World σ}

theorem Tempers.still {id : Nat}
    (same : (w'.scenarios[id]?).map Scenario.quiet = (w.scenarios[id]?).map Scenario.quiet)
    (quiet : w.Without (Mark.fruitful id) w') : w.Tempers id w' := by
  apply calm
  · intro s found
    rw [found] at same
    exact Option.map_eq_some_iff.mp same
  · intro s' known
    rw [known] at same
    exact .inr (Option.map_eq_some_iff.mp same.symm)
  · exact quiet

theorem Alters.tempers (alters : w.Alters rule w') (id : Nat) : w.Tempers id w' := by
  have quiet : w.Without (Mark.fruitful id) w' :=
    alters.touches.passless.mono fun _ => Mark.fruitful_of_passless
  obtain ⟨new, paces, fresh⟩ := alters.touches.paces
  have same := congrArg (·[id]?) paces
  simp only [List.getElem?_map, List.getElem?_append, List.length_map] at same
  by_cases within : id < w.scenarios.length
  · rw [if_pos within] at same
    have quiets := congrArg (Option.map Prod.snd) same
    rw [Option.map_map, Option.map_map] at quiets
    exact .still quiets quiet
  · rw [if_neg within] at same
    apply Tempers.calm
    · intro s found
      exact absurd (List.getElem?_eq_some_iff.mp found).1 within
    · intro s' known
      rw [known, Option.map_some] at same
      exact .inl (fresh _ (List.mem_of_getElem? same.symm)).2
    · exact quiet

theorem Evolves.tempers (step : w.Evolves rule w') (id : Nat) : w.Tempers id w' := by
  have elsewhere : ∀ {scenarios : List (Scenario σ)},
      scenarios.map Scenario.quiet = w.scenarios.map Scenario.quiet →
      (scenarios[id]?).map Scenario.quiet = (w.scenarios[id]?).map Scenario.quiet := by
    intro scenarios same
    have quiets := congrArg (·[id]?) same
    simpa only [List.getElem?_map] using quiets
  have released : ∀ n, (released n w).scenarios.map Scenario.quiet =
      w.scenarios.map Scenario.quiet := fun n => modifyScenario_map _ w n fun _ => rfl
  cases step with
  | alter alters => exact alters.tempers id
  | begin => exact .still (elsewhere (modifyScenario_map _ w _ fun _ => rfl)) (.marked _ rfl)
  | stop => exact .still (elsewhere (released _)) (.marked _ rfl)
  | @conclude n ran s found =>
    by_cases same : n = id
    · subst same
      cases ran with
      | succ k => exact .conclude found (Nat.succ_pos k)
      | zero =>
        apply Tempers.still
        · apply elsewhere
          refine Eq.trans (modifyScenario_map _ _ n fun t => ?_) (released n)
          cases t.suppressFor <;> rfl
        · exact .marked _ (by simp [Mark.fruitful])
    · apply Tempers.still
      · rw [← closed_other same (.ok ran) w]
        rfl
      · exact .marked _ (by simp [Mark.fruitful, same])

/-- A scenario stays as quiet as it is unless a callback runs in a pass over it. -/
theorem Leads.quiet {start : World σ} {id : Nat} {t : Scenario σ} (leads : start.Leads rule w)
    (found : start.scenarios[id]? = some t) :
    ∃ later, w.journal = later ++ start.journal ∧ ((∀ m ∈ later, m.fruitful id = false) →
      ∃ s, w.scenarios[id]? = some s ∧ s.quiet = t.quiet) := by
  induction leads with
  | refl => exact ⟨[], rfl, fun _ => ⟨t, found, rfl⟩⟩
  | build _ _ ih => exact ih
  | code _ step ih =>
    obtain ⟨later, journal, stays⟩ := ih
    cases step.tempers id with
    | calm keeps _ quiet =>
      obtain ⟨marks, extended, -⟩ := quiet
      refine ⟨marks ++ later, by rw [extended, journal, List.append_assoc], ?_⟩
      intro none
      obtain ⟨s, here, quiet⟩ := stays (List.forall_mem_append.mp none).2
      obtain ⟨s', known, alike⟩ := keeps s here
      exact ⟨s', known, alike.trans quiet⟩
    | @conclude s ran _ positive =>
      refine ⟨.passEnded id (some ran) :: later, congrArg (List.cons _) journal, ?_⟩
      intro none
      have fruitless := none _ (.head _)
      rw [Mark.fruitful_iff.mpr ⟨ran, positive, rfl⟩] at fruitless
      cases fruitless

/-- No callback has run in a pass over the scenario, and it was never suppressed. -/
def Unsuppressed (id : Nat) (w : World σ) : Prop :=
  (∀ m ∈ w.journal, m.fruitful id = false) ∧
    ∀ s, w.scenarios[id]? = some s → s.suppressedUntil = none

/-- In the world `last` the last pass over the scenario came to its end in which callbacks
ran, `ran` of them, and its suppression lasts from then. -/
structure SuppressedSince (rule : Rule) (id : Nat) (last : World σ) (ran : Nat) (w : World σ) :
    Prop where
  arises : last.Arises rule
  fruitful : 0 < ran
  leads : (concluded id ran last).Leads rule w
  quiet : (concluded id ran last).Without (Mark.fruitful id) w
  limit : ∃ s, w.scenarios[id]? = some s ∧ s.suppressedUntil = s.suppressFor.map last.clock.add

/-- Either of the two. -/
def Quieted (rule : Rule) (id : Nat) (w : World σ) : Prop :=
  w.Unsuppressed id ∨ ∃ last ran, SuppressedSince rule id last ran w

/-- Without a window there is no suppression. -/
theorem Quieted.windowless {id : Nat} {s : Scenario σ} (quieted : w.Quieted rule id)
    (found : w.scenarios[id]? = some s) (windowless : s.suppressFor = none) :
    s.suppressedUntil = none := by
  rcases quieted with unsuppressed | ⟨last, ran, since⟩
  · exact unsuppressed.2 s found
  · obtain ⟨t, known, limit⟩ := since.limit
    obtain rfl := Option.some.inj (known.symm.trans found)
    rw [limit, windowless]
    rfl

/-- After a pass in which callbacks ran, only the window counts. -/
theorem Quieted.limit {id : Nat} {s t : Scenario σ} (quieted : w.Quieted rule id)
    (found : w.scenarios[id]? = some s) {now : Instant} (window : t.suppressFor = s.suppressFor)
    (after : t.suppressedUntil = (s.suppressFor.map now.add).or s.suppressedUntil) :
    t.suppressedUntil = t.suppressFor.map now.add := by
  rw [after, window]
  cases known : s.suppressFor with
  | none => exact quieted.windowless found known
  | some d => rfl

theorem Quieted.step {id : Nat} (arises : w.Arises rule) (quieted : w.Quieted rule id)
    (step : w.Evolves rule w') : w'.Quieted rule id := by
  cases step.tempers id with
  | calm keeps comes quiet =>
    rcases quieted with ⟨none, unset⟩ | ⟨last, ran, since⟩
    · left
      constructor
      · obtain ⟨marks, extended, fruitless⟩ := quiet
        rw [extended]
        exact List.forall_mem_append.mpr ⟨fruitless, none⟩
      · intro s' known
        rcases comes s' known with unset' | ⟨s, found, alike⟩
        · exact unset'
        · exact (congrArg Prod.snd alike).symm.trans (unset s found)
    · obtain ⟨s, found, limit⟩ := since.limit
      obtain ⟨s', known, alike⟩ := keeps s found
      have window : s'.suppressFor = s.suppressFor := congrArg Prod.fst alike
      right
      exact ⟨last, ran, since.arises, since.fruitful, since.leads.code step,
        since.quiet.trans quiet, s', known, (congrArg Prod.snd alike).trans (window ▸ limit)⟩
  | @conclude s ran found fruitful =>
    obtain ⟨t, known, window, after⟩ := closed_at found (.ok ran)
    rw [s.quietAfter_fruitful _ fruitful] at after
    right
    exact ⟨w, ran, arises, fruitful, .refl, .of_same rfl, t, known,
      quieted.limit found window after⟩

theorem Arises.quieted (arises : w.Arises rule) (id : Nat) : w.Quieted rule id := by
  apply arises.invariant
  · intro clock devices memory
    left
    constructor
    · exact fun _ none => nomatch none
    · exact fun _ none => nomatch none
  · exact fun arises quieted step => quieted.step arises step
  · intro w components kept quieted
    rcases quieted with unsuppressed | ⟨last, ran, since⟩
    · exact .inl unsuppressed
    · right
      exact ⟨last, ran, since.arises, since.fruitful, since.leads.build kept,
        since.quiet.trans (.of_same rfl), since.limit⟩

end World

/-- A reading with which a pass ends, later by the window, at most the latest. -/
def Scenario.quietFrom (s : Scenario σ) (now : Instant) : Option Instant :=
  s.suppressFor.map fun window => ⟨min (now.nanos + window.nanos) Instant.latest.nanos⟩

theorem Scenario.quietFrom_eq (s : Scenario σ) (now : Instant) :
    s.quietFrom now = s.suppressFor.map now.add :=
  congrArg (Option.map · s.suppressFor) (funext fun d => (now.add_eq d).symm)

/-- What holds of a scenario and its suppression at a moment of a history. -/
structure SuppressionKept (id : Nat) (s : Scenario σ) (w : World σ) : Prop where
  never : (∀ ran, 0 < ran → .passEnded id (some ran) ∉ w.journal) → s.suppressedUntil = none
  since : ∀ ran, 0 < ran → .passEnded id (some ran) ∈ w.journal →
    ∃ last ran later, 0 < ran ∧ last.Arises Rule.free ∧
      (concluded id ran last).Leads Rule.free w ∧
      w.journal = later ++ .passEnded id (some ran) :: last.journal ∧
      (∀ n, 0 < n → .passEnded id (some n) ∉ later) ∧
      s.suppressedUntil = s.quietFrom last.clock
  last : ∀ start depth payload ran finish later, start.Arises Rule.free →
    assert (exec depth) id payload start = (.ok ran, finish) → 0 < ran →
    finish.Leads Rule.free w → w.journal = later ++ finish.journal →
    (∀ n, 0 < n → .passEnded id (some n) ∉ later) →
    s.suppressedUntil = s.quietFrom finish.clock
  held : ∀ limit, s.suppressedUntil = some limit → w.clock < limit →
    ∀ call payload, assert call id payload w = (.ok 0, w)
  free : (∀ limit, s.suppressedUntil = some limit → limit ≤ w.clock) → s.runnable = true →
    s.evaluating = false → ∀ call payload,
    PassOf call id payload s w (assert call id payload w)
  unmoved : ∀ depth payload outcome next,
    assert (exec depth) id payload w = (outcome, next) → (∀ ran, outcome = .ok ran → ran = 0) →
    ∃ t, next.scenarios[id]? = some t ∧ t.suppressedUntil = s.suppressedUntil

/-- Every assert of the scenario at every moment of every history goes by the last pass in
which callbacks ran. -/
theorem suppression_kept {id : Nat} {s : Scenario σ} {w : World σ} (arises : w.Arises Rule.free)
    (found : w.scenarios[id]? = some s) : SuppressionKept id s w := by
  have allowed := Rule.free_open
  constructor
  · intro none
    rcases arises.quieted id with unsuppressed | ⟨last, ran, since⟩
    · exact unsuppressed.2 s found
    · obtain ⟨later, journal, -⟩ := since.quiet
      refine absurd ?_ (none ran since.fruitful)
      rw [journal]
      exact List.mem_append_right _ (.head _)
  · intro ran positive member
    rcases arises.quieted id with unsuppressed | ⟨last, ran, since⟩
    · exact absurd member (Mark.unfruitful_iff.mp unsuppressed.1 ran positive)
    · obtain ⟨later, journal, quiet⟩ := since.quiet
      obtain ⟨t, known, limit⟩ := since.limit
      obtain rfl := Option.some.inj (known.symm.trans found)
      exact ⟨last, ran, later, since.fruitful, since.arises, since.leads, journal,
        Mark.unfruitful_iff.mp quiet, limit.trans (t.quietFrom_eq _).symm⟩
  · intro start depth payload ran finish later before asserted fruitful leads journal none
    cases known : start.scenarios[id]? with
    | none => cases (assert_missing (exec depth) id payload known).symm.trans asserted
    | some t =>
      obtain ⟨u, there, window, after⟩ := assert_quiet allowed before.lodges known asserted
      rw [t.quietAfter_fruitful _ fruitful] at after
      have limit := (before.quieted id).limit known window after
      obtain ⟨others, extended, stays⟩ := leads.quiet there
      obtain rfl := List.append_cancel_right (journal.symm.trans extended)
      obtain ⟨s', here, quiet⟩ := stays (Mark.unfruitful_iff.mpr none)
      obtain rfl := Option.some.inj (here.symm.trans found)
      have same : s'.suppressFor = u.suppressFor := congrArg Prod.fst quiet
      rw [s'.quietFrom_eq, same, ← limit]
      exact congrArg Prod.snd quiet
  · intro limit ends early call payload
    apply assert_suppressed call id payload found
    rw [Scenario.suppressedAt, ends]
    simp [early]
  · intro past runnable idle call payload
    refine assert_pass call id payload found runnable ?_ idle
    rw [Scenario.suppressedAt, Option.filter_eq_none_iff]
    intro limit ends
    have late : ¬ w.clock < limit := Int.not_lt.mpr (past limit ends)
    simpa using late
  · intro depth payload outcome next asserted unfruitful
    obtain ⟨t, there, -, after⟩ := assert_quiet allowed arises.lodges found asserted
    exact ⟨t, there, after.trans (s.quietAfter_unfruitful _ unfruitful)⟩

/-- The callback moves the clock by five seconds and asserts its own scenario; later it
fails. The scenario is asserted three times, the second time while it is quiet. -/
def siren : Program Unit :=
  .request (.createScenario "siren" ⟨some (.ofSeconds 10), false⟩) fun _ =>
    .fallback 0 (fun _ => .look fun v =>
      if v.now = ⟨0⟩ then
        .request (.setClock ⟨5000000000⟩) fun _ => .perform (.assert 0 none)
      else .fail .dropped) <|
      .request (.assert 0 none) fun _ => .request (.setClock ⟨14999999999⟩) fun _ =>
        .request (.assert 0 none) fun _ => .request (.setClock ⟨15000000000⟩) fun _ =>
          .perform (.assert 0 none)

def sirenWorld : World Unit := (run 4 siren ((World.start ⟨0⟩ [] ()).completed [])).2

theorem siren_arises : sirenWorld.Arises Rule.free := by
  have built : ((World.start ⟨0⟩ [] ()).completed [] : World Unit).Arises Rule.free :=
    ⟨⟨0⟩, [], (), .build .refl fun _ none => nomatch none⟩
  exact built.leads (run_becomes Rule.free_open siren.within_free built.lodges rfl).leads

theorem suppression_kept_siren :
    sirenWorld.Arises Rule.free ∧ sirenWorld.clock = ⟨15000000000⟩ ∧
      sirenWorld.journal.countP (·.fruitful 0) = 1 ∧
      ∃ s, sirenWorld.scenarios[0]? = some s ∧
        s.quiet = (some (.ofSeconds 10), some ⟨15000000000⟩) ∧ SuppressionKept 0 s sirenWorld := by
  have quiet : (sirenWorld.scenarios[0]?).map Scenario.quiet =
      some (some (.ofSeconds 10), some ⟨15000000000⟩) := by decide +kernel
  obtain ⟨s, found, same⟩ := Option.map_eq_some_iff.mp quiet
  exact ⟨siren_arises, by decide +kernel, by decide +kernel, s, found, same,
    suppression_kept siren_arises found⟩

end Reflex
