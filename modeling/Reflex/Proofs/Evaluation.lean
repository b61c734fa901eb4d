import Reflex.Engine.Run
import Reflex.Proofs.Steps

/-! What one pass over a scenario does, told by its visits to the entries. Whether an
entry runs depends on the visits before it alone, and no visit is told by a counter.
Predicates and callbacks are arbitrary: how code runs is a parameter. -/
namespace Reflex.Evaluation
open Act Engine

variable {σ : Type}

/-- A visit to an entry that did not stop the pass. -/
structure Visit (σ : Type) where
  entry : Entry σ
  before : World σ
  ran : Bool
  after : World σ

/-- A group of at least one predicate matched and its callback ran. -/
def Visit.Matched (v : Visit σ) : Prop :=
  v.ran = true ∧ ∃ p rest, v.entry.group = some (p :: rest)

/-- Visits in a row, from the world before the first to the world after the last. -/
def Linked : World σ → List (Visit σ) → World σ → Prop
  | w, [], last => w = last
  | w, v :: rest, last => v.before = w ∧ Linked v.after rest last

variable (call : Call σ)

/-- All predicates hold, each in the world that the one to its left left. -/
inductive AllTrue : List (Predicate σ) → World σ → World σ → Prop where
  | nil (w : World σ) : AllTrue [] w w
  | cons : call p.program w = (.ok true, next) → AllTrue rest next last →
      AllTrue (p :: rest) w last

/-- The predicates hold up to one that answers otherwise, where evaluation ends. -/
def EndsWith (answer : Except Interrupt Bool) (group : List (Predicate σ)) (w last : World σ) :
    Prop :=
  ∃ front p back next, group = front ++ p :: back ∧ AllTrue call front w next ∧
    call p.program next = (answer, last)

/-- Whether an entry runs after the visits before it, with the world after the decision. -/
inductive Decides (earlier : List (Visit σ)) (e : Entry σ) (w : World σ) :
    Bool → World σ → Prop where
  | fallback : e.group = none → (∀ v ∈ earlier, ¬ v.Matched) → Decides earlier e w true w
  | preempted : e.group = none → v ∈ earlier → v.Matched → Decides earlier e w false w
  | holds : e.group = some group → AllTrue call group w last → Decides earlier e w true last
  | refused : e.group = some group → EndsWith call (.ok false) group w last →
      Decides earlier e w false last

variable (id : Nat) (description : String) (payload : Option Value)

/-- The world in which the callback of a visited entry starts. -/
def entered (earlier : List (Visit σ)) (w : World σ) : World σ :=
  w.marked (.entryRan id earlier.length)

/-- The visit went as declared: its callback succeeded, or it was not to run. -/
def Completed (earlier : List (Visit σ)) (v : Visit σ) : Prop :=
  ∃ decided, Decides call earlier v.entry v.before v.ran decided ∧
    if v.ran then
      ∃ answer, call (v.entry.callback.program payload) (entered id earlier decided) =
        (.ok answer, v.after)
    else v.after = decided

/-- How a pass stops at an entry: a failing predicate is reported as it is, a failing
callback under the scenario's name. -/
inductive Stops (earlier : List (Visit σ)) (e : Entry σ) (w : World σ) :
    Interrupt → World σ → Prop where
  | predicate : e.group = some group → EndsWith call (.error cause) group w last →
      Stops earlier e w cause last
  | callback : Decides call earlier e w true decided →
      call (e.callback.program payload) (entered id earlier decided) =
        (.error (.failed cause), last) →
      Stops earlier e w (.failed (.callback description cause)) last
  | exhausted : Decides call earlier e w true decided →
      call (e.callback.program payload) (entered id earlier decided) =
        (.error .exhausted, last) →
      Stops earlier e w .exhausted last

/-- The world in which a pass makes its first visit. -/
def begun (w : World σ) : World σ :=
  (w.modifyScenario id fun s => { s with evaluating := true }).marked (.passBegan id)

/-- The scenario accepts passes again. -/
def released (w : World σ) : World σ :=
  w.modifyScenario id fun s => { s with evaluating := false }

/-- The window of suppression starts if any callback ran. -/
def suppressed (ran : Nat) (w : World σ) : World σ :=
  w.modifyScenario id fun s =>
    match s.suppressFor with
    | some window => if 0 < ran then { s with suppressedUntil := some (w.clock.add window) } else s
    | none => s

/-- The world after a pass that visited all entries, of which `ran` ran. -/
def concluded (ran : Nat) (w : World σ) : World σ :=
  (suppressed id ran (released id w)).marked (.passEnded id (some ran))

/-- The world after a pass that stopped. Only a pass cut short leaves the scenario in it. -/
def stopped : Interrupt → World σ → World σ
  | .failed _, w => (released id w).marked (.passEnded id none)
  | .exhausted, w => w

/-- The pass of a scenario whose record was `s` when the pass began. It makes its visits to
the entries that were there then, in order. Either it visits them all and returns how
many ran, or it stops at the first that fails. -/
def PassOf (s : Scenario σ) (w : World σ) (result : Except Interrupt Nat × World σ) : Prop :=
  ∃ visits last, Linked (begun id w) visits last ∧
    (∀ earlier v later, visits = earlier ++ v :: later → Completed call id payload earlier v) ∧
    ((visits.map (·.entry) = s.entries ∧
        result = (.ok (visits.countP (·.ran)), concluded id (visits.countP (·.ran)) last)) ∨
      ∃ e rest cause final, s.entries = visits.map (·.entry) ++ e :: rest ∧
        Stops call id s.description payload visits e last cause final ∧
        result = (.error cause, stopped id cause final))

section Groups

variable {call}

theorem EndsWith.cons {p : Predicate σ} {rest : List (Predicate σ)} {w next last : World σ}
    {answer : Except Interrupt Bool} (head : call p.program w = (.ok true, next))
    (tail : EndsWith call answer rest next last) : EndsWith call answer (p :: rest) w last := by
  obtain ⟨front, q, back, middle, rfl, hold, ended⟩ := tail
  exact ⟨p :: front, q, back, middle, rfl, .cons head hold, ended⟩

variable (call) in
theorem allHold_run (group : List (Predicate σ)) (w : World σ) :
    ∃ answer last, allHold call group w = (answer, last) ∧
      match answer with
      | .ok true => AllTrue call group w last
      | .ok false => EndsWith call (.ok false) group w last
      | .error cause => EndsWith call (.error cause) group w last := by
  induction group generalizing w with
  | nil => exact ⟨.ok true, w, rfl, .nil w⟩
  | cons p rest ih =>
    rcases ran : call p.program w with ⟨answer, next⟩
    match answer, ran with
    | .error cause, ran =>
      refine ⟨.error cause, next, bind_error ran, [], p, rest, w, rfl, .nil w, ran⟩
    | .ok false, ran =>
      exact ⟨.ok false, next, by rw [allHold, bind_ok ran]; rfl, [], p, rest, w, rfl, .nil w, ran⟩
    | .ok true, ran =>
      obtain ⟨answer, last, evaluated, told⟩ := ih next
      refine ⟨answer, last, ?_, ?_⟩
      · rw [allHold, bind_ok ran]
        exact evaluated
      · match answer, told with
        | .ok true, told => exact .cons ran told
        | .ok false, told => exact .cons ran told
        | .error cause, told => exact .cons ran told

end Groups

/-- The tally that the visits so far add up to. -/
def Counts (earlier : List (Visit σ)) (tally : Tally) : Prop :=
  tally.ran = earlier.countP (·.ran) ∧ (tally.matched = 0 ↔ ∀ v ∈ earlier, ¬ v.Matched)

theorem Visit.matched_iff (v : Visit σ) :
    v.Matched ↔ v.ran = true ∧ guards v.entry.group = true := by
  unfold Visit.Matched guards
  cases v.entry.group with
  | none => simp
  | some group => cases group <;> simp

theorem Counts.skip {earlier : List (Visit σ)} {tally : Tally} {v : Visit σ}
    (counts : Counts earlier tally) (skipped : v.ran = false) : Counts (earlier ++ [v]) tally := by
  have unmatched : ¬ v.Matched := fun matched => by
    have ran := matched.1
    simp [skipped] at ran
  refine ⟨by simp [counts.1, skipped], counts.2.trans ?_⟩
  simp only [List.mem_append, List.mem_singleton]
  exact ⟨fun none u member => member.elim (none u) fun same => same ▸ unmatched,
    fun none u member => none u (.inl member)⟩

theorem Counts.run {earlier : List (Visit σ)} {tally : Tally} {v : Visit σ}
    (counts : Counts earlier tally) (ran : v.ran = true) :
    Counts (earlier ++ [v])
      ⟨if guards v.entry.group then tally.matched + 1 else tally.matched, tally.ran + 1⟩ := by
  refine ⟨by simp [counts.1, ran], ?_⟩
  cases guarded : guards v.entry.group with
  | true =>
    have matched : v.Matched := v.matched_iff.mpr ⟨ran, guarded⟩
    simp only [if_true, Nat.add_eq_zero_iff, Nat.one_ne_zero, and_false, false_iff]
    exact fun none => none v (by simp) matched
  | false =>
    have unmatched : ¬ v.Matched := fun matched => by
      have guards := (v.matched_iff.mp matched).2
      simp [guarded] at guards
    simp only [Bool.false_eq_true, if_false, counts.2, List.mem_append, List.mem_singleton]
    exact ⟨fun none u member => member.elim (none u) fun same => same ▸ unmatched,
      fun none u member => none u (.inl member)⟩

section Visits

variable {call} {id} {description} {payload}

variable (call) in
theorem applies_run {earlier : List (Visit σ)} {tally : Tally} (counts : Counts earlier tally)
    (e : Entry σ) (w : World σ) :
    (∃ ran last, applies call e.group tally w = (.ok ran, last) ∧
      Decides call earlier e w ran last) ∨
    ∃ group cause last, e.group = some group ∧ applies call e.group tally w = (.error cause, last) ∧
      EndsWith call (.error cause) group w last := by
  cases declared : e.group with
  | none =>
    refine .inl ⟨tally.matched == 0, w, rfl, ?_⟩
    by_cases unmatched : ∀ v ∈ earlier, ¬ v.Matched
    · rw [counts.2.mpr unmatched]
      exact .fallback declared unmatched
    · have positive : (tally.matched == 0) = false := by
        simpa using fun zero => unmatched (counts.2.mp zero)
      obtain ⟨v, member, matched⟩ : ∃ v ∈ earlier, v.Matched := by simpa using unmatched
      rw [positive]
      exact .preempted declared member matched
  | some group =>
    obtain ⟨answer, last, evaluated, told⟩ := allHold_run call group w
    match answer, told with
    | .ok true, told => exact .inl ⟨true, last, evaluated, .holds declared told⟩
    | .ok false, told => exact .inl ⟨false, last, evaluated, .refused declared told⟩
    | .error cause, told => exact .inr ⟨group, cause, last, rfl, evaluated, told⟩

/-- What is left of a pass after the visits in `earlier`: completed visits that either
reach the end of the entries or stop at one. -/
def Told (call : Call σ) (id : Nat) (description : String) (payload : Option Value)
    (earlier : List (Visit σ)) (tally : Tally) (entries : List (Entry σ)) (w : World σ)
    (result : Except Interrupt Tally × World σ) : Prop :=
  ∃ visits last, Linked w visits last ∧
    (∀ front v back, visits = front ++ v :: back →
      Completed call id payload (earlier ++ front) v) ∧
    ((visits.map (·.entry) = entries ∧
        ∃ matched, result = (.ok ⟨matched, tally.ran + visits.countP (·.ran)⟩, last)) ∨
      ∃ e rest cause final, entries = visits.map (·.entry) ++ e :: rest ∧
        Stops call id description payload (earlier ++ visits) e last cause final ∧
        result = (.error cause, final))

theorem Told.stop {earlier : List (Visit σ)} {tally : Tally} {e : Entry σ}
    {rest : List (Entry σ)} {w final : World σ} {cause : Interrupt}
    (stops : Stops call id description payload earlier e w cause final) :
    Told call id description payload earlier tally (e :: rest) w (.error cause, final) := by
  refine ⟨[], w, rfl, ?_, .inr ⟨e, rest, cause, final, rfl, ?_, rfl⟩⟩
  · intro front v back split
    simp at split
  · simpa only [List.append_nil] using stops

theorem Told.cons {earlier : List (Visit σ)} (tally : Tally) {next : Tally}
    {rest : List (Entry σ)} {v : Visit σ} {result : Except Interrupt Tally × World σ}
    (completed : Completed call id payload earlier v)
    (sum : next.ran = tally.ran + if v.ran then 1 else 0)
    (told : Told call id description payload (earlier ++ [v]) next rest v.after result) :
    Told call id description payload earlier tally (v.entry :: rest) v.before result := by
  obtain ⟨visits, last, linked, each, ended⟩ := told
  refine ⟨v :: visits, last, ⟨rfl, linked⟩, ?_, ?_⟩
  · intro front u back split
    cases front with
    | nil =>
      obtain ⟨rfl, -⟩ := List.cons.inj split
      simpa only [List.append_nil] using completed
    | cons first front =>
      obtain ⟨rfl, tail⟩ := List.cons.inj split
      simpa only [List.append_assoc, List.singleton_append] using each front u back tail
  · rcases ended with ⟨all, matched, same⟩ | ⟨e, left, cause, final, split, stops, same⟩
    · refine .inl ⟨by simp only [List.map_cons, all], matched, ?_⟩
      have total : next.ran + visits.countP (·.ran) =
          tally.ran + (v :: visits).countP (·.ran) := by
        rw [sum, List.countP_cons]
        omega
      rw [same, total]
    · refine .inr ⟨e, left, cause, final, by simp only [List.map_cons, split, List.cons_append],
        ?_, same⟩
      simpa only [List.append_assoc, List.singleton_append] using stops

variable (call) in
theorem runCallback_run (description : String) (c : Callback σ) (payload : Option Value)
    (w : World σ) :
    ∃ answer last, call (c.program payload) w = (answer, last) ∧
      runCallback call description c payload w = match answer with
        | .ok _ => (.ok (), last)
        | .error (.failed cause) => (.error (.failed (.callback description cause)), last)
        | .error .exhausted => (.error .exhausted, last) := by
  rcases ran : call (c.program payload) w with ⟨answer, last⟩
  refine ⟨answer, last, rfl, ?_⟩
  match answer, ran with
  | .ok _, ran => rw [runCallback, bind_ok (attempt_ok ran)]; rfl
  | .error (.failed cause), ran => rw [runCallback, bind_ok (attempt_failed ran)]; rfl
  | .error .exhausted, ran => rw [runCallback, bind_error (attempt_exhausted ran)]

variable (call id description payload) in
/-- Induction over the entries that are left, with the visits made so far in `earlier`. -/
theorem visit_told {earlier : List (Visit σ)} {tally : Tally} (counts : Counts earlier tally)
    (entries : List (Entry σ)) (w : World σ) :
    Told call id description payload earlier tally entries w
      (visit call id description payload earlier.length tally entries w) := by
  induction entries generalizing earlier tally w with
  | nil => exact ⟨[], w, rfl, by simp, .inl ⟨rfl, tally.matched, rfl⟩⟩
  | cons e rest ih =>
    rcases applies_run call counts e w with
      ⟨ran, decided, evaluated, decides⟩ | ⟨group, cause, last, declared, failed, broken⟩
    · cases ran with
      | false =>
        let v : Visit σ := ⟨e, w, false, decided⟩
        have completed : Completed call id payload earlier v := ⟨decided, decides, rfl⟩
        rw [visit, bind_ok evaluated]
        have told := ih (counts.skip (v := v) rfl) decided
        rw [List.length_append] at told
        exact .cons tally completed rfl told
      | true =>
        obtain ⟨answer, last, called, outcome⟩ := runCallback_run call description
          e.callback payload (decided.marked (.entryRan id earlier.length))
        rw [visit, bind_ok evaluated, if_pos rfl, bind_ok (mark_run _ _)]
        match answer, called, outcome with
        | .ok answer, called, outcome =>
          let v : Visit σ := ⟨e, w, true, last⟩
          have completed : Completed call id payload earlier v :=
            ⟨decided, decides, answer, called⟩
          have told := ih (counts.run (v := v) rfl) last
          rw [List.length_append] at told
          rw [bind_ok outcome]
          exact .cons tally completed rfl told
        | .error (.failed cause), called, outcome =>
          rw [bind_error outcome]
          exact .stop (.callback decides called)
        | .error .exhausted, called, outcome =>
          rw [bind_error outcome]
          exact .stop (.exhausted decides called)
    · rw [visit, bind_error failed]
      exact .stop (.predicate declared broken)

end Visits

theorem runPass_eq (s : Scenario σ) (w : World σ) :
    runPass call id s payload w =
      match visit call id s.description payload 0 ⟨0, 0⟩ s.entries (begun id w) with
      | (.ok tally, last) => (.ok tally.ran, concluded id tally.ran last)
      | (.error cause, final) => (.error cause, stopped id cause final) := by
  rw [runPass, bind_ok (modifyScenario_run _ _ _), bind_ok (mark_run _ _)]
  change (attempt (visit call id s.description payload 0 ⟨0, 0⟩ s.entries) >>= _) (begun id w) = _
  rcases visited : visit call id s.description payload 0 ⟨0, 0⟩ s.entries (begun id w) with
    ⟨outcome, last⟩
  match outcome, visited with
  | .ok tally, visited => rw [bind_ok (attempt_ok visited)]; rfl
  | .error (.failed cause), visited => rw [bind_ok (attempt_failed visited)]; rfl
  | .error .exhausted, visited => rw [bind_error (attempt_exhausted visited)]; rfl

theorem runPass_pass (s : Scenario σ) (w : World σ) :
    PassOf call id payload s w (runPass call id s payload w) := by
  have none : Counts ([] : List (Visit σ)) ⟨0, 0⟩ := ⟨rfl, by simp⟩
  obtain ⟨visits, last, linked, each, ended⟩ :=
    visit_told call id s.description payload none s.entries (begun id w)
  refine ⟨visits, last, linked, by simpa only [List.nil_append] using each, ?_⟩
  rw [runPass_eq]
  rcases ended with ⟨all, matched, told⟩ | ⟨e, rest, cause, final, split, stops, told⟩
  · have visited : visit call id s.description payload 0 ⟨0, 0⟩ s.entries (begun id w) =
        (.ok ⟨matched, visits.countP (·.ran)⟩, last) := by
      simp only [Nat.zero_add] at told
      exact told
    exact .inl ⟨all, by rw [visited]⟩
  · have visited : visit call id s.description payload 0 ⟨0, 0⟩ s.entries (begun id w) =
        (.error cause, final) := told
    exact .inr ⟨e, rest, cause, final, split, by simpa only [List.nil_append] using stops,
      by rw [visited]⟩

theorem scenario_found {w : World σ} {s : Scenario σ} (registered : w.scenarios[id]? = some s) :
    scenario id w = (.ok s, w) := by
  rw [scenario, bind_ok (get_run _), registered]
  rfl

theorem scenario_missing {w : World σ} (missing : w.scenarios[id]? = none) :
    scenario id w = (.error (.failed (.missing "scenario" (toString id))), w) := by
  rw [scenario, bind_ok (get_run _), missing]
  rfl

theorem assert_missing {w : World σ} (missing : w.scenarios[id]? = none) :
    assert call id payload w = (.error (.failed (.missing "scenario" (toString id))), w) := by
  rw [assert, bind_error (scenario_missing id missing)]

theorem assert_unrunnable {w : World σ} {s : Scenario σ} (found : w.scenarios[id]? = some s)
    (idle : s.runnable = false) : assert call id payload w = (.ok 0, w) := by
  rw [assert, bind_ok (scenario_found id found), bind_ok (get_run _), idle]
  rfl

theorem assert_suppressed {w : World σ} {s : Scenario σ} (found : w.scenarios[id]? = some s)
    (held : (s.suppressedAt w.clock).isSome = true) :
    assert call id payload w = (.ok 0, w) := by
  rw [assert, bind_ok (scenario_found id found), bind_ok (get_run _), if_pos held, ite_self]
  rfl

/-- Asserting a scenario that is runnable, not suppressed and not in a pass makes one pass
over its entries. The code behind predicates and callbacks is arbitrary. -/
theorem assert_pass {w : World σ} {s : Scenario σ} (registered : w.scenarios[id]? = some s)
    (runnable : s.runnable = true) (unsuppressed : s.suppressedAt w.clock = none)
    (idle : s.evaluating = false) :
    PassOf call id payload s w (assert call id payload w) := by
  have found := scenario_found id registered
  have passed : assert call id payload w = runPass call id s payload w := by
    rw [assert, bind_ok found, bind_ok (get_run _)]
    simp only [runnable, unsuppressed, idle, Bool.not_true, Bool.false_eq_true, if_false,
      Option.isSome_none]
  rw [passed]
  exact runPass_pass call id payload s w

/-- A refused entry, a fallback that adds an entry, an empty group, a fallback that the
empty group does not preempt, a group that holds, and a fallback that it preempts. -/
def sample : Scenario Unit where
  description := "sample"
  suppressFor := none
  testMode := false
  runnable := true
  evaluating := false
  suppressedUntil := none
  entries := [⟨some [.custom (.done false)], .custom fun _ => .done true⟩,
    ⟨none, .custom fun _ => .fallback 0 (fun _ => .done true) (.done true)⟩,
    ⟨some [], .custom fun _ => .done true⟩, ⟨none, .custom fun _ => .done true⟩,
    ⟨some [.custom (.done true)], .custom fun _ => .done true⟩,
    ⟨none, .custom fun _ => .done true⟩]

def sampleWorld : World Unit :=
  { World.start ⟨0⟩ [] () with scenarios := [sample], registry := some [0] }

theorem assert_pass_sample :
    sampleWorld.scenarios[0]? = some sample ∧ sample.runnable = true ∧
      sample.suppressedAt sampleWorld.clock = none ∧ sample.evaluating = false ∧
      (assert (exec 2) 0 none sampleWorld).1 = .ok 4 ∧
      PassOf (exec 2) 0 none sample sampleWorld (assert (exec 2) 0 none sampleWorld) :=
  ⟨rfl, rfl, rfl, rfl, rfl, assert_pass (exec 2) 0 none rfl rfl rfl rfl⟩

end Reflex.Evaluation
