import Reflex.Proofs.Reentry

/-! Entries without a group. In a pass they run up to the first match of a group that is not
empty, and not after it; none of them keeps another from running. -/
namespace Reflex
open Act Engine Evaluation

variable {σ : Type}

namespace Evaluation

/-- A guarded entry ran. -/
def Visit.matched (v : Visit σ) : Bool := v.ran && guards v.entry.group

/-- An entry without a group ran. -/
def Visit.fallsBack (v : Visit σ) : Bool := v.ran && v.entry.group.isNone

theorem Visit.matched_eq_true {v : Visit σ} : v.matched = true ↔ v.Matched := by
  rw [matched_iff, matched, Bool.and_eq_true]

variable (call : Call σ) (id : Nat) (payload : Option Value)

/-- A visit at which a pass stops, because a predicate of the entry fails, or its callback does. -/
def Broken (earlier : List (Visit σ)) (v : Visit σ) (cause : Interrupt) : Prop :=
  if v.ran then
    ∃ decided, Decides call earlier v.entry v.before true decided ∧
      call (v.entry.callback.program payload) (entered id earlier decided) = (.error cause, v.after)
  else ∃ group, v.entry.group = some group ∧ EndsWith call (.error cause) group v.before v.after

/-- The visits of a pass, the one at which it stopped included. They are made in the order of the
entries, and an assert that returns has made them all. -/
structure Visits (s : Scenario σ) (w : World σ) (visits : List (Visit σ))
    (result : Except Interrupt Nat × World σ) : Prop where
  entries : visits.map (·.entry) <+: s.entries
  linked : ∃ last, Linked (begun id w) visits last ∧ result.2 = closed id result.1 last
  each : ∀ earlier v later, visits = earlier ++ v :: later →
    Completed call id payload earlier v ∨
      later = [] ∧ ∃ cause, Broken call id payload earlier v cause
  whole : ∀ n, result.1 = .ok n → visits.map (·.entry) = s.entries ∧ n = visits.countP (·.ran)
  cut : ∀ cause, result.1 = .error cause →
    ∃ front v broke, visits = front ++ [v] ∧ Broken call id payload front v broke

variable {call id payload} {w last final : World σ} {s : Scenario σ}

theorem Linked.concat {visits : List (Visit σ)} (linked : Linked w visits last) (e : Entry σ)
    (ran : Bool) : Linked w (visits ++ [⟨e, last, ran, final⟩]) final := by
  induction visits generalizing w with
  | nil => exact ⟨linked.symm, rfl⟩
  | cons v rest ih => exact ⟨linked.1, ih linked.2⟩

/-- Before a visit the world is as the visits before it left it. -/
theorem Linked.front {earlier later : List (Visit σ)} {v : Visit σ}
    (linked : Linked w (earlier ++ v :: later) last) : Linked w earlier v.before := by
  induction earlier generalizing w with
  | nil => exact linked.1.symm
  | cons u rest ih => exact ⟨linked.1, ih linked.2⟩

/-- The entry at which a pass stops is visited, too. -/
theorem Stops.broken {earlier : List (Visit σ)} {e : Entry σ} {cause : Interrupt}
    (stops : Stops call id s.description payload earlier e last cause final) :
    ∃ ran broke, Broken call id payload earlier ⟨e, last, ran, final⟩ broke := by
  cases stops with
  | predicate declared ended => exact ⟨false, _, _, declared, ended⟩
  | callback decides failed => exact ⟨true, _, _, decides, failed⟩
  | exhausted decides failed => exact ⟨true, _, _, decides, failed⟩

/-- A pass makes its visits one after the other. -/
theorem PassOf.visits {result : Except Interrupt Nat × World σ}
    (pass : PassOf call id payload s w result) :
    ∃ visits, Visits call id payload s w visits result := by
  obtain ⟨visits, last, linked, each, ended⟩ := pass
  rcases ended with ⟨all, rfl⟩ | ⟨e, rest, cause, final, split, stops, rfl⟩
  · refine ⟨visits, all ▸ List.prefix_refl _, ⟨last, linked, rfl⟩, ?_, ?_, ?_⟩
    · exact fun earlier v later split => .inl (each earlier v later split)
    · rintro n ⟨⟩
      exact ⟨all, rfl⟩
    · rintro cause ⟨⟩
  · obtain ⟨ran, broke, broken⟩ := stops.broken
    refine ⟨visits ++ [⟨e, last, ran, final⟩], ?_, ⟨final, linked.concat e ran, rfl⟩, ?_, ?_, ?_⟩
    · rw [split, List.map_append, List.append_cons]
      exact List.prefix_append _ _
    · intro earlier v later same
      rcases List.eq_nil_or_concat later with rfl | ⟨front, u, rfl⟩
      · obtain ⟨rfl, last⟩ := List.append_inj' same rfl
        cases last
        exact .inr ⟨rfl, broke, broken⟩
      · rw [List.concat_eq_append, ← List.cons_append, ← List.append_assoc] at same
        exact .inl (each earlier v front (List.append_inj' same rfl).1)
    · rintro n ⟨⟩
    · exact fun _ _ => ⟨visits, _, broke, rfl, broken⟩

/-- Whether an entry without a group runs depends on the groups that matched before it. -/
theorem Decides.bare {earlier : List (Visit σ)} {e : Entry σ} {ran : Bool}
    (decides : Decides call earlier e w ran last) (bare : e.group = none) :
    ran = true ↔ ∀ v ∈ earlier, ¬ v.Matched := by
  cases decides with
  | fallback _ none => exact ⟨fun _ => none, fun _ => rfl⟩
  | preempted _ member matched =>
    exact ⟨(nomatch ·), fun none => absurd matched (none _ member)⟩
  | holds grouped | refused grouped => cases bare.symm.trans grouped

namespace Visits

variable {visits earlier later : List (Visit σ)} {v : Visit σ}
  {result : Except Interrupt Nat × World σ}

theorem bare (made : Visits call id payload s w visits result)
    (split : visits = earlier ++ v :: later) (bare : v.entry.group = none) :
    v.ran = true ↔ ∀ u ∈ earlier, ¬ u.Matched := by
  rcases made.each earlier v later split with ⟨decided, decides, -⟩ | ⟨-, cause, broken⟩
  · exact decides.bare bare
  · unfold Broken at broken
    split at broken
    · obtain ⟨decided, decides, -⟩ := broken
      rename_i ran
      exact ran ▸ decides.bare bare
    · obtain ⟨group, grouped, -⟩ := broken
      cases bare.symm.trans grouped

end Visits

/-- The entries without a group that ran in a row of visits, when each of them runs unless there
was a match before it, are those before the first match. -/
theorem filter_fallsBack {visits : List (Visit σ)}
    (each : ∀ earlier v later, visits = earlier ++ v :: later → v.entry.group = none →
      (v.ran = true ↔ ∀ u ∈ earlier, ¬ u.Matched)) :
    visits.filter Visit.fallsBack =
      (visits.takeWhile fun v => !v.matched).filter fun v => v.entry.group.isNone := by
  induction visits with
  | nil => rfl
  | cons v rest ih =>
    have others : ∀ earlier u later, rest = earlier ++ u :: later → u.entry.group = none →
        (u.ran = true ↔ ∀ x ∈ v :: earlier, ¬ x.Matched) := fun earlier u later split bare =>
      each (v :: earlier) u later (by rw [split, List.cons_append]) bare
    cases first : v.matched with
    | true =>
      -- Nothing without a group runs any more, and this entry has one.
      have matched := Visit.matched_eq_true.mp first
      rw [List.takeWhile_cons, first, List.filter_eq_nil_iff.mpr]
      · rfl
      rintro u (_ | ⟨_, member⟩) fell
      · obtain ⟨-, p, group, grouped⟩ := matched
        simp [Visit.fallsBack, grouped] at fell
      · obtain ⟨earlier, later, split⟩ := List.append_of_mem member
        obtain ⟨ran, bare⟩ := Bool.and_eq_true_iff.mp fell
        have none := (others earlier u later split (Option.isNone_iff_eq_none.mp bare)).mp ran
        exact none v (.head _) matched
    | false =>
      have unmatched : ¬ v.Matched := fun matched => by
        rw [Visit.matched_eq_true.mpr matched] at first
        cases first
      have tail := ih fun earlier u later split bare =>
        (others earlier u later split bare).trans (by simp [unmatched])
      have here : v.fallsBack = v.entry.group.isNone := by
        cases grouped : v.entry.group with
        | none =>
          have ran : v.ran = true := (each [] v rest rfl grouped).mpr (fun _ none => nomatch none)
          rw [Visit.fallsBack, ran, grouped]
          rfl
        | some group => rw [Visit.fallsBack, grouped, Option.isNone_some, Bool.and_false]
      rw [List.takeWhile_cons, first, Bool.not_false, if_pos rfl, List.filter_cons,
        List.filter_cons, tail, here]

end Evaluation

/-- The visits that an assert makes: those of its pass, or none if it is ignored. -/
def Engine.Asserted (call : Call σ) (id : Nat) (payload : Option Value) (s : Scenario σ)
    (w : World σ) (visits : List (Visit σ)) : Prop :=
  Visits call id payload s w visits (assert call id payload w) ∨
    visits = [] ∧ (assert call id payload w = (.ok 0, w) ∨
      assert call id payload w = (.ok 0, w.marked (.reentered s.description)))

theorem Engine.assert_visits (call : Call σ) {id : Nat} (payload : Option Value) {s : Scenario σ}
    {w : World σ} (found : w.scenarios[id]? = some s) :
    ∃ visits, Asserted call id payload s w visits := by
  rcases assert_cases call payload found with ignored | reentered | ⟨-, passed⟩
  · exact ⟨[], .inr ⟨rfl, .inl ignored⟩⟩
  · exact ⟨[], .inr ⟨rfl, .inr reentered⟩⟩
  · obtain ⟨visits, made⟩ := (runPass_pass call id payload s w).visits
    exact ⟨visits, .inl (passed ▸ made)⟩

/-- What the visits of an assert do about entries without a group. -/
structure FallsBack (s : Scenario σ) (visits : List (Visit σ)) : Prop where
  only : ∀ earlier v later, visits = earlier ++ v :: later → v.entry.group = none →
    (v.ran = true ↔ ∀ u ∈ earlier, ¬ u.Matched)
  front : visits.filter Visit.fallsBack =
    (visits.takeWhile fun v => !v.matched).filter fun v => v.entry.group.isNone
  single : s.entries.countP (fun e => e.group.isNone) ≤ 1 → visits.countP Visit.fallsBack ≤ 1

theorem Evaluation.Visits.falls_back {call : Call σ} {id : Nat} {payload : Option Value}
    {s : Scenario σ} {w : World σ} {visits : List (Visit σ)}
    {result : Except Interrupt Nat × World σ} (made : Visits call id payload s w visits result) :
    FallsBack s visits where
  only _ _ _ := made.bare
  front := filter_fallsBack fun _ _ _ => made.bare
  single few := by
    have narrower : visits.countP Visit.fallsBack ≤ visits.countP fun v => v.entry.group.isNone :=
      List.countP_mono_left fun v _ fell => (Bool.and_eq_true_iff.mp fell).2
    have declared : (visits.map (·.entry)).countP (fun e => e.group.isNone) ≤
        s.entries.countP fun e => e.group.isNone :=
      made.entries.sublist.countP_le
    rw [List.countP_map] at declared
    exact Nat.le_trans narrower (Nat.le_trans declared few)

/-- However entries are declared, an entry without a group runs in an assert only if no guarded
entry matched before it. Those that come before the first match all run. -/
theorem fallbacks_kept (call : Call σ) {id : Nat} (payload : Option Value) {s : Scenario σ}
    {w : World σ} (found : w.scenarios[id]? = some s) :
    ∃ visits, Asserted call id payload s w visits ∧ FallsBack s visits := by
  obtain ⟨visits, asserted⟩ := assert_visits call payload found
  refine ⟨visits, asserted, ?_⟩
  rcases asserted with made | ⟨rfl, -⟩
  · exact made.falls_back
  · exact ⟨fun _ _ _ split => absurd split (by simp), rfl, fun _ => Nat.zero_le 1⟩

/-- An entry without a group, one whose group matches, and another without a group. -/
def flanked : Program Unit :=
  .request (.createScenario "flanked" ⟨none, false⟩) fun _ =>
    .fallback 0 (fun _ => .done true) <|
      .request (.openBlock 0) fun _ => .check 0 (.done true) <|
        .close 0 (fun _ => .done true) <| .fallback 0 (fun _ => .done true) (.done true)

def flankedHouse : World Unit := (run 2 flanked emptyHouse).2

theorem fallbacks_kept_flanked :
    ∃ s, flankedHouse.scenarios[0]? = some s ∧
      s.entries.map (·.group.isNone) = [true, false, true] ∧
      (assert (exec 1) 0 none flankedHouse).1 = .ok 2 ∧
      ∃ visits, Asserted (exec 1) 0 none s flankedHouse visits ∧ FallsBack s visits := by
  have found : flankedHouse.scenarios[0]? = some flankedHouse.scenarios[0] := rfl
  exact ⟨_, found, rfl, rfl, fallbacks_kept (exec 1) none found⟩

/-- Two entries without a group. -/
def paired : Program Unit :=
  .request (.createScenario "paired" ⟨none, false⟩) fun _ =>
    .fallback 0 (fun _ => .done true) <| .fallback 0 (fun _ => .done true) (.done true)

def pairedHouse : World Unit := (run 2 paired emptyHouse).2

/-- Both of them run in one assert. -/
theorem paired_fall_back :
    Session Rule.free true pairedHouse ∧
      ∃ s visits, pairedHouse.scenarios[0]? = some s ∧
        Asserted (exec 1) 0 none s pairedHouse visits ∧ visits.countP Visit.fallsBack = 2 := by
  have found : pairedHouse.scenarios[0]? = some pairedHouse.scenarios[0] := rfl
  obtain ⟨visits, asserted⟩ := assert_visits (exec 1) none found
  refine ⟨.run_ended emptyHouse_session paired.within_free rfl, _, visits, found, asserted, ?_⟩
  have both : (assert (exec 1) 0 none pairedHouse).1 = .ok 2 := rfl
  rcases asserted with made | ⟨-, ignored | ignored⟩
  · obtain ⟨all, count⟩ := made.whole 2 both
    have bare : ∀ e ∈ pairedHouse.scenarios[0].entries, e.group.isNone = true :=
      List.forall_mem_cons.mpr ⟨rfl, List.forall_mem_singleton.mpr rfl⟩
    rw [count]
    apply List.countP_congr
    intro v member
    have none := bare v.entry (all ▸ List.mem_map_of_mem member)
    rw [Visit.fallsBack, none, Bool.and_true]
  · rw [ignored] at both
    cases both
  · rw [ignored] at both
    cases both

end Reflex
