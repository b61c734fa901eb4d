import Reflex.Proofs.Passes
import Reflex.Proofs.Suppression

/-! Passes inside passes. A scenario is marked as being in a pass exactly while one is in
progress over it, so an assert that finds it so is ignored; and code that comes to its end,
however it ends, leaves the passes in progress as it found them. -/
namespace Reflex
open Act Engine Evaluation History

variable {σ α : Type} {rule : Rule}

namespace World

variable {w w' last : World σ}

namespace Flagged

/-- Steps that tell nothing of passes leave the flags right. -/
theorem touches (flagged : w.Flagged) (touches : w.Touches w') : w'.Flagged := by
  obtain ⟨later, journal, apart⟩ := touches.passless
  obtain ⟨new, paces, fresh⟩ := touches.paces
  have passes : passes w'.journal = passes w.journal := by rw [journal, passes_append apart]
  have length : w'.scenarios.length = w.scenarios.length + new.length := by
    simpa using congrArg List.length paces
  constructor
  · intro id s found
    have pace := congrArg (·[id]?) paces
    simp only [List.getElem?_map, found, Option.map_some] at pace
    rw [passes]
    by_cases within : id < w.scenarios.length
    · rw [List.getElem?_append_left (by simpa using within), List.getElem?_map] at pace
      obtain ⟨t, known, same⟩ := Option.map_eq_some_iff.mp pace.symm
      rw [← flagged.flags id t known]
      exact iff_of_eq (congrArg (· = true) (congrArg Prod.fst same).symm)
    · rw [List.getElem?_append_right (by simpa using within)] at pace
      have idle : s.evaluating = false := (fresh _ (List.mem_of_getElem? pace.symm)).1
      rw [idle]
      exact ⟨nofun, fun busy => absurd (flagged.distinct.below id busy) within⟩
  · rw [journal, length]
    exact (flagged.distinct.mono (Nat.le_add_right _ _)).append apart

/-- A pass that ends takes its scenario out of the passes in progress. -/
theorem ended (flagged : w.Flagged) {id : Nat} {ran : Option Nat}
    (journal : w'.journal = .passEnded id ran :: w.journal)
    (scenarios : w'.scenarios.map (·.evaluating) = (released id w).scenarios.map (·.evaluating)) :
    w'.Flagged := by
  have nodup := flagged.distinct.nodup
  constructor
  · intro n s found
    have same := congrArg (·[n]?) scenarios
    simp only [List.getElem?_map, found, Option.map_some, released, getElem?_modifyScenario,
      Option.map_map] at same
    obtain ⟨t, known, evaluating⟩ := Option.map_eq_some_iff.mp same.symm
    rw [journal]
    change _ ↔ n ∈ (passes w.journal).erase id
    rw [nodup.mem_erase_iff, ← flagged.flags n t known, ← evaluating]
    by_cases here : id = n
    · simp [here]
    · simp [here, Ne.symm here]
  · have length : w'.scenarios.length = w.scenarios.length := by
      have lengths := congrArg List.length scenarios
      rw [List.length_map, List.length_map] at lengths
      exact lengths.trans (List.length_modify ..)
    rw [journal, length]
    exact .cons trivial flagged.distinct

theorem step (flagged : w.Flagged) (step : w.Evolves rule w') : w'.Flagged := by
  cases step with
  | alter alters => exact flagged.touches alters.touches
  | begin admits => exact flagged.begun admits.found admits.idle
  | stop => exact flagged.ended rfl rfl
  | conclude =>
    refine flagged.ended rfl (modifyScenario_map _ _ _ fun s => ?_)
    split
    · split <;> rfl
    · rfl

end Flagged

theorem Arises.flagged (arises : w.Arises rule) : w.Flagged := by
  apply arises.invariant
  · intro clock devices memory
    exact ⟨(fun _ _ none => nomatch none), .nil⟩
  · exact fun _ flagged step => flagged.step step
  · exact fun _ flagged => ⟨flagged.flags, flagged.distinct⟩

end World

/-- What comes to its end leaves the passes in progress as they were. -/
def Balanced : Link σ := fun w e w' => e = true → passes w'.journal = passes w.journal

variable (rule) in
theorem balanced_entire : (Balanced : Link σ).Entire rule where
  refl _ _ := rfl
  cut _ came := nomatch came
  trans first rest came := (rest came).trans (first rfl)
  alter alters _ := by
    obtain ⟨later, journal, apart⟩ := alters.touches.passless
    rw [journal, passes_append apart]
  pass := by
    intro w last id s outcome admits visited came
    have inner : passes last.journal = id :: passes w.journal := visited came
    match outcome with
    | .ok _ | .error (.failed _) =>
      change (passes last.journal).erase id = _
      rw [inner, List.erase_cons_head]
    | .error .exhausted => cases came

namespace Engine

variable {depth id : Nat} {payload : Option Value} {w next last : World σ}

theorem run_balanced {p : Program σ} {outcome : Except Interrupt Bool}
    (lodges : w.Lodges Rule.free) (ran : exec depth p w = (outcome, next)) :
    next.Lodges Rule.free ∧ (ended outcome = true → passes next.journal = passes w.journal) :=
  ((exec_entire (balanced_entire _) Rule.free_open depth).code p.within_free lodges).after_run ran

theorem AllTrue.balanced {group : List (Predicate σ)} (lodges : w.Lodges Rule.free)
    (hold : AllTrue (exec depth) group w last) :
    last.Lodges Rule.free ∧ passes last.journal = passes w.journal := by
  induction hold with
  | nil => exact ⟨lodges, rfl⟩
  | cons ran _ ih =>
    obtain ⟨kept, same⟩ := run_balanced lodges ran
    obtain ⟨stays, rest⟩ := ih kept
    exact ⟨stays, rest.trans (same rfl)⟩

theorem Decides.balanced {earlier : List (Visit σ)} {e : Entry σ} {ran : Bool}
    (lodges : w.Lodges Rule.free) (decides : Decides (exec depth) earlier e w ran last) :
    last.Lodges Rule.free ∧ passes last.journal = passes w.journal := by
  cases decides with
  | fallback | preempted => exact ⟨lodges, rfl⟩
  | holds _ hold => exact AllTrue.balanced lodges hold
  | refused _ ends =>
    obtain ⟨front, p, back, middle, -, hold, ran⟩ := ends
    obtain ⟨kept, same⟩ := AllTrue.balanced lodges hold
    obtain ⟨stays, rest⟩ := run_balanced kept ran
    exact ⟨stays, (rest rfl).trans same⟩

theorem Completed.balanced {earlier : List (Visit σ)} {v : Visit σ}
    (lodges : v.before.Lodges Rule.free) (completed : Completed (exec depth) id payload earlier v) :
    v.after.Lodges Rule.free ∧ passes v.after.journal = passes v.before.journal := by
  obtain ⟨decided, decides, went⟩ := completed
  obtain ⟨kept, same⟩ := Decides.balanced lodges decides
  split at went
  · obtain ⟨answer, ran⟩ := went
    obtain ⟨stays, rest⟩ := run_balanced (kept.marked _) ran
    exact ⟨stays, (rest rfl).trans same⟩
  · exact went ▸ ⟨kept, same⟩

/-- Between the visits of a pass the passes in progress are those of its beginning. -/
theorem Linked.balanced {visits : List (Visit σ)} (earlier : List (Visit σ))
    (lodges : w.Lodges Rule.free) (linked : Linked w visits last)
    (each : ∀ front v back, visits = front ++ v :: back →
      Completed (exec depth) id payload (earlier ++ front) v) :
    ∀ v ∈ visits, passes v.after.journal = passes w.journal := by
  induction visits generalizing w earlier with
  | nil => exact List.forall_mem_nil _
  | cons v rest ih =>
    obtain ⟨rfl, linked⟩ := linked
    have first := each [] v rest rfl
    rw [List.append_nil] at first
    obtain ⟨kept, same⟩ := Completed.balanced lodges first
    refine List.forall_mem_cons.mpr ⟨same, fun u member => ?_⟩
    refine (ih (earlier ++ [v]) kept linked ?_ u member).trans same
    intro front u back split
    rw [List.append_assoc]
    exact each (v :: front) u back (congrArg (v :: ·) split)

end Engine

/-- Between operations no pass is in progress. -/
theorem Session.passless {e : Bool} {w : World σ} (session : Session Rule.free e w)
    (between : e = true) : passes w.journal = [] := by
  have calls : ∀ depth, Calls Rule.free Balanced (fun _ => Balanced) (exec depth : Call σ) :=
    exec_entire (balanced_entire _) Rule.free_open
  induction session with
  | start => rfl
  | @build w next components depth outcome before kept built ih =>
    have finish : ∀ (w : World σ) components,
        Balanced w true { w with components, registry := some [] } := fun _ _ _ => rfl
    have lodges := (before.reached Rule.free_open).1
    have balanced := build_upheld (balanced_entire _).law (calls depth) finish _ kept lodges
    exact ((balanced.after_run built).2 between).trans (ih rfl)
  | run before _ ran ih =>
    have lodges := (before.reached Rule.free_open).1
    exact ((run_balanced lodges ran).2 between).trans (ih rfl)

/-- What holds at a moment of a history of the passes in progress there. -/
structure ReentryKept (w : World σ) : Prop where
  flags : ∀ id s, w.scenarios[id]? = some s → (s.evaluating = true ↔ id ∈ passes w.journal)
  ignored : ∀ id ∈ passes w.journal, ∀ call payload, ∃ s, w.scenarios[id]? = some s ∧
    (assert call id payload w = (.ok 0, w) ∨
      assert call id payload w = (.ok 0, w.marked (.reentered s.description)))
  /-- A pass is told by its own visits alone, whatever passes code makes in them. -/
  visits : ∀ id s, w.Admits id s → ∀ call payload,
    PassOf call id payload s w (assert call id payload w)
  undisturbed : ∀ depth id payload visits last, Linked (begun id w) visits last →
    (∀ earlier v later, visits = earlier ++ v :: later →
      Completed (exec depth) id payload earlier v) →
    ∀ v ∈ visits, passes v.after.journal = id :: passes w.journal
  balanced : ∀ depth p outcome next, Engine.run depth p w = (outcome, next) →
    ended outcome = true → passes next.journal = passes w.journal
  reopened : ∀ id s, w.Admits id s → ∀ depth payload outcome next,
    assert (exec depth) id payload w = (outcome, next) → ended outcome = true →
    ∃ t, next.scenarios[id]? = some t ∧ t.evaluating = false ∧
      (t.runnable = true → t.suppressedAt next.clock = none →
        ∀ call payload, PassOf call id payload t next (assert call id payload next))
  rested : Session Rule.free true w → ∀ s ∈ w.scenarios, s.evaluating = false

/-- At every moment of every history, an assert of a scenario that is in a pass is ignored;
passes inside a pass leave it as it is; and once a pass has ended, in whatever way, its
scenario takes another. -/
theorem reentry_kept {w : World σ} (arises : w.Arises Rule.free) : ReentryKept w := by
  have flagged := arises.flagged
  have lodges := arises.lodges
  have asserted : ∀ depth id payload,
      Upheld Rule.free Balanced (assert (exec depth) id payload) w := fun depth id payload =>
    assert_upheld (balanced_entire _).law Rule.free_open
      (exec_entire (balanced_entire _) Rule.free_open depth) id payload lodges
  constructor
  · exact flagged.flags
  · intro id member call payload
    have within := flagged.distinct.below id member
    have found : w.scenarios[id]? = some w.scenarios[id] := List.getElem?_eq_getElem within
    refine ⟨_, found, ?_⟩
    rcases assert_cases call payload found with still | reentered | ⟨admits, -⟩
    · exact .inl still
    · exact .inr reentered
    · have busy := (flagged.flags id _ found).mpr member
      exact absurd (admits.idle.symm.trans busy) Bool.false_ne_true
  · intro id s admits call payload
    exact assert_pass call id payload admits.found admits.runnable admits.unsuppressed admits.idle
  · intro depth id payload visits last linked each
    have told : ∀ front v back, visits = front ++ v :: back →
        Completed (exec depth) id payload ([] ++ front) v := each
    exact Linked.balanced [] (lodges.begun id) linked told
  · intro depth p outcome next ran came
    exact (run_balanced lodges ran).2 came
  · intro id s admits depth payload outcome next ran came
    have becomes := (assert_upheld becoming_entire.law Rule.free_open
      (exec_entire becoming_entire Rule.free_open depth) id payload lodges).after_run ran
    have same : passes next.journal = passes w.journal :=
      ((asserted depth id payload).after_run ran).2 came
    obtain ⟨t, known, -, -⟩ := assert_quiet Rule.free_open lodges admits.found ran
    have idle : t.evaluating = false := by
      rw [Bool.eq_false_iff]
      intro busy
      have inside := ((arises.leads becomes.2.2.leads).flagged.flags id t known).mp busy
      exact flagged.idle_fresh admits.found admits.idle (same ▸ inside)
    refine ⟨t, known, idle, ?_⟩
    intro runnable unsuppressed call payload
    exact assert_pass call id payload known runnable unsuppressed idle
  · intro session s member
    obtain ⟨id, found⟩ := List.getElem?_of_mem member
    rw [Bool.eq_false_iff]
    intro busy
    have inside := (flagged.flags id s found).mp busy
    rw [session.passless rfl] at inside
    cases inside

/-- The callback of one scenario asserts another, whose callback asserts the first again and
fails. -/
def duet : Program Unit :=
  .request (.createScenario "outer" ⟨none, false⟩) fun _ =>
    .request (.createScenario "inner" ⟨none, false⟩) fun _ =>
      .fallback 0 (fun _ => .perform (.assert 1 none)) <|
        .fallback 1 (fun _ => .request (.assert 0 none) fun _ => .fail .dropped) <|
          .perform (.assert 0 none)

def emptyHouse : World Unit := (World.start ⟨0⟩ [] ()).completed []

def duetWorld (depth : Nat) : World Unit := (run depth duet emptyHouse).2

theorem emptyHouse_session : Session Rule.free true emptyHouse := by
  have built : buildIn 1 [] (.start ⟨0⟩ [] ()) = (.ok (), emptyHouse) := rfl
  exact .build (.start ⟨0⟩ [] ()) (List.forall_mem_nil _) built

theorem duet_session (depth : Nat) :
    Session Rule.free (ended (run depth duet emptyHouse).1) (duetWorld depth) :=
  .run emptyHouse_session duet.within_free rfl

/-- Run only as deep as the inner callback, the program is left inside both passes; run in
full, it has left them by the failure of that callback, with one assert ignored. -/
theorem reentry_kept_duet :
    ((duetWorld 2).Arises Rule.free ∧ passes (duetWorld 2).journal = [1, 0] ∧
        ReentryKept (duetWorld 2)) ∧
      ((duetWorld 3).Arises Rule.free ∧ Session Rule.free true (duetWorld 3) ∧
        (duetWorld 3).journal.filterMap Mark.diagnostic? =
          [⟨.warn, "ignoring re-entrant assert", [("scenario", "outer")]⟩] ∧
        ReentryKept (duetWorld 3)) := by
  have arises : ∀ depth, (duetWorld depth).Arises Rule.free := fun depth =>
    (duet_session depth).arises Rule.free_open
  have came : ended (run 3 duet emptyHouse).1 = true := by decide +kernel
  have session : Session Rule.free true (duetWorld 3) := came ▸ duet_session 3
  exact ⟨⟨arises 2, by decide +kernel, reentry_kept (arises 2)⟩,
    arises 3, session, by decide +kernel, reentry_kept (arises 3)⟩

end Reflex
