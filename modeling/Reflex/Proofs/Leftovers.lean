import Reflex.Proofs.Evolution
import Reflex.Proofs.Wiring

/-! What a declaration leaves when it fails. It changes nothing if its scenario cannot be
created; after that it stops where it failed, and the scenario stays, with the triggers that
were installed by then. -/
namespace Reflex
open Act Engine

variable {σ : Type} {rule : Rule} {R : Link σ} {w next : World σ}

/-! Whatever code the vocabularies hold, a declaration only does what code can do. -/

namespace Engine

section Upheld

variable (law : R.Law rule) {call : Call σ} (calls : Calls rule R (fun _ => R) call)
include law calls

theorem invokeTriggers_upheld (id : Nat) (names : List NamedCall) (lodges : w.Lodges rule) :
    Upheld rule R (invokeTriggers call id names) w := by
  induction names generalizing w with
  | nil => exact .pure law.toChained _ lodges
  | cons c rest ih =>
    refine .bind law.toChained ?_ fun _ _ _ lodges => ih lodges
    exact invokeTrigger_upheld law calls id c.name c.arguments lodges

theorem invokeConstraints_upheld (block : Nat) (names : List NamedCall)
    (lodges : w.Lodges rule) : Upheld rule R (invokeConstraints call block names) w := by
  induction names generalizing w with
  | nil => exact .pure law.toChained _ lodges
  | cons c rest ih =>
    refine .bind law.toChained ?_ fun _ _ _ lodges => ih lodges
    exact invokeConstraint_upheld law calls block c.name c.arguments lodges

theorem declareBranch_upheld (id : Nat) (description : String) (b : Branch)
    (lodges : w.Lodges rule) : Upheld rule R (declareBranch call id description b) w := by
  have chained := law.toChained
  refine .bind_still chained (ofInvalid_still _ w) lodges fun d _ => ?_
  have kept : (Callback.deed description d : Callback σ).Within rule := trivial
  split
  · refine pushEntry_upheld law id ⟨kept, ?_⟩ lodges
    exact fun group none => nomatch none
  · rename_i names _
    refine .bind chained (openBlock_upheld law id lodges) fun block w _ lodges => ?_
    have collected := invokeConstraints_upheld law calls block names lodges
    refine .bind chained collected.attempt fun outcome w _ lodges => ?_
    cases outcome with
    | ok => exact closeBlock_upheld law block kept lodges
    | error cause =>
      exact .bind chained (discardBlock_upheld law block lodges) fun _ _ _ lodges =>
        .fail chained cause lodges

theorem declareBranches_upheld (id : Nat) (description : String) (branches : List Branch)
    (lodges : w.Lodges rule) : Upheld rule R (declareBranches call id description branches) w := by
  induction branches generalizing w with
  | nil => exact .pure law.toChained _ lodges
  | cons b rest ih =>
    refine .bind law.toChained ?_ fun _ _ _ lodges => ih lodges
    exact declareBranch_upheld law calls id description b lodges

theorem equip_upheld (d : Declaration) (id : Nat) (lodges : w.Lodges rule) :
    Upheld rule R (equip call d id) w := by
  have chained := law.toChained
  refine .bind chained (.discard chained (openTriggers_upheld law id lodges)) fun _ w _ lodges => ?_
  refine .bind chained (invokeTriggers_upheld law calls id d.triggers lodges)
    fun _ w _ lodges => ?_
  refine .bind chained (declareBranches_upheld law calls id d.description d.branches lodges)
    fun _ w _ lodges => ?_
  exact .bind chained (mark_upheld law rfl lodges) fun _ _ _ lodges => .pure chained id lodges

end Upheld

end Engine

/-- The scenario of a declaration can be created. -/
def Declaration.Creatable (d : Declaration) (w : World σ) : Prop :=
  ∃ options ids, d.Creates w options ids

/-- What a declaration leaves that failed after its scenario was created: the scenario among
the others, and triggers for its first calls. -/
structure Declaration.Leftover (d : Declaration) (w next : World σ) (options : Options)
    (ids : List Nat) (done : List NamedCall) (ts : List Trigger) : Prop where
  creates : d.Creates w options ids
  initial : done <+: d.triggers
  meant : List.Forall₂ NamedCall.Triggers done ts
  registry : next.registry = some (ids ++ [w.scenarios.length])
  scenarios : next.scenarios.map Scenario.bare =
    (w.creating ids d.description options).scenarios.map Scenario.bare
  listening : next.listening = w.listening ++
    ts.filterMap fun t => t.topic?.map (·, .trigger t w.scenarios.length)
  scheduled : next.scheduled = w.scheduled ++
    ts.filterMap fun t => t.schedule?.map (·, .trigger t w.scenarios.length)

namespace Engine

/-- A declaration that fails as it is set up leaves its world as it was, or its scenario. -/
theorem Declares.left {d : Declaration} {i : Interrupt} (declares : Declares d w (.error i) next) :
    (¬ d.Creatable w ∧ next = w) ∨
      ∃ options ids done ts, d.Leftover w next options ids done ts := by
  cases declares with
  | refused never => exact .inl ⟨fun ⟨options, ids, creates⟩ => never options ids creates, rfl⟩
  | @stopped _ options ids done ts wired _ creates initial meant installed furnishes =>
    right
    have listening := installed.listening
    have scheduled := installed.scheduled
    rw [List.filterMap_map] at listening scheduled
    have scenarios : wired.scenarios = (w.creating ids d.description options).scenarios := by
      rw [installed.rest]
    have registry : wired.registry = some (ids ++ [w.scenarios.length]) := by
      rw [installed.rest]
      rfl
    cases furnishes with
    | intro bare =>
      refine ⟨options, ids, done, ts, creates, initial, meant, registry, ?_, listening, scheduled⟩
      rw [← scenarios]
      exact bare

theorem Declares.grown {d : Declaration} {id : Nat} (declares : Declares d w (.ok id) next)
    (native : w.Native) : next.Native ∧ next.scenarios.length = w.scenarios.length + 1 ∧
      next.registry = w.registry.map (· ++ [w.scenarios.length]) := by
  cases declares with
  | @declared options ids ts wired _ creates _ installed furnishes _ =>
  have native := furnishes.native (installed.native native)
  have length : wired.scenarios.length = w.scenarios.length + 1 := by
    rw [installed.rest]
    simp [World.creating, World.refreshing, refreshed]
  have registry : wired.registry = w.registry.map (· ++ [w.scenarios.length]) := by
    rw [installed.rest, creates.known]
    rfl
  cases furnishes with
  | intro bare =>
    refine ⟨native, ?_, registry⟩
    have same := congrArg List.length bare
    rw [List.length_map, List.length_map] at same
    exact same.trans length

/-- Of several declarations those before the one that fails have succeeded. -/
theorem declareAll_left {call : Call σ} {ds : List Declaration} {i : Interrupt} (native : w.Native)
    (ran : declareAll call ds w = (.error i, next)) :
    ∃ before d after mid, ds = before ++ d :: after ∧ declareAll call before w = (.ok (), mid) ∧
      mid.registry = w.registry.map (· ++ List.range' w.scenarios.length before.length) ∧
      Declares d mid (.error i) next := by
  induction ds generalizing w with
  | nil => cases ran
  | cons d rest ih =>
    obtain ⟨outcome, last, first, declares⟩ := declare_cases call d native
    cases outcome with
    | error cause =>
      rw [declareAll, bind_error (discard_error first)] at ran
      obtain ⟨same, rfl⟩ := Prod.mk.inj ran
      obtain rfl := Except.error.inj same
      refine ⟨[], d, rest, w, rfl, rfl, ?_, declares⟩
      simp
    | ok id =>
      obtain ⟨native, length, registry⟩ := declares.grown native
      rw [declareAll, bind_ok (discard_ok first)] at ran
      obtain ⟨before, e, after, mid, rfl, done, registered, failed⟩ := ih native ran
      refine ⟨d :: before, e, after, mid, rfl, ?_, ?_, failed⟩
      · rw [declareAll, bind_ok (discard_ok first)]
        exact done
      · rw [registered, registry, length, Option.map_map]
        congr 1
        funext ids
        simp [List.range'_succ]

end Engine

/-- What failing declarations leave in a world. -/
structure LeftoversKept (w : World σ) : Prop where
  /-- Whatever code the vocabularies hold, all starts with the scenario. -/
  begun : ∀ depth d i next, declare (exec depth) d w = (.error i, next) →
    (¬ d.Creatable w ∧ next = w) ∨ ∃ options ids, d.Creates w options ids ∧
      (w.creating ids d.description options).Becomes Rule.free next
  left : w.Native → ∀ depth d i next, declare (exec depth) d w = (.error i, next) →
    (¬ d.Creatable w ∧ next = w) ∨ ∃ options ids done ts, d.Leftover w next options ids done ts
  all : w.Native → ∀ depth ds i next, declareAll (exec depth) ds w = (.error i, next) →
    ∃ before d after mid, ds = before ++ d :: after ∧
      declareAll (exec depth) before w = (.ok (), mid) ∧
      mid.registry = w.registry.map (· ++ List.range' w.scenarios.length before.length) ∧
      ((¬ d.Creatable mid ∧ next = mid) ∨
        ∃ options ids done ts, d.Leftover mid next options ids done ts)

/-- A declaration that fails leaves its world as it was exactly when its scenario could not
be created. Otherwise the scenario stays registered, in test mode if it was declared so, and
the triggers that were installed before the failure stay as well. -/
theorem leftovers_kept (arises : w.Arises Rule.free) : LeftoversKept w := by
  constructor
  · intro depth d i next ran
    rcases declare_begins (exec depth) d w with
      ⟨never, j, refused⟩ | ⟨options, ids, creates, equips⟩
    · left
      refine ⟨fun ⟨options, ids, creates⟩ => never options ids creates, ?_⟩
      exact congrArg Prod.snd (ran.symm.trans refused)
    · right
      have lodges := arises.lodges.creating ids d.description options
      have upheld := equip_upheld becoming_entire.law (exec_entire becoming_entire Rule.free_open
        depth) d w.scenarios.length lodges
      exact ⟨options, ids, creates, (upheld.after_run (equips.symm.trans ran)).2.2⟩
  · intro native depth d i next ran
    obtain ⟨outcome, last, same, declares⟩ := declare_cases (exec depth) d native
    obtain ⟨rfl, rfl⟩ := Prod.mk.inj (same.symm.trans ran)
    exact declares.left
  · intro native depth ds i next ran
    obtain ⟨before, d, after, mid, split, done, registered, failed⟩ := declareAll_left native ran
    exact ⟨before, d, after, mid, split, done, registered, failed.left⟩

/-- A scenario that is singled out for testing, with one trigger that is known and one that is
not. -/
def alarm : Declaration where
  description := "alarm"
  options := .object [("only", .bool true)]
  triggers := [⟨"every", [.text "1 second"]⟩, ⟨"sunset", []⟩]
  branches := []

def standardHouse : World Unit := (World.start ⟨0⟩ [] ()).completed Component.standard

def calmHouse : World Unit := standardHouse.creating [] "calm" .default

def alarmedHouse : World Unit := (declare (exec 1) alarm calmHouse).2

theorem standardHouse_session : Session Rule.free true standardHouse := by
  have built : buildIn 1 Component.standard (.start ⟨0⟩ [] ()) = (.ok (), standardHouse) := rfl
  exact .build (.start ⟨0⟩ [] ()) (fun c _ => c.within_free) built

theorem calmHouse_arises : calmHouse.Arises Rule.free := by
  have built : standardHouse.Arises Rule.free :=
    ⟨⟨0⟩, [], (), .build .refl fun c _ => c.within_free⟩
  exact built.leads (.code .refl (.alter (.change (.create rfl))))

theorem calmHouse_native : calmHouse.Native := Component.standard_native

theorem alarm_fails : ∃ i, declare (exec 1) alarm calmHouse = (.error i, alarmedHouse) := by
  have failed : (declare (exec 1) alarm calmHouse).1.isOk = false := by decide +kernel
  rcases ran : declare (exec 1) alarm calmHouse with ⟨i | _, next⟩
  · refine ⟨i, ?_⟩
    rw [alarmedHouse, ran]
  · rw [ran] at failed
    cases failed

/-- The declaration fails at its second call. Its scenario is there nevertheless, keeps the
other one from running, and is asserted every second. -/
theorem alarm_stays :
    calmHouse.Arises Rule.free ∧
      (∃ i, declare (exec 1) alarm calmHouse = (.error i, alarmedHouse)) ∧
      calmHouse.registry = some [0] ∧ alarmedHouse.registry = some [0, 1] ∧
      calmHouse.scenarios.map (fun s => (s.testMode, s.runnable)) = [(false, true)] ∧
      alarmedHouse.scenarios.map (fun s => (s.testMode, s.runnable)) =
        [(false, false), (true, true)] ∧
      calmHouse.agenda.jobs.length = 0 ∧ alarmedHouse.agenda.jobs.length = 1 :=
  ⟨calmHouse_arises, alarm_fails, rfl, by decide +kernel, by decide +kernel, by decide +kernel, rfl,
    by decide +kernel⟩

theorem leftovers_kept_alarm :
    calmHouse.Arises Rule.free ∧ calmHouse.Native ∧ LeftoversKept calmHouse ∧
      ∃ options ids done ts, alarm.Leftover calmHouse alarmedHouse options ids done ts := by
  have kept := leftovers_kept calmHouse_arises
  refine ⟨calmHouse_arises, calmHouse_native, kept, ?_⟩
  obtain ⟨i, failed⟩ := alarm_fails
  rcases kept.left calmHouse_native 1 alarm i alarmedHouse failed with ⟨-, same⟩ | leftover
  · have jobs : alarmedHouse.agenda.jobs.length = 1 := by decide +kernel
    rw [same] at jobs
    cases jobs
  · exact leftover

end Reflex
