import Reflex.Proofs.Isolation
import Reflex.Proofs.Leftovers
import Reflex.Proofs.Merging
import Reflex.Proofs.Recording

/-! Creating scenarios. The registered scenarios are listed in the order of their creation, no two
of them with one description. Creating one adds it at the end of the list, or is refused and
changes nothing. -/
namespace Reflex
open Act Engine

variable {σ : Type}

namespace World

def titles (w : World σ) : List String := w.scenarios.map Scenario.description

/-- The registered scenarios are in the order of their numbers, and have different descriptions. -/
structure Registered (w : World σ) (ids : List Nat) : Prop where
  ordered : ids.Pairwise (· < ·)
  below : ∀ id ∈ ids, id < w.scenarios.length
  distinct : (ids.map (w.titles[·]?)).Nodup

/-- Nothing keeps a scenario of this description from being created. -/
structure Accepts (w : World σ) (ids : List Nat) (description : String) : Prop where
  named : Text.isBlankText description = false
  untaken : ∀ id ∈ ids, w.titles[id]? ≠ some description
  triggers : Vocabulary.Apart (w.components.map (·.triggers))
  constraints : Vocabulary.Apart (w.components.map (·.constraints))

/-- Why a scenario cannot be created: the first reason in the order in which they are looked for. -/
inductive Refuses (w : World σ) (ids : List Nat) (description : String) : Invalid → Prop
  | blank : Text.isBlankText description = true → Refuses w ids description .emptyName
  | taken {id : Nat} : Text.isBlankText description = false → id ∈ ids →
      w.titles[id]? = some description →
      Refuses w ids description (.duplicateScenario description)
  | triggers {name : String} : Text.isBlankText description = false →
      (∀ id ∈ ids, w.titles[id]? ≠ some description) →
      Vocabulary.Clashes (w.components.map (·.triggers)) name →
      Refuses w ids description (.collision .trigger name)
  | constraints {name : String} : Text.isBlankText description = false →
      (∀ id ∈ ids, w.titles[id]? ≠ some description) →
      Vocabulary.Apart (w.components.map (·.triggers)) →
      Vocabulary.Clashes (w.components.map (·.constraints)) name →
      Refuses w ids description (.collision .constraint name)

variable {w w' : World σ} {ids : List Nat} {description : String}

theorem Refuses.not_accepts {cause : Invalid} (refuses : w.Refuses ids description cause) :
    ¬ w.Accepts ids description := by
  intro accepts
  cases refuses with
  | blank blank => cases accepts.named.symm.trans blank
  | taken _ member same => exact accepts.untaken _ member same
  | triggers _ _ clashes => exact clashes.not_apart accepts.triggers
  | constraints _ _ _ clashes => exact clashes.not_apart accepts.constraints

theorem isTaken_iff : isTaken w ids description = true ↔
    ∃ id ∈ ids, w.titles[id]? = some description := by
  simp [isTaken, titles, Option.any_eq_true]

theorem titles_creating (w : World σ) (ids : List Nat) (description : String)
    (options : Options) : (w.creating ids description options).titles = w.titles ++ [description] :=
  creating_map (fun _ _ => rfl) w ids description options

theorem length_titles (w : World σ) : w.titles.length = w.scenarios.length := List.length_map _

theorem length_creating (w : World σ) (ids : List Nat) (description : String)
    (options : Options) :
    (w.creating ids description options).scenarios.length = w.scenarios.length + 1 := by
  rw [← length_titles, titles_creating, List.length_append, length_titles]
  rfl

namespace Registered

theorem same (registered : w.Registered ids) (titles : w'.titles = w.titles) :
    w'.Registered ids where
  ordered := registered.ordered
  below id member := by
    rw [← length_titles, titles, length_titles]
    exact registered.below id member
  distinct := titles ▸ registered.distinct

theorem create (registered : w.Registered ids) (untaken : isTaken w ids description = false)
    (options : Options) :
    (w.creating ids description options).Registered (ids ++ [w.scenarios.length]) := by
  have length := w.length_titles.symm
  have kept : ∀ id ∈ ids, (w.titles ++ [description])[id]? = w.titles[id]? := fun id member =>
    List.getElem?_append_left (length ▸ registered.below id member)
  constructor
  · refine List.pairwise_append.mpr ⟨registered.ordered, List.pairwise_singleton _ _, ?_⟩
    intro id member n new
    rw [List.mem_singleton.mp new]
    exact registered.below id member
  · intro id member
    rw [length_creating]
    rcases List.mem_append.mp member with old | new
    · exact Nat.lt_succ_of_lt (registered.below id old)
    · rw [List.mem_singleton.mp new]
      exact Nat.lt_succ_self _
  · rw [titles_creating, List.map_append, List.map_congr_left kept]
    refine List.Nodup.append registered.distinct (List.nodup_singleton _) ?_
    intro title old new
    obtain ⟨id, member, rfl⟩ := List.mem_map.mp old
    have same : w.titles[id]? = some description := by
      rw [List.map_singleton, List.mem_singleton, length, List.getElem?_concat_length] at new
      exact new
    rw [isTaken_iff.mpr ⟨id, member, same⟩] at untaken
    cases untaken

theorem empty (w : World σ) : w.Registered [] :=
  ⟨.nil, List.forall_mem_nil _, .nil⟩

end Registered

theorem Recorded.registered {ds : Ledger σ} (recorded : w.Recorded ds) :
    ∀ ids, w.registry = some ids → w.Registered ids := by
  have kept : ∀ {w w' : World σ}, (∀ ids, w.registry = some ids → w.Registered ids) →
      w'.registry = w.registry → w'.titles = w.titles →
      ∀ ids, w'.registry = some ids → w'.Registered ids :=
    fun registered registry titles ids known => (registered ids (registry ▸ known)).same titles
  refine recorded.invariant
    (P := fun _ w => ∀ ids, w.registry = some ids → w.Registered ids) ?_ ?_
  · rintro clock devices memory ids ⟨⟩
  · intro ds w d w' _ registered step
    cases step with
    | spare spares =>
      have titles := congrArg (List.map Scenario.description) spares.outlines
      rw [List.map_map, List.map_map] at titles
      exact kept registered spares.registry titles
    | create known untaken =>
      rintro ids ⟨⟩
      exact (registered _ known).create untaken _
    | test known => exact kept registered rfl (testing_map (fun _ _ => rfl) _ _ _ _ fun _ _ => rfl)
    | clear | complete =>
      rintro ids ⟨⟩
      exact .empty _
    | drop => rintro ids ⟨⟩
    | «open» | add | discard => exact kept registered rfl rfl
    | close => exact kept registered rfl (extending_map (fun _ _ => rfl) _ _ _)
    | bare => exact kept registered rfl (extending_map (fun _ _ => rfl) _ _ _)

/-- The registered scenario with a description is found by it. -/
theorem Registered.lookup (registered : w.Registered ids) (known : w.registry = some ids)
    {id : Nat} : w.view.registered? description = some id ↔
      id ∈ ids ∧ w.titles[id]? = some description := by
  have described : ∀ n, (w.view.scenario n).any (·.description == description) = true ↔
      w.titles[n]? = some description := fun n => by
    simp [view, scenarioView, titles, Option.any_eq_true]
  have listed : w.view.registry.getD [] = ids := by
    rw [view, known]
    rfl
  have picked : ∀ {n}, (ids.find? fun n => (w.view.scenario n).any (·.description == description)) =
      some n → n ∈ ids ∧ w.titles[n]? = some description := fun {n} found => by
    have here := List.find?_some found
    exact ⟨List.mem_of_find?_eq_some found, (described n).mp here⟩
  rw [View.registered?, listed]
  refine ⟨picked, ?_⟩
  rintro ⟨member, same⟩
  cases found : ids.find? fun n => (w.view.scenario n).any (·.description == description) with
  | none => exact absurd ((described id).mpr same) (List.find?_eq_none.mp found id member)
  | some n =>
    obtain ⟨listed, there⟩ := picked found
    congr 1
    exact List.inj_on_of_nodup_map registered.distinct listed member (there.trans same.symm)

/-- A scenario was created. Only whether they are runnable is decided again for the others. -/
structure Creates (w : World σ) (ids : List Nat) (description : String) (options : Options)
    (id : Nat) (next : World σ) : Prop where
  last : id = w.scenarios.length ∧ next.scenarios.length = w.scenarios.length + 1
  registry : next.registry = some (ids ++ [id])
  rest : next = { w with scenarios := next.scenarios, registry := next.registry }
  new : next.scenarios[id]? = some
    { Scenario.new description options.suppressFor with
      testMode := options.only
      runnable := !(isolating w ids || options.only) || options.only }
  others : ∀ n s, w.scenarios[n]? = some s → next.scenarios[n]? = some
    (if n ∈ ids then { s with runnable := !(isolating w ids || options.only) || s.testMode } else s)
  lookup : ∀ title, next.view.registered? title =
    if title = description then some id else w.view.registered? title

/-- Others are in test mode, or the new one is. -/
theorem Registered.isolating (registered : w.Registered ids) (s : Scenario σ)
    (registry : Option (List Nat)) :
    Engine.isolating { w with scenarios := w.scenarios ++ [s], registry }
      (ids ++ [w.scenarios.length]) = (Engine.isolating w ids || s.testMode) := by
  have kept : ∀ id ∈ ids, (w.scenarios ++ [s])[id]? = w.scenarios[id]? := fun id member =>
    List.getElem?_append_left (registered.below id member)
  have old : ids.any (fun id => ((w.scenarios ++ [s])[id]?).any (·.testMode)) =
      ids.any fun id => (w.scenarios[id]?).any (·.testMode) := by
    rw [Bool.eq_iff_iff, List.any_eq_true, List.any_eq_true]
    exact exists_congr fun id => and_congr_right fun member => by rw [kept id member]
  rw [Engine.isolating, List.any_append, old, List.any_cons, List.any_nil, Bool.or_false,
    List.getElem?_concat_length]
  rfl

/-- The new scenario is found under its description, and all others are found as before. -/
theorem Registered.lookup_creating (registered : w.Registered ids) (known : w.registry = some ids)
    (untaken : isTaken w ids description = false) (options : Options) (title : String) :
    (w.creating ids description options).view.registered? title =
      if title = description then some w.scenarios.length else w.view.registered? title := by
  have length := w.length_titles.symm
  have found : ∀ n, (w.creating ids description options).view.registered? title = some n ↔
      n ∈ ids ++ [w.scenarios.length] ∧ (w.titles ++ [description])[n]? = some title :=
    fun n => w.titles_creating ids description options ▸
      (registered.create untaken options).lookup rfl
  split
  case isTrue same =>
    refine (found _).mpr ⟨List.mem_append_right _ (.head _), ?_⟩
    rw [length, List.getElem?_concat_length, same]
  case isFalse other =>
    ext n
    rw [found, registered.lookup known]
    constructor
    · rintro ⟨member, same⟩
      rcases List.mem_append.mp member with old | new
      · rw [List.getElem?_append_left (length ▸ registered.below n old)] at same
        exact ⟨old, same⟩
      · rw [List.mem_singleton.mp new, length, List.getElem?_concat_length] at same
        exact absurd (Option.some.inj same).symm other
    · rintro ⟨member, same⟩
      refine ⟨List.mem_append_left _ member, ?_⟩
      rw [List.getElem?_append_left (length ▸ registered.below n member)]
      exact same

theorem Registered.creates (registered : w.Registered ids) (known : w.registry = some ids)
    (untaken : isTaken w ids description = false) (options : Options) :
    w.Creates ids description options w.scenarios.length
      (w.creating ids description options) := by
  constructor
  · exact ⟨rfl, w.length_creating ids description options⟩
  · rfl
  · rfl
  · rw [creating, refreshing_at, registered.isolating, List.getElem?_concat_length]
    simp
  · intro n s found
    have within := (List.getElem?_eq_some_iff.mp found).1
    rw [creating, refreshing_at, registered.isolating, List.getElem?_append_left within, found]
    have new : n ≠ w.scenarios.length := Nat.ne_of_lt within
    simp [new]
  · exact registered.lookup_creating known untaken options

end World

namespace Engine

variable {w : World σ} {ids : List Nat}

theorem triggerVocabulary_cases (w : World σ) :
    (Vocabulary.Apart (w.components.map (·.triggers)) ∧ ∃ v, w.triggerVocabulary = .ok v) ∨
      ∃ name, Vocabulary.Clashes (w.components.map (·.triggers)) name ∧
        w.triggerVocabulary = .error (.collision .trigger name) :=
  Vocabulary.mergeAll_empty .trigger _

theorem constraintVocabulary_cases (w : World σ) :
    (Vocabulary.Apart (w.components.map (·.constraints)) ∧ ∃ v, w.constraintVocabulary = .ok v) ∨
      ∃ name, Vocabulary.Clashes (w.components.map (·.constraints)) name ∧
        w.constraintVocabulary = .error (.collision .constraint name) :=
  Vocabulary.mergeAll_empty .constraint _

/-- A scenario is created, or the first reason against it is reported and nothing is changed. -/
theorem createScenario_decides (known : w.registry = some ids) (description : String)
    (options : Options) :
    (w.Accepts ids description ∧ createScenario description options w =
        (.ok w.scenarios.length, w.creating ids description options)) ∨
      ∃ cause, w.Refuses ids description cause ∧
        createScenario description options w = (.error (.failed (.invalid cause)), w) := by
  rw [createScenario, bind_ok (registry_found known), bind_ok (get_run _)]
  dsimp only
  split
  case isTrue blank => exact .inr ⟨_, .blank blank, bind_error (fail_run _ _)⟩
  rename_i named
  have named : Text.isBlankText description = false := by simpa using named
  split
  case isTrue taken =>
    obtain ⟨id, member, same⟩ := World.isTaken_iff.mp taken
    exact .inr ⟨_, .taken named member same, bind_error (fail_run _ _)⟩
  rename_i untaken
  have untaken : ∀ id ∈ ids, w.titles[id]? ≠ some description := fun id member same =>
    untaken (World.isTaken_iff.mpr ⟨id, member, same⟩)
  rcases triggerVocabulary_cases w with ⟨triggers, v, merged⟩ | ⟨name, clashes, refused⟩
  · rw [merged, bind_ok (discard_ok (ofInvalid_found v w))]
    rcases constraintVocabulary_cases w with ⟨constraints, v, merged⟩ | ⟨name, clashes, refused⟩
    · rw [merged, bind_ok (discard_ok (ofInvalid_found v w)), bind_ok (set_run _ _)]
      exact .inl ⟨⟨named, untaken, triggers, constraints⟩,
        createScenario_last description options w⟩
    · rw [refused]
      exact .inr ⟨_, .constraints named untaken triggers clashes, bind_error rfl⟩
  · rw [refused]
    exact .inr ⟨_, .triggers named untaken clashes, bind_error rfl⟩

end Engine

/-- What holds of the registered scenarios at a moment of a history, and of creating another. -/
structure CreationKept (ds : Ledger σ) (w : World σ) (ids : List Nat) : Prop where
  registered : w.Registered ids
  lookup : ∀ title id, w.view.registered? title = some id ↔
    id ∈ ids ∧ w.titles[id]? = some title
  succeeds : ∀ description options,
    (∃ id next, createScenario description options w = (.ok id, next)) ↔ w.Accepts ids description
  fails : ∀ description options i next, createScenario description options w = (.error i, next) →
    next = w ∧ ∃ cause, i = .failed (.invalid cause) ∧ w.Refuses ids description cause
  creates : ∀ description options id next, createScenario description options w = (.ok id, next) →
    w.Creates ids description options id next ∧ next.Recorded ds
  clears : clearScenarios w = (.ok (), w.clearing ids) ∧ (w.clearing ids).registry = some [] ∧
    (w.clearing ids).Recorded ds ∧
    ∀ description, (w.clearing ids).Accepts [] description ↔
      Text.isBlankText description = false ∧
        Vocabulary.Apart (w.components.map (·.triggers)) ∧
        Vocabulary.Apart (w.components.map (·.constraints))

/-- At every moment of every history, a scenario is created exactly if its description is not
blank, no registered scenario has it, and no two components contribute one name. -/
theorem creation_kept {ds : Ledger σ} {w : World σ} {ids : List Nat} (recorded : w.Recorded ds)
    (known : w.registry = some ids) : CreationKept ds w ids := by
  have registered := recorded.registered ids known
  constructor
  · exact registered
  · exact fun title id => registered.lookup known
  · intro description options
    rcases createScenario_decides known description options with
      ⟨accepts, ran⟩ | ⟨cause, refuses, failed⟩
    · exact ⟨fun _ => accepts, fun _ => ⟨_, _, ran⟩⟩
    · refine ⟨fun ⟨id, next, ran⟩ => ?_, fun accepts => absurd accepts refuses.not_accepts⟩
      cases failed.symm.trans ran
  · intro description options i next stopped
    rcases createScenario_decides known description options with
      ⟨accepts, ran⟩ | ⟨cause, refuses, failed⟩
    · cases ran.symm.trans stopped
    · cases failed.symm.trans stopped
      exact ⟨rfl, cause, rfl, refuses⟩
  · intro description options id next created
    rcases createScenario_cases description options w
      with ⟨_, failed⟩ | ⟨others, there, untaken, ran⟩
    · cases failed.symm.trans created
    · obtain rfl : ids = others := Option.some.inj (known.symm.trans there)
      cases ran.symm.trans created
      exact ⟨registered.creates known untaken options, recorded.next (.create known untaken)⟩
  · refine ⟨?_, rfl, recorded.next (.clear known), fun description => ?_⟩
    · rw [clearScenarios, bind_ok (registry_found known)]
      rfl
    · exact ⟨fun accepts => ⟨accepts.named, accepts.triggers, accepts.constraints⟩,
        fun ⟨named, triggers, constraints⟩ =>
          ⟨named, List.forall_mem_nil _, triggers, constraints⟩⟩

/-- A description is refused while a scenario has it and accepted after that was removed. -/
def reopening : Program Unit :=
  .request (.createScenario "porch" ⟨none, false⟩) fun _ =>
    .request (.createScenario "porch" ⟨none, true⟩) fun _ =>
      .request (.createScenario " " ⟨none, false⟩) fun _ =>
        .request (.createScenario "hall" ⟨none, true⟩) fun _ =>
          .request .clearScenarios fun _ => .perform (.createScenario "porch" ⟨none, false⟩)

def reopenedHouse : World Unit := (run 2 reopening standardHouse).2

theorem creation_kept_reopened :
    reopenedHouse.titles = ["porch", "hall", "porch"] ∧ reopenedHouse.registry = some [2] ∧
      reopenedHouse.view.registered? "porch" = some 2 ∧
      ∃ ds, reopenedHouse.Recorded ds ∧ CreationKept ds reopenedHouse [2] := by
  have session : Session Rule.free true reopenedHouse :=
    standardHouse_session.run_ended reopening.within_free (by decide +kernel)
  have known : reopenedHouse.registry = some [2] := by decide +kernel
  obtain ⟨ds, recorded⟩ := session.recorded
  exact ⟨by decide +kernel, known, by decide +kernel, ds, recorded, creation_kept recorded known⟩

end Reflex
