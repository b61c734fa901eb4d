import Reflex.Proofs.Evolution

/-! Which scenarios are runnable. The answer is kept in each record and decided again by
three operations, and it is always what test mode and registration say; a scenario that
was removed is never runnable again. -/
namespace Reflex
open Act Engine Evaluation

variable {σ : Type}

/-- What decides whether asserts of a scenario do anything. -/
def Scenario.mode (s : Scenario σ) : Bool × Bool := (s.testMode, s.runnable)

def Mark.beginsPass : Mark → Bool
  | passBegan _ => true
  | _ => false

/-- A pass over the scenario begins. -/
def Mark.begins (id : Nat) : Mark → Bool
  | passBegan n => n == id
  | _ => false

theorem Mark.begins_of_none {id : Nat} {m : Mark} (none : m.beginsPass = false) :
    m.begins id = false := by
  cases m <;> first | rfl | cases none

theorem Mark.beginsPass_of_passless {m : Mark} (none : m.isPass = false) :
    m.beginsPass = false := by
  cases m <;> first | rfl | cases none

namespace World

/-- The steps as far as modes and registration go. A pass begins over a runnable scenario. -/
inductive Remodes : World σ → World σ → Prop
  | still {w w' : World σ} : w'.registry = w.registry →
      w'.scenarios.map Scenario.mode = w.scenarios.map Scenario.mode →
      w.Without Mark.beginsPass w' → Remodes w w'
  | begin {w : World σ} {id : Nat} {s : Scenario σ} : w.Admits id s → Remodes w (begun id w)
  | create {w : World σ} {ids : List Nat} {description : String} {options : Options} :
      w.registry = some ids → Remodes w (w.creating ids description options)
  | test {w : World σ} {ids : List Nat} {id : Nat} {enabled : Bool} : w.registry = some ids →
      Remodes w (w.testing ids id enabled)
  | clear {w : World σ} {ids : List Nat} : w.registry = some ids → Remodes w (w.clearing ids)
  | drop {w : World σ} {withStore : Bool} : Remodes w (w.dropping withStore)

theorem suppressed_modes (id ran : Nat) (w : World σ) :
    (suppressed id ran w).scenarios.map Scenario.mode = w.scenarios.map Scenario.mode := by
  apply modifyScenario_map
  intro s
  split
  · split <;> rfl
  · rfl

theorem Evolves.remodes {rule : Rule} {w w' : World σ} (step : w.Evolves rule w') :
    w.Remodes w' := by
  have released : ∀ id, (released id w).scenarios.map Scenario.mode =
      w.scenarios.map Scenario.mode := fun id => modifyScenario_map _ w id fun _ => rfl
  cases step with
  | begin admits => exact .begin admits
  | conclude => exact .still rfl ((suppressed_modes _ _ _).trans (released _)) (.marked _ rfl)
  | stop => exact .still rfl (released _) (.marked _ rfl)
  | alter alters =>
    have quiet := alters.touches.passless.mono fun _ => Mark.beginsPass_of_passless
    cases alters.touches with
    | elsewhere same => exact .still same.registry (congrArg _ same.scenarios) quiet
    | subscribe | unsubscribe | expire => exact .still rfl rfl quiet
    | extend => exact .still rfl (modifyScenario_map _ w _ fun _ => rfl) quiet
    | create known => exact .create known
    | test known => exact .test known
    | clear known => exact .clear known
    | drop => exact .drop
    | @write name value ttl =>
      obtain ⟨_, _, _, shape⟩ := w.publishing_shape name value ttl
      exact .still (by rw [shape]) (by rw [shape]) quiet

variable {w w' : World σ} {ids : List Nat}

/-- Whoever has the same modes has a counterpart with them. -/
theorem mode_of_modes (same : w'.scenarios.map Scenario.mode = w.scenarios.map Scenario.mode)
    {id : Nat} {s' : Scenario σ} (found : w'.scenarios[id]? = some s') :
    ∃ s, w.scenarios[id]? = some s ∧ s'.testMode = s.testMode ∧ s'.runnable = s.runnable := by
  have modes := congrArg (·[id]?) same
  simp only [List.getElem?_map, found, Option.map_some] at modes
  obtain ⟨s, known, equal⟩ := Option.map_eq_some_iff.mp modes.symm
  exact ⟨s, known, congrArg Prod.fst equal.symm, congrArg Prod.snd equal.symm⟩

/-- None of the scenarios is in test mode. -/
def Open (w : World σ) (ids : List Nat) : Prop :=
  ∀ id ∈ ids, ∀ s, w.scenarios[id]? = some s → s.testMode = false

theorem isolating_iff : isolating w ids = false ↔ w.Open ids := by
  simp only [isolating, List.any_eq_false, Open]
  constructor
  · intro none id member s found
    simpa [found] using none id member
  · intro none id member
    cases found : w.scenarios[id]? with
    | none => simp
    | some s => simpa using none id member s found

theorem Open.of_modes (same : w'.scenarios.map Scenario.mode = w.scenarios.map Scenario.mode)
    (none : w.Open ids) : w'.Open ids := by
  intro id member s' found
  obtain ⟨s, known, equal, -⟩ := mode_of_modes same found
  rw [equal]
  exact none id member s known

theorem refreshing_at (w : World σ) (ids : List Nat) (id : Nat) :
    (w.refreshing ids).scenarios[id]? = (w.scenarios[id]?).map fun s =>
      if ids.contains id then { s with runnable := !isolating w ids || s.testMode } else s := by
  simp [refreshing, refreshed, List.getElem?_mapIdx]

theorem clearing_at (w : World σ) (ids : List Nat) (id : Nat) :
    (w.clearing ids).scenarios[id]? = (w.scenarios[id]?).map fun s =>
      if ids.contains id then { s with runnable := false } else s := by
  simp [clearing, List.getElem?_mapIdx]

theorem refreshing_open : (w.refreshing ids).Open ids ↔ w.Open ids := by
  constructor
  · intro none id member s found
    have refreshed := w.refreshing_at ids id
    rw [found, Option.map_some, if_pos (List.contains_iff_mem.mpr member)] at refreshed
    exact none id member { s with runnable := !isolating w ids || s.testMode } refreshed
  · intro none id member s found
    rw [refreshing_at] at found
    obtain ⟨t, known, rfl⟩ := Option.map_eq_some_iff.mp found
    rw [if_pos (List.contains_iff_mem.mpr member)]
    exact none id member t known

/-- Of the scenarios from a number on, those are runnable that are listed and not kept from
running by the test mode of others. -/
def Isolated (first : Nat) (ids : List Nat) (w : World σ) : Prop :=
  ∀ id s, first ≤ id → w.scenarios[id]? = some s →
    (s.runnable = true ↔ id ∈ ids ∧ (w.Open ids ∨ s.testMode = true))

variable {first : Nat}

/-- Deciding again is right about the listed scenarios, and leaves the others alone. -/
theorem refreshing_isolated
    (others : ∀ id s, first ≤ id → w.scenarios[id]? = some s → id ∉ ids → s.runnable = false) :
    (w.refreshing ids).Isolated first ids := by
  intro id s later found
  rw [refreshing_open]
  rw [refreshing_at] at found
  obtain ⟨t, known, rfl⟩ := Option.map_eq_some_iff.mp found
  by_cases member : id ∈ ids
  · simp [member, ← isolating_iff]
  · simp [member, others id t later known member]

namespace Isolated

theorem others (isolated : w.Isolated first ids) {id : Nat} {s : Scenario σ} (later : first ≤ id)
    (found : w.scenarios[id]? = some s) (unlisted : id ∉ ids) : s.runnable = false := by
  rw [Bool.eq_false_iff]
  intro runnable
  exact unlisted ((isolated id s later found).mp runnable).1

theorem of_modes (isolated : w.Isolated first ids)
    (same : w'.scenarios.map Scenario.mode = w.scenarios.map Scenario.mode) :
    w'.Isolated first ids := by
  intro id s' later found
  obtain ⟨s, known, testMode, runnable⟩ := mode_of_modes same found
  rw [testMode, runnable, isolated id s later known]
  have openly : w'.Open ids ↔ w.Open ids := ⟨.of_modes same.symm, .of_modes same⟩
  rw [openly]

theorem testing (isolated : w.Isolated first ids) (id : Nat) (enabled : Bool) :
    (w.testing ids id enabled).Isolated first ids := by
  apply refreshing_isolated
  intro n s later found unlisted
  rw [getElem?_modifyScenario] at found
  obtain ⟨t, known, rfl⟩ := Option.map_eq_some_iff.mp found
  have idle := isolated.others later known unlisted
  split
  · exact idle
  · exact idle

theorem creating (isolated : w.Isolated first ids) (description : String) (options : Options) :
    (w.creating ids description options).Isolated first (ids ++ [w.scenarios.length]) := by
  apply refreshing_isolated
  intro n s later found unlisted
  have elsewhere : n ∉ ids ∧ n ≠ w.scenarios.length := by simpa using unlisted
  have within : n < w.scenarios.length := by
    have bound := (List.getElem?_eq_some_iff.mp found).1
    rw [List.length_append, List.length_singleton] at bound
    omega
  rw [List.getElem?_append_left within] at found
  exact isolated.others later found elsewhere.1

theorem clearing (isolated : w.Isolated first ids) : (w.clearing ids).Isolated first [] := by
  intro id s later found
  rw [clearing_at] at found
  obtain ⟨t, known, rfl⟩ := Option.map_eq_some_iff.mp found
  by_cases member : id ∈ ids
  · simp [member]
  · simp [member, isolated.others later known member]

end Isolated

/-- While there is a runtime, the answers are those that its registry asks for. -/
def Consistent (first : Nat) (w : World σ) : Prop :=
  ∀ ids, w.registry = some ids → w.Isolated first ids

theorem Consistent.step (consistent : w.Consistent first) (step : w.Remodes w') :
    w'.Consistent first := by
  intro others known
  cases step with
  | still registry modes => exact (consistent others (registry ▸ known)).of_modes modes
  | begin admits => exact (consistent others known).of_modes (modifyScenario_map _ w _ fun _ => rfl)
  | create before =>
    obtain rfl := Option.some.inj known
    exact (consistent _ before).creating _ _
  | test before =>
    obtain rfl := Option.some.inj (before.symm.trans known)
    exact (consistent _ before).testing _ _
  | clear before =>
    obtain rfl := Option.some.inj known
    exact (consistent _ before).clearing
  | drop => cases known

theorem Becomes.consistent {rule : Rule} (becomes : w.Becomes rule w')
    (consistent : w.Consistent first) : w'.Consistent first := by
  induction becomes with
  | refl => exact consistent
  | tail _ step ih => exact ih.step step.remodes

/-! Removed scenarios. -/

/-- There was such a scenario. It is not runnable and, not being registered, will not be. -/
structure Retired (id : Nat) (w : World σ) : Prop where
  idle : ∃ s, w.scenarios[id]? = some s ∧ s.runnable = false
  unlisted : ∀ ids, w.registry = some ids → id ∉ ids

namespace Retired

variable {id : Nat}

theorem of_modes (retired : w.Retired id) (registry : w'.registry = w.registry)
    (same : w'.scenarios.map Scenario.mode = w.scenarios.map Scenario.mode) : w'.Retired id := by
  obtain ⟨s, found, idle⟩ := retired.idle
  obtain ⟨s', known, -, runnable⟩ := mode_of_modes same.symm found
  exact ⟨⟨s', known, runnable ▸ idle⟩, registry ▸ retired.unlisted⟩

theorem refreshing (retired : w.Retired id) (listed : w.registry = some ids) :
    (w.refreshing ids).Retired id := by
  obtain ⟨s, found, idle⟩ := retired.idle
  have unlisted : ids.contains id = false := by simpa using retired.unlisted ids listed
  have here : (w.refreshing ids).scenarios[id]? = some s := by
    rw [refreshing_at, found, unlisted]
    rfl
  exact ⟨⟨s, here, idle⟩, retired.unlisted⟩

theorem testing (retired : w.Retired id) (listed : w.registry = some ids) (n : Nat)
    (enabled : Bool) : (w.testing ids n enabled).Retired id := by
  obtain ⟨s, found, idle⟩ := retired.idle
  apply refreshing
  · constructor
    · rw [getElem?_modifyScenario, found]
      refine ⟨_, rfl, ?_⟩
      split
      · exact idle
      · exact idle
    · exact retired.unlisted
  · exact listed

theorem creating (retired : w.Retired id) (listed : w.registry = some ids) (description : String)
    (options : Options) : (w.creating ids description options).Retired id := by
  obtain ⟨s, found, idle⟩ := retired.idle
  have within : id < w.scenarios.length := (List.getElem?_eq_some_iff.mp found).1
  apply refreshing
  · constructor
    · exact ⟨s, (List.getElem?_append_left within).trans found, idle⟩
    · intro others known
      obtain rfl := Option.some.inj known
      have elsewhere : id ≠ w.scenarios.length := Nat.ne_of_lt within
      simpa [elsewhere] using retired.unlisted ids listed
  · rfl

theorem clearing (retired : w.Retired id) (ids : List Nat) : (w.clearing ids).Retired id := by
  obtain ⟨s, found, idle⟩ := retired.idle
  constructor
  · rw [clearing_at, found]
    refine ⟨_, rfl, ?_⟩
    split
    · rfl
    · exact idle
  · rintro others ⟨⟩
    exact List.not_mem_nil

theorem step (retired : w.Retired id) (step : w.Remodes w') : w'.Retired id := by
  cases step with
  | still registry modes => exact retired.of_modes registry modes
  | begin => exact retired.of_modes rfl (modifyScenario_map _ w _ fun _ => rfl)
  | create listed => exact retired.creating listed _ _
  | test listed => exact retired.testing listed _ _
  | clear => exact retired.clearing _
  | drop => exact ⟨retired.idle, fun _ none => nomatch none⟩

/-- A pass begins over a runnable scenario only. -/
theorem spared (retired : w.Retired id) (step : w.Remodes w') :
    w.Without (Mark.begins id) w' := by
  cases step with
  | still _ _ quiet => exact quiet.mono fun _ => Mark.begins_of_none
  | @begin other s admits =>
    have elsewhere : other ≠ id := by
      rintro rfl
      obtain ⟨t, found, idle⟩ := retired.idle
      obtain rfl := Option.some.inj (admits.found.symm.trans found)
      exact Bool.false_ne_true (idle.symm.trans admits.runnable)
    exact ⟨[.passBegan other], rfl, by simpa [Mark.begins] using elsewhere⟩
  | create | test | clear | drop => exact .of_same rfl

theorem leads {rule : Rule} (retired : w.Retired id) (leads : w.Leads rule w') :
    w'.Retired id ∧ w.Without (Mark.begins id) w' := by
  induction leads with
  | refl => exact ⟨retired, .of_same rfl⟩
  | code _ step ih =>
    obtain ⟨retired, spared⟩ := ih
    exact ⟨retired.step step.remodes, spared.trans (retired.spared step.remodes)⟩
  | build _ _ ih =>
    obtain ⟨retired, spared⟩ := ih
    constructor
    · constructor
      · exact retired.idle
      · rintro ids ⟨⟩
        exact List.not_mem_nil
    · exact spared.trans (.of_same rfl)

end Retired

end World

/-- What holds at a moment of the scenarios made since there were `first` of them. -/
structure IsolationKept (first : Nat) (w : World σ) : Prop where
  runnable : ∀ ids, w.registry = some ids → ∀ id s, first ≤ id → w.scenarios[id]? = some s →
    (s.runnable = true ↔ id ∈ ids ∧
      ((∀ n ∈ ids, ∀ t, w.scenarios[n]? = some t → t.testMode = false) ∨ s.testMode = true))
  removed : ∀ ids, w.registry = some ids → ∀ id, first ≤ id → id < w.scenarios.length →
    id ∉ ids → ∀ next, w.Leads Rule.free next →
      (∃ later, next.journal = later ++ w.journal ∧ .passBegan id ∉ later) ∧
        ∀ call payload, assert call id payload next = (.ok 0, next)

/-- Whatever code does, those of the scenarios made meanwhile are runnable that are
registered and that test mode does not keep from running. One that is not registered any
more makes no pass ever after. The scenarios of a runtime are those made since it was
built. -/
theorem isolation_kept {start w : World σ} (becomes : start.Becomes Rule.free w) :
    IsolationKept start.scenarios.length w := by
  have consistent : start.Consistent start.scenarios.length := by
    intro ids _ id s later found
    exact absurd (List.getElem?_eq_some_iff.mp found).1 (Nat.not_lt.mpr later)
  have isolated := becomes.consistent consistent
  apply IsolationKept.mk isolated
  intro ids known id later within unlisted next leads
  have found : w.scenarios[id]? = some w.scenarios[id] := List.getElem?_eq_getElem within
  have retired : w.Retired id := by
    constructor
    · exact ⟨_, found, (isolated ids known).others later found unlisted⟩
    · intro others same
      obtain rfl := Option.some.inj (known.symm.trans same)
      exact unlisted
  obtain ⟨stays, journal, goes, spared⟩ := retired.leads leads
  constructor
  · refine ⟨journal, goes, ?_⟩
    intro member
    simpa [Mark.begins] using spared _ member
  · intro call payload
    obtain ⟨s, here, idle⟩ := stays.idle
    exact assert_unrunnable call id payload here idle

/-- Two scenarios, one made for testing, leave and are replaced; the one that was being
tested returns under its old description, and its old number is told to be tested again. -/
def rehearsal : Program Unit :=
  .request (.createScenario "scene" ⟨none, true⟩) fun _ =>
    .request (.createScenario "interval" ⟨none, false⟩) fun _ =>
      .request (.assert 1 none) fun _ => .request (.setTestMode 0 false) fun _ =>
        .request (.assert 1 none) fun _ => .request .clearScenarios fun _ =>
          .request (.createScenario "scene" ⟨none, false⟩) fun _ =>
            .request (.createScenario "scene" ⟨none, true⟩) fun _ =>
              .request (.setTestMode 0 true) fun _ => .request (.assert 0 none) fun _ =>
                .perform (.assert 2 none)

def houseWorld : World Unit := (World.start ⟨0⟩ [] ()).completed []

def rehearsedWorld : World Unit := (run 2 rehearsal houseWorld).2

theorem house_rehearsed : houseWorld.Becomes Rule.free rehearsedWorld := by
  have lodges : houseWorld.Lodges Rule.free :=
    (World.start_lodges ⟨0⟩ [] ()).completed fun _ none => nomatch none
  exact run_becomes Rule.free_open rehearsal.within_free lodges rfl

theorem isolation_kept_rehearsal :
    buildIn 1 [] (.start ⟨0⟩ [] ()) = (.ok (), houseWorld) ∧
      houseWorld.Becomes Rule.free rehearsedWorld ∧ houseWorld.scenarios.length = 0 ∧
      rehearsedWorld.registry = some [2] ∧
      rehearsedWorld.scenarios.map Scenario.mode =
        [(true, false), (false, false), (false, true)] ∧
      IsolationKept 0 rehearsedWorld :=
  ⟨rfl, house_rehearsed, rfl, by decide +kernel, by decide +kernel,
    isolation_kept house_rehearsed⟩

end Reflex
