import Mathlib.Data.List.Forall2
import Reflex.Bootstrap
import Reflex.Proofs.Alterations
import Reflex.Proofs.Declaring

/-! What a declaration does, step by step, when all names it can use are built in: its calls
install triggers and collect predicates in order, up to the first call that is refused, and
its branches add entries to its scenario. -/
namespace Reflex
open Act Engine

variable {σ α β : Type}

/-- A call by the name of a kind of trigger, with arguments that say which trigger it is. -/
def NamedCall.Triggers (c : NamedCall) (t : Trigger) : Prop :=
  ∃ k : TriggerKind, k.name = c.name ∧ k.read c.arguments = .ok t

def NamedCall.Constrains (c : NamedCall) (q : Condition) : Prop :=
  ∃ k : ConditionKind, k.name = c.name ∧ k.read c.arguments = .ok q

/-- A component whose names are those of built-in kinds. -/
structure Component.Native (c : Component σ) : Prop where
  triggers : ∀ entry ∈ c.triggers.entries, ∃ k, entry = (TriggerKind.name k, .builtin k)
  constraints : ∀ entry ∈ c.constraints.entries, ∃ k, entry = (ConditionKind.name k, .builtin k)

/-- A scenario without its entries. -/
def Scenario.bare (s : Scenario σ) : Scenario σ := { s with entries := [] }

/-- An entry is what a branch describes: it does what the branch says, under a predicate for
each of its constraint calls, or without a group when it has no list of them. -/
structure Branch.Describes (b : Branch) (description : String) (e : Entry σ) : Prop where
  deed : ∃ d, deedOf b = .ok d ∧ e.callback = .deed description d
  group : Option.Rel (List.Forall₂ fun c p => ∃ q, NamedCall.Constrains c q ∧ p = .condition q)
    b.constraints e.group

theorem Component.native_of_kinds (name : String) (setup : Setup σ) (triggers : List TriggerKind)
    (constraints : List ConditionKind) :
    Component.Native ⟨name, setup, triggersOf triggers, constraintsOf constraints⟩ :=
  ⟨triggersOf_named triggers, constraintsOf_named constraints⟩

theorem Component.standard_native : ∀ c ∈ (standard : List (Component σ)), c.Native := by
  simp only [standard, List.forall_mem_cons]
  exact ⟨native_of_kinds .., native_of_kinds .., native_of_kinds .., List.forall_mem_nil _⟩

/-- The topic that a trigger listens on, unless it has a schedule. -/
def Trigger.topic? (t : Trigger) : Option String := t.source.getLeft?

def Trigger.schedule? (t : Trigger) : Option Schedule := t.source.getRight?

/-- Marks of the running of code that declarations and components bring. -/
def Mark.runsCode : Mark → Bool
  | delivered _ _ | jobStarted _ _ | timerStarted _ => true
  | passBegan _ | passEnded _ _ | entryRan _ _ => true
  | _ => false

namespace World

/-- The names that scenarios can use are those of built-in kinds. -/
def Native (w : World σ) : Prop := ∀ c ∈ w.components, c.Native

/-- A trigger is put where it listens. -/
def installing (id : Nat) (w : World σ) (t : Trigger) : World σ :=
  match t.source with
  | .inl topic => w.subscribing topic (.trigger t id)
  | .inr s => w.enlisting s (.trigger t id)

/-- A block for constraints of a scenario is opened. -/
def drafting (w : World σ) (id : Nat) : World σ :=
  { w with blocks := w.blocks ++ [⟨w.nextBlock, id, []⟩], nextBlock := w.nextBlock + 1 }

/-- A predicate is added at the end of an open block. -/
def collecting (block : Nat) (w : World σ) (q : Condition) : World σ :=
  { w with
    blocks := w.blocks.map fun b =>
      if b.id = block then { b with predicates := b.predicates ++ [.condition q] } else b }

/-- Entries are added to a scenario in order. -/
def furnishing (w : World σ) (id : Nat) (es : List (Entry σ)) : World σ :=
  w.modifyScenario id fun s => { s with entries := s.entries ++ es }

/-- Only the entries of scenarios and the open blocks are different. -/
inductive Furnishes (w : World σ) : World σ → Prop
  | intro {scenarios : List (Scenario σ)} {blocks : List (Block σ)} {nextBlock : Nat} :
      scenarios.map Scenario.bare = w.scenarios.map Scenario.bare →
      Furnishes w { w with scenarios, blocks, nextBlock }

/-- What listens on topics, in order. -/
def listening (w : World σ) : List (String × Reaction σ) :=
  w.bus.subscriptions.map fun s => (s.topic, s.handler)

/-- What is done on schedules, in order. -/
def scheduled (w : World σ) : List (Schedule × Reaction σ) :=
  w.agenda.jobs.map fun j => (j.schedule, j.task)

/-- Triggers were put where they listen, each for its scenario, and that is all. -/
structure Wired (w : World σ) (bindings : List (Trigger × Nat)) (w' : World σ) : Prop where
  rest : w' = { w with
    bus := w'.bus
    agenda := { w.agenda with jobs := w'.agenda.jobs, nextJob := w'.agenda.nextJob }
    journal := w'.journal }
  listening : w'.listening = w.listening ++
    bindings.filterMap fun b => b.1.topic?.map (·, .trigger b.1 b.2)
  scheduled : w'.scheduled = w.scheduled ++
    bindings.filterMap fun b => b.1.schedule?.map (·, .trigger b.1 b.2)
  quiet : w.Without Mark.runsCode w'

variable {w w' last : World σ}

namespace Wired

theorem refl (w : World σ) : w.Wired [] w :=
  ⟨rfl, (List.append_nil _).symm, (List.append_nil _).symm, .of_same rfl⟩

theorem trans {earlier later : List (Trigger × Nat)} (first : w.Wired earlier w')
    (rest : w'.Wired later last) : w.Wired (earlier ++ later) last where
  rest := by
    rw [rest.rest, first.rest]
  listening := by
    rw [rest.listening, first.listening, List.filterMap_append, List.append_assoc]
  scheduled := by
    rw [rest.scheduled, first.scheduled, List.filterMap_append, List.append_assoc]
  quiet := first.quiet.trans rest.quiet

theorem installing (id : Nat) (w : World σ) (t : Trigger) :
    w.Wired [(t, id)] (w.installing id t) := by
  unfold World.installing
  cases source : t.source with
  | inl topic =>
    have listens : t.topic? = some topic := by rw [Trigger.topic?, source]; rfl
    have untimed : t.schedule? = none := by rw [Trigger.schedule?, source]; rfl
    refine ⟨rfl, ?_, ?_, (Without.of_same rfl).trans (.marked _ rfl)⟩
    · simp [listens, World.listening, subscribing, World.marked, Bus.subscribe]
    · simp [untimed, World.scheduled, subscribing, World.marked]
  | inr s =>
    have deaf : t.topic? = none := by rw [Trigger.topic?, source]; rfl
    have timed : t.schedule? = some s := by rw [Trigger.schedule?, source]; rfl
    refine ⟨rfl, ?_, ?_, (Without.of_same rfl).trans (.marked _ rfl)⟩
    · simp [deaf, World.listening, enlisting, World.marked]
    · simp [timed, World.scheduled, enlisting, World.marked, Agenda.register]

theorem foldl (id : Nat) (ts : List Trigger) (w : World σ) :
    w.Wired (ts.map (·, id)) (ts.foldl (World.installing id) w) := by
  induction ts generalizing w with
  | nil => exact refl w
  | cons t rest ih => exact (installing id w t).trans (ih _)

theorem native {bindings : List (Trigger × Nat)} (wired : w.Wired bindings w')
    (native : w.Native) : w'.Native := by
  rw [wired.rest]
  exact native

end Wired

theorem Furnishes.trans (first : w.Furnishes w') (rest : w'.Furnishes last) :
    w.Furnishes last := by
  obtain ⟨before⟩ := first
  obtain ⟨after⟩ := rest
  exact .intro (after.trans before)

theorem Furnishes.native (furnishes : w.Furnishes w') (native : w.Native) : w'.Native := by
  cases furnishes
  exact native

theorem furnishing_bare (w : World σ) (id : Nat) (es : List (Entry σ)) :
    (w.furnishing id es).scenarios.map Scenario.bare = w.scenarios.map Scenario.bare :=
  w.modifyScenario_map _ id fun _ => rfl

theorem furnishing_nil (w : World σ) (id : Nat) : (w.furnishing id []).scenarios = w.scenarios := by
  have same : (fun s : Scenario σ => { s with entries := s.entries ++ [] }) = fun s => s := by
    funext s
    rw [List.append_nil]
  exact (congrArg (w.scenarios.modify id) same).trans (List.modify_id ..)

theorem furnishing_append {id : Nat} {es : List (Entry σ)}
    (added : w'.scenarios = (w.furnishing id es).scenarios) (fs : List (Entry σ)) :
    (w'.furnishing id fs).scenarios = (w.furnishing id (es ++ fs)).scenarios := by
  simp only [furnishing, modifyScenario] at added ⊢
  rw [added, List.modify_modify_eq]
  congr 1
  funext s
  simp

theorem Native.trigger (native : w.Native) {v : Vocabulary (TriggerFactory σ)}
    (merged : w.triggerVocabulary = .ok v) :
    ∀ entry ∈ v.entries, ∃ k, entry = (TriggerKind.name k, .builtin k) := by
  refine mergeAll_entries _ (by simp [Vocabulary.empty]) ?_ merged
  intro other member
  obtain ⟨c, known, rfl⟩ := List.mem_map.mp member
  exact (native c known).triggers

theorem Native.constraint (native : w.Native) {v : Vocabulary (ConstraintFactory σ)}
    (merged : w.constraintVocabulary = .ok v) :
    ∀ entry ∈ v.entries, ∃ k, entry = (ConditionKind.name k, .builtin k) := by
  refine mergeAll_entries _ (by simp [Vocabulary.empty]) ?_ merged
  intro other member
  obtain ⟨c, known, rfl⟩ := List.mem_map.mp member
  exact (native c known).constraints

end World

/-- The declaration's options can be read, and its scenario can be created with them. -/
structure Declaration.Creates (d : Declaration) (w : World σ) (options : Options)
    (ids : List Nat) : Prop where
  read : Options.ofValue d.options = .ok options
  known : w.registry = some ids
  created : createScenario d.description options w =
    (.ok w.scenarios.length, w.creating ids d.description options)

namespace Engine

variable {w : World σ}

/-- What follows a step that reads the world, and may fail there, happens only when it did
not. -/
theorem still_cases {x : Act σ α} (unchanged : (x w).2 = w) (f : α → Act σ β) :
    (∃ i, (x >>= f) w = (.error i, w)) ∨ ∃ a, x w = (.ok a, w) ∧ (x >>= f) w = f a w := by
  rcases ran : x w with ⟨outcome, next⟩
  rw [ran] at unchanged
  obtain rfl : next = w := unchanged
  cases outcome with
  | error i => exact .inl ⟨i, bind_error ran⟩
  | ok a => exact .inr ⟨a, rfl, bind_ok ran⟩

/-- What follows the resolution of a name gets a factory from the vocabulary. -/
theorem resolve_cases {φ : Type} (kind : VocabularyKind) (e : Except Invalid (Vocabulary φ))
    (name : String) (f : φ → Act σ β) (w : World σ) :
    (∃ i, (ofInvalid e >>= fun v => ofInvalid (v.resolve kind name) >>= f) w = (.error i, w)) ∨
      ∃ v factory, e = .ok v ∧ (name, factory) ∈ v.entries ∧
        (ofInvalid e >>= fun v => ofInvalid (v.resolve kind name) >>= f) w = f factory w := by
  rcases still_cases (ofInvalid_still e w) _ with refused | ⟨v, merged, ran⟩
  · exact .inl refused
  rw [ran]
  rcases still_cases (ofInvalid_still (v.resolve kind name) w) f with refused | ⟨g, resolved, ran⟩
  · exact .inl refused
  exact .inr ⟨v, g, ofInvalid_ok merged, resolve_mem (ofInvalid_ok resolved), ran⟩

/-- A call is refused and changes nothing, or does what it says. -/
def Obeys {τ : Type} (Means : NamedCall → τ → Prop) (put : World σ → τ → World σ)
    (step : NamedCall → Act σ Unit) (w : World σ) : Prop :=
  ∀ c, (∃ i, step c w = (.error i, w)) ∨ ∃ t, Means c t ∧ step c w = (.ok (), put w t)

/-- Calls do what they say in order, up to the first that is refused. -/
theorem calls_cases {τ : Type} {Means : NamedCall → τ → Prop} {put : World σ → τ → World σ}
    {step : NamedCall → Act σ Unit} {loop : List NamedCall → Act σ Unit}
    (nil : loop [] = pure ())
    (cons : ∀ c rest, loop (c :: rest) = (step c >>= fun _ => loop rest))
    (obeys : ∀ w : World σ, w.Native → Obeys Means put step w)
    (kept : ∀ (w : World σ) t, w.Native → (put w t).Native) (calls : List NamedCall)
    (native : w.Native) :
    (∃ ts, List.Forall₂ Means calls ts ∧ loop calls w = (.ok (), ts.foldl put w)) ∨
      ∃ done c rest ts i, calls = done ++ c :: rest ∧ List.Forall₂ Means done ts ∧
        loop calls w = (.error i, ts.foldl put w) := by
  induction calls generalizing w with
  | nil =>
    left
    exact ⟨[], .nil, by rw [nil]; rfl⟩
  | cons c rest ih =>
    rw [cons]
    rcases obeys w native c with ⟨i, refused⟩ | ⟨t, meant, ran⟩
    · right
      exact ⟨[], c, rest, [], i, rfl, .nil, bind_error refused⟩
    rw [bind_ok ran]
    rcases ih (kept w t native) with ⟨ts, all, ran⟩ | ⟨done, d, others, ts, i, rfl, some, ran⟩
    · left
      exact ⟨t :: ts, .cons meant all, ran⟩
    · right
      exact ⟨c :: done, d, others, t :: ts, i, rfl, .cons meant some, ran⟩

variable (call : Call σ)

/-! Triggers. -/

theorem installTrigger_run (id : Nat) (t : Trigger) (w : World σ) :
    installTrigger id t w = (.ok (), w.installing id t) := by
  unfold installTrigger World.installing
  cases t.source <;> rfl

theorem invokeTrigger_obeys (id : Nat) (native : w.Native) :
    Obeys NamedCall.Triggers (World.installing id)
      (fun c => invokeTrigger call id c.name c.arguments) w := by
  intro c
  dsimp only
  rw [invokeTrigger, bind_ok (get_run _)]
  rcases resolve_cases _ _ _ _ w with refused | ⟨v, factory, merged, member, ran⟩
  · exact .inl refused
  rw [ran]
  obtain ⟨k, same⟩ := native.trigger merged _ member
  obtain ⟨name, rfl⟩ := Prod.mk.inj same
  dsimp only
  rcases still_cases (ofInvalid_still _ w) _ with refused | ⟨t, read, ran⟩
  · exact .inl refused
  rw [ran]
  exact .inr ⟨t, ⟨k, name.symm, ofInvalid_ok read⟩, installTrigger_run id t w⟩

theorem invokeTriggers_cases (id : Nat) (calls : List NamedCall) (native : w.Native) :
    (∃ ts, List.Forall₂ NamedCall.Triggers calls ts ∧
      invokeTriggers call id calls w = (.ok (), ts.foldl (World.installing id) w)) ∨
      ∃ done c rest ts i, calls = done ++ c :: rest ∧ List.Forall₂ NamedCall.Triggers done ts ∧
        invokeTriggers call id calls w = (.error i, ts.foldl (World.installing id) w) :=
  calls_cases rfl (fun _ _ => rfl) (fun _ native => invokeTrigger_obeys call id native)
    (fun w t native => (World.Wired.installing id w t).native native) calls native

/-! Constraints. -/

theorem invokeConstraint_obeys (block : Nat) (native : w.Native) :
    Obeys NamedCall.Constrains (World.collecting block)
      (fun c => invokeConstraint call block c.name c.arguments) w := by
  intro c
  dsimp only
  rw [invokeConstraint, bind_ok (get_run _)]
  rcases resolve_cases _ _ _ _ w with refused | ⟨v, factory, merged, member, ran⟩
  · exact .inl refused
  rw [ran]
  obtain ⟨k, same⟩ := native.constraint merged _ member
  obtain ⟨name, rfl⟩ := Prod.mk.inj same
  dsimp only
  rcases still_cases (ofInvalid_still _ w) _ with refused | ⟨q, read, ran⟩
  · exact .inl refused
  rw [ran]
  exact .inr ⟨q, ⟨k, name.symm, ofInvalid_ok read⟩, rfl⟩

theorem invokeConstraints_cases (block : Nat) (calls : List NamedCall) (native : w.Native) :
    (∃ qs, List.Forall₂ NamedCall.Constrains calls qs ∧
      invokeConstraints call block calls w = (.ok (), qs.foldl (World.collecting block) w)) ∨
      ∃ done c rest qs i, calls = done ++ c :: rest ∧ List.Forall₂ NamedCall.Constrains done qs ∧
        invokeConstraints call block calls w = (.error i, qs.foldl (World.collecting block) w) :=
  calls_cases rfl (fun _ _ => rfl) (fun _ native => invokeConstraint_obeys call block native)
    (fun _ _ native => native) calls native

/-- Predicates go to the open blocks with the number. -/
theorem foldl_collecting (block : Nat) (qs : List Condition) (w : World σ) :
    qs.foldl (World.collecting block) w =
      { w with
        blocks := w.blocks.map fun b =>
          if b.id = block then { b with predicates := b.predicates ++ qs.map .condition }
          else b } := by
  induction qs generalizing w with
  | nil => simp
  | cons q rest ih =>
    rw [List.foldl_cons, ih, World.collecting, List.map_map]
    congr 2
    funext b
    dsimp only [Function.comp]
    by_cases here : b.id = block
    · simp [here]
    · simp [here]

/-! Branches. -/

theorem openBlock_cases (id : Nat) (w : World σ) :
    (∃ i, openBlock id w = (.error i, w)) ∨
      openBlock id w = (.ok w.nextBlock, w.drafting id) := by
  rw [openBlock]
  rcases still_cases (discard_still (registry_still w)) _ with refused | ⟨_, _, ran⟩
  · exact .inl refused
  rw [ran]
  rcases still_cases (discard_still (scenario_still id w)) _ with refused | ⟨_, _, ran⟩
  · exact .inl refused
  rw [ran, bind_ok (get_run _)]
  rcases still_cases (discard_still (ofInvalid_still w.constraintVocabulary w)) _
    with refused | ⟨_, _, ran⟩
  · exact .inl refused
  rw [ran]
  exact .inr rfl

theorem closeBlock_cases (id : Nat) (c : Callback σ) (w : World σ) :
    (∃ i, closeBlock id c w = (.error i, w)) ∨
      ∃ b, w.block? id = some b ∧ closeBlock id c w =
        (.ok (), { w with blocks := w.blocks.filter (·.id != id) }.extending b.scenario
          ⟨some b.predicates, c⟩) := by
  rw [closeBlock]
  rcases still_cases (block_still id w) _ with refused | ⟨b, found, ran⟩
  · exact .inl refused
  right
  rw [block, bind_ok (get_run _)] at found
  cases known : w.block? id with
  | none =>
    rw [known] at found
    cases found
  | some other =>
    rw [known] at found
    cases found
    exact ⟨b, rfl, ran⟩

theorem declareBranch_cases (id : Nat) (description : String) (b : Branch) (native : w.Native) :
    (∃ i next, declareBranch call id description b w = (.error i, next) ∧ w.Furnishes next) ∨
      ∃ next, declareBranch call id description b w = (.ok (), next) ∧ w.Furnishes next ∧
        (w.blocks = [] → next.blocks = [] ∧ ∃ e, b.Describes description e ∧
          next.scenarios = (w.furnishing id [e]).scenarios) := by
  rw [declareBranch]
  rcases still_cases (ofInvalid_still (deedOf b) w) _ with ⟨i, refused⟩ | ⟨d, read, ran⟩
  · exact .inl ⟨i, w, refused, .intro rfl⟩
  rw [ran]
  have deed := ofInvalid_ok read
  match given : b.constraints with
  | none =>
    right
    refine ⟨_, pushEntry_run _ _ _, .intro (w.furnishing_bare id _), fun none => ⟨none, ?_⟩⟩
    exact ⟨_, ⟨⟨d, deed, rfl⟩, given ▸ .none⟩, rfl⟩
  | some calls =>
    dsimp only
    rcases openBlock_cases id w with ⟨i, refused⟩ | opened
    · exact .inl ⟨i, w, bind_error refused, .intro rfl⟩
    rw [bind_ok opened]
    have native : (w.drafting id).Native := native
    rcases invokeConstraints_cases call w.nextBlock calls native
      with ⟨qs, all, collected⟩ | ⟨_, _, _, qs, i, _, _, refused⟩
    · rw [bind_ok (attempt_ok collected), foldl_collecting]
      dsimp only
      rcases closeBlock_cases w.nextBlock (.deed description d) _
        with ⟨i, refused⟩ | ⟨block, found, closed⟩
      · exact .inl ⟨i, _, refused, .intro rfl⟩
      right
      refine ⟨_, closed, .intro (World.furnishing_bare _ _ _), fun none => ?_⟩
      simp only [World.drafting, none, List.nil_append, List.map_cons, List.map_nil, if_true,
        World.block?, List.find?_cons, beq_self_eq_true, Option.some.injEq] at found
      subst found
      refine ⟨by simp [none, World.drafting, World.extending, World.modifyScenario], _,
        ⟨⟨d, deed, rfl⟩, ?_⟩, rfl⟩
      rw [given]
      exact .some (List.forall₂_map_right_iff.mpr (all.imp fun _ q meant => ⟨q, meant, rfl⟩))
    · left
      rw [foldl_collecting] at refused
      cases i with
      | failed cause =>
        rw [bind_ok (attempt_failed refused)]
        exact ⟨_, _, rfl, .intro rfl⟩
      | exhausted =>
        rw [bind_error (attempt_exhausted refused)]
        exact ⟨_, _, rfl, .intro rfl⟩

theorem declareBranches_cases (id : Nat) (description : String) (branches : List Branch)
    (native : w.Native) :
    (∃ i next, declareBranches call id description branches w = (.error i, next) ∧
      w.Furnishes next) ∨
      ∃ next, declareBranches call id description branches w = (.ok (), next) ∧ w.Furnishes next ∧
        (w.blocks = [] → next.blocks = [] ∧ ∃ es,
          List.Forall₂ (Branch.Describes · description) branches es ∧
            next.scenarios = (w.furnishing id es).scenarios) := by
  induction branches generalizing w with
  | nil =>
    right
    refine ⟨w, rfl, .intro rfl, fun none => ⟨none, [], .nil, ?_⟩⟩
    exact (w.furnishing_nil id).symm
  | cons b rest ih =>
    rw [declareBranches]
    rcases declareBranch_cases call id description b native
      with ⟨i, next, refused, furnishes⟩ | ⟨next, ran, furnishes, first⟩
    · exact .inl ⟨i, next, bind_error refused, furnishes⟩
    rw [bind_ok ran]
    rcases ih (furnishes.native native)
      with ⟨i, last, refused, more⟩ | ⟨last, ran, more, others⟩
    · exact .inl ⟨i, last, refused, furnishes.trans more⟩
    right
    refine ⟨last, ran, furnishes.trans more, fun none => ?_⟩
    obtain ⟨closed, e, described, added⟩ := first none
    obtain ⟨shut, es, all, rest⟩ := others closed
    exact ⟨shut, e :: es, .cons described all, rest.trans (World.furnishing_append added es)⟩

/-! Whole declarations. -/

/-- The rest of a declaration, once its scenario exists. -/
def equip (d : Declaration) (id : Nat) : Act σ Nat := do
  discard (openTriggers id)
  invokeTriggers call id d.triggers
  declareBranches call id d.description d.branches
  mark (.declared d.description d.triggers.length d.branches.length)
  return id

/-- A declaration is refused and changes nothing, or its scenario is created first. -/
theorem declare_begins (d : Declaration) (w : World σ) :
    ((∀ options ids, ¬ d.Creates w options ids) ∧ ∃ i, declare call d w = (.error i, w)) ∨
      ∃ options ids, d.Creates w options ids ∧ declare call d w =
        equip call d w.scenarios.length (w.creating ids d.description options) := by
  rw [declare]
  cases read : Options.ofValue d.options with
  | error cause =>
    left
    refine ⟨fun _ _ creates => ?_, _, bind_error rfl⟩
    cases creates.read.symm.trans read
  | ok options =>
  rw [bind_ok (ofInvalid_found options w)]
  rcases createScenario_cases d.description options w
    with ⟨cause, refused⟩ | ⟨ids, known, -, created⟩
  · left
    refine ⟨fun others ids creates => ?_, _, bind_error refused⟩
    obtain rfl : options = others := Except.ok.inj (read.symm.trans creates.read)
    cases creates.created.symm.trans refused
  · right
    exact ⟨options, ids, ⟨read, known, created⟩, bind_ok created⟩

/-- How a declaration can end, and what it leaves: nothing new when its scenario could not be
created; otherwise the scenario, with triggers for its first calls at least, and for all of
them when it succeeds. -/
inductive Declares (d : Declaration) (w : World σ) : Except Interrupt Nat → World σ → Prop
  | refused {i : Interrupt} : (∀ options ids, ¬ d.Creates w options ids) → Declares d w (.error i) w
  | stopped {i : Interrupt} {options : Options} {ids : List Nat} {done : List NamedCall}
      {ts : List Trigger} {wired next : World σ} : d.Creates w options ids →
      done <+: d.triggers → List.Forall₂ NamedCall.Triggers done ts →
      (w.creating ids d.description options).Wired (ts.map (·, w.scenarios.length)) wired →
      wired.Furnishes next → Declares d w (.error i) next
  | declared {options : Options} {ids : List Nat} {ts : List Trigger} {wired next : World σ} :
      d.Creates w options ids → List.Forall₂ NamedCall.Triggers d.triggers ts →
      (w.creating ids d.description options).Wired (ts.map (·, w.scenarios.length)) wired →
      wired.Furnishes next →
      (w.blocks = [] → next.blocks = [] ∧ ∃ es,
        List.Forall₂ (Branch.Describes · d.description) d.branches es ∧
          next.scenarios = (wired.furnishing w.scenarios.length es).scenarios) →
      Declares d w (.ok w.scenarios.length)
        (next.marked (.declared d.description d.triggers.length d.branches.length))

theorem openTriggers_still (id : Nat) (w : World σ) : (openTriggers id w).2 = w := by
  rw [openTriggers]
  rcases still_cases (discard_still (registry_still w)) _ with ⟨_, refused⟩ | ⟨_, _, ran⟩
  · rw [refused]
  rw [ran]
  rcases still_cases (discard_still (scenario_still id w)) _ with ⟨_, refused⟩ | ⟨_, _, ran⟩
  · rw [refused]
  rw [ran, bind_ok (get_run _)]
  rcases still_cases (ofInvalid_still w.triggerVocabulary w) _ with ⟨_, refused⟩ | ⟨_, _, ran⟩
  · rw [refused]
  rw [ran]
  rfl

theorem declare_cases (d : Declaration) (native : w.Native) :
    ∃ outcome next, declare call d w = (outcome, next) ∧ Declares d w outcome next := by
  rcases declare_begins call d w with ⟨never, i, refused⟩ | ⟨options, ids, creates, ran⟩
  · exact ⟨_, w, refused, .refused never⟩
  rw [ran, equip]
  have native : (w.creating ids d.description options).Native := native
  rcases still_cases (discard_still (openTriggers_still w.scenarios.length _)) _
    with ⟨i, refused⟩ | ⟨_, _, ran⟩
  · exact ⟨_, _, refused, .stopped creates List.nil_prefix .nil (.refl _) (.intro rfl)⟩
  rw [ran]
  rcases invokeTriggers_cases call w.scenarios.length d.triggers native
    with ⟨ts, all, ran⟩ | ⟨done, c, rest, ts, i, split, some, refused⟩
  · have wired := World.Wired.foldl w.scenarios.length ts (w.creating ids d.description options)
    rw [bind_ok ran]
    rcases declareBranches_cases call w.scenarios.length d.description d.branches
      (wired.native native) with ⟨i, next, refused, furnishes⟩ | ⟨next, ran, furnishes, complete⟩
    · refine ⟨_, next, bind_error refused, ?_⟩
      exact .stopped creates (List.prefix_refl _) all wired furnishes
    refine ⟨_, _, (bind_ok ran).trans (bind_ok (mark_run _ _)), ?_⟩
    refine .declared creates all wired furnishes fun none => complete ?_
    rw [wired.rest]
    exact none
  · have wired := World.Wired.foldl w.scenarios.length ts (w.creating ids d.description options)
    refine ⟨_, _, bind_error refused, ?_⟩
    have initial : done <+: d.triggers := split ▸ List.prefix_append _ _
    exact .stopped creates initial some wired (.intro rfl)

end Engine

end Reflex
