import Mathlib.Data.List.Lattice
import Reflex.Proofs.Contributions
import Reflex.Proofs.Groups
import Reflex.Proofs.Phrases
import Reflex.Proofs.Wiring

/-! Calls of vocabulary names in a runtime with the components that come with the engine. A call
whose name is known and whose arguments can be read installs one trigger or adds one predicate,
which never fails when it is evaluated. Every other call is refused and changes nothing. -/
namespace Reflex
open Act Engine

variable {σ : Type}

/-- The argument at a place is a text. -/
def TextAt (arguments : List Value) (n : Nat) (s : String) : Prop := arguments[n]? = some (.text s)

/-- The argument at a place is this text, or is missing or null and stands for none. -/
def OptionalTextAt (arguments : List Value) (n : Nat) : Option String → Prop
  | none => arguments[n]? = none ∨ arguments[n]? = some .null
  | some s => TextAt arguments n s

/-- What a call with the name of a kind of trigger and these arguments stands for. -/
inductive TriggerKind.Means (arguments : List Value) : TriggerKind → Trigger → Prop
  | every {text : String} {s : Schedule} : TextAt arguments 0 text → Schedule.parse text = .ok s →
      Means arguments .every (.every s)
  | at {text : String} {time : TimeOfDay} : TextAt arguments 0 text →
      TimeOfDay.parse text = .ok time → Means arguments .at (.at time)
  | variableChanges {name : String} : TextAt arguments 0 name →
      Means arguments .variableChanges (.variableChanges name)
  | event {topic : String} : TextAt arguments 0 topic → Means arguments .event (.event topic)
  | deviceChanges {device : String} {feature : Option String} : TextAt arguments 0 device →
      OptionalTextAt arguments 1 feature →
      Means arguments .deviceChanges (.deviceChanges device feature)

/-- What a call with the name of a kind of condition and these arguments stands for. A value to
compare with that is missing is null. -/
inductive ConditionKind.Means (arguments : List Value) : ConditionKind → Condition → Prop
  | dayIs {days : DaySet} : DaySet.ofValue (valueArgument arguments 0) = .ok days →
      Means arguments .dayIs (.dayIs days)
  | timeBetween {first last : String} {start stop : TimeOfDay} : TextAt arguments 0 first →
      TextAt arguments 1 last → TimeOfDay.parse first = .ok start →
      TimeOfDay.parse last = .ok stop → Means arguments .timeBetween (.timeBetween ⟨start, stop⟩)
  | variableIs {name : String} : TextAt arguments 0 name →
      Means arguments .variableIs (.variableIs name (valueArgument arguments 1))
  | variableDefined {name : String} : TextAt arguments 0 name →
      Means arguments .variableDefined (.variableDefined name)
  | deviceIs {device feature : String} : TextAt arguments 0 device → TextAt arguments 1 feature →
      Means arguments .deviceIs (.deviceIs device feature (valueArgument arguments 2))

/-- Why a call is refused: its name is unknown, an argument is missing or of another type, or a text
cannot be read. -/
inductive Blames (kind : VocabularyKind) (name : String) (arguments : List Value) : Invalid → Prop
  | unknown : Blames kind name arguments (.unknown kind name)
  | argument : Blames kind name arguments (.arguments name "expected a string argument")
  | duration {n : Nat} {s : String} : TextAt arguments n s →
      Blames kind name arguments (.duration s)
  | time {n : Nat} {s : String} : TextAt arguments n s → Blames kind name arguments (.timeOfDay s)
  | day {text : String} : Blames kind name arguments (.day text)

/-- Arguments are read as what they mean, or refused because they mean nothing. -/
def Understood {τ : Type} (kind : VocabularyKind) (name : String) (arguments : List Value)
    (Means : τ → Prop) (outcome : Except Invalid τ) : Prop :=
  (∃ t, outcome = .ok t ∧ Means t) ∨
    ∃ cause, outcome = .error cause ∧ Blames kind name arguments cause ∧ ∀ t, ¬ Means t

/-! Reading arguments. -/

section Reading

variable {α τ : Type} {kind : VocabularyKind} {name : String} {arguments : List Value}

theorem TextAt.unique {n : Nat} {s s' : String} (there : TextAt arguments n s)
    (here : TextAt arguments n s') : s = s' :=
  Value.text.inj (Option.some.inj (there.symm.trans here))

namespace Understood

variable {Means : τ → Prop} {e : Except Invalid α}

theorem done {t : τ} (means : Means t) : Understood kind name arguments Means (.ok t) :=
  .inl ⟨t, rfl, means⟩

/-- What is read first is needed by all that the arguments can mean. -/
theorem bind {First : α → Prop} {f : α → Except Invalid τ}
    (first : Understood kind name arguments First e) (needed : ∀ t, Means t → ∃ a, First a)
    (next : ∀ a, First a → Understood kind name arguments Means (f a)) :
    Understood kind name arguments Means (e >>= f) := by
  rcases first with ⟨a, rfl, read⟩ | ⟨cause, rfl, blames, never⟩
  · exact next a read
  · refine .inr ⟨cause, rfl, blames, fun t means => ?_⟩
    obtain ⟨a, read⟩ := needed t means
    exact never a read

theorem of_blames (blames : ∀ cause, e = .error cause → Blames kind name arguments cause) :
    Understood kind name arguments (fun a => e = .ok a) e := by
  cases read : e with
  | ok a => exact done rfl
  | error cause =>
    refine .inr ⟨cause, rfl, blames cause read, ?_⟩
    rintro _ ⟨⟩

theorem text (kind : VocabularyKind) (name : String) (arguments : List Value) (n : Nat) :
    Understood kind name arguments (TextAt arguments n) (textArgument name arguments n) := by
  unfold textArgument
  split
  · rename_i there
    exact done there
  · rename_i none
    exact .inr ⟨_, rfl, .argument, none⟩

theorem optionalText (kind : VocabularyKind) (name : String) (arguments : List Value) (n : Nat) :
    Understood kind name arguments (OptionalTextAt arguments n)
      (TriggerKind.optionalText name arguments n) := by
  unfold TriggerKind.optionalText
  split
  · rename_i missing
    exact done (.inl missing)
  · rename_i null
    exact done (.inr null)
  · rename_i v notNull there
    rcases text kind name arguments n with ⟨s, read, there⟩ | ⟨cause, read, blames, never⟩
    · rw [read]
      exact done there
    · rw [read]
      refine .inr ⟨cause, rfl, blames, ?_⟩
      rintro (_ | s) here
      · rcases here with missing | null
        · cases there.symm.trans missing
        · exact notNull (Option.some.inj (there.symm.trans null))
      · exact never s here

theorem schedule {n : Nat} {text : String} (there : TextAt arguments n text) :
    Understood kind name arguments (fun s => Schedule.parse text = .ok s)
      (Schedule.parse text) := by
  refine of_blames fun cause refused => ?_
  cases Schedule.parse_error refused
  exact .duration there

theorem time {n : Nat} {text : String} (there : TextAt arguments n text) :
    Understood kind name arguments (fun t => TimeOfDay.parse text = .ok t)
      (TimeOfDay.parse text) := by
  refine of_blames fun cause refused => ?_
  unfold TimeOfDay.parse at refused
  split at refused
  · cases refused
  · cases refused
    exact .time there

theorem window {n m : Nat} {first last : String} (there : TextAt arguments n first)
    (next : TextAt arguments m last) :
    Understood kind name arguments
      (fun w => TimeOfDay.parse first = .ok w.first ∧ TimeOfDay.parse last = .ok w.last)
      (TimeWindow.parse first last) :=
  .bind (.time there) (fun _ both => ⟨_, both.1⟩) fun _ starts =>
    .bind (.time next) (fun _ both => ⟨_, both.2⟩) fun _ ends => .done ⟨starts, ends⟩

end Understood

theorem TriggerKind.Means.text {k : TriggerKind} {t : Trigger} (means : k.Means arguments t) :
    ∃ s, TextAt arguments 0 s := by
  cases means with
  | every there | «at» there | variableChanges there | event there | deviceChanges there =>
    exact ⟨_, there⟩

theorem TriggerKind.read_understood (k : TriggerKind) (arguments : List Value) :
    Understood .trigger k.name arguments (Means arguments k) (k.read arguments) := by
  cases k with
  | every =>
    refine .bind (.text ..) (fun _ => Means.text) fun text there =>
      .bind (.schedule there) ?_ fun s parsed => .done (.every there parsed)
    rintro t (⟨here, parsed⟩)
    cases there.unique here
    exact ⟨_, parsed⟩
  | «at» =>
    refine .bind (.text ..) (fun _ => Means.text) fun text there =>
      .bind (.time there) ?_ fun time parsed => .done (.at there parsed)
    rintro t (_ | ⟨here, parsed⟩)
    cases there.unique here
    exact ⟨_, parsed⟩
  | variableChanges =>
    exact .bind (.text ..) (fun _ => Means.text) fun name there => .done (.variableChanges there)
  | event => exact .bind (.text ..) (fun _ => Means.text) fun topic there => .done (.event there)
  | deviceChanges =>
    refine .bind (.text ..) (fun _ => Means.text) fun device there =>
      .bind (.optionalText ..) ?_ fun feature next => .done (.deviceChanges there next)
    rintro t (_ | _ | _ | _ | ⟨-, there⟩)
    exact ⟨_, there⟩

/-- A day that cannot be read is the only cause of a failure. -/
def Daily (outcome : Except Invalid α) : Prop :=
  ∀ cause, outcome = .error cause → ∃ text, cause = .day text

namespace Daily

theorem ok (a : α) : Daily (.ok a) := by
  rintro cause ⟨⟩

theorem error (text : String) : Daily (.error (.day text) : Except Invalid α) := by
  rintro cause ⟨⟩
  exact ⟨text, rfl⟩

theorem bind {e : Except Invalid α} {f : α → Except Invalid τ} (first : Daily e)
    (next : ∀ a, Daily (f a)) : Daily (e >>= f) := by
  cases e with
  | ok a => exact next a
  | error cause =>
    obtain ⟨text, rfl⟩ := first cause rfl
    exact error text

theorem day (text : String) : Daily (DaySet.parse text) := by
  unfold DaySet.parse
  split
  · exact ok _
  · exact error text

theorem days (all : DaySet) (names : List String) : Daily (DaySet.parseInto all names) := by
  induction names generalizing all with
  | nil => exact ok all
  | cons name rest ih => exact (day name).bind fun more => ih (all.union more)

theorem set (names : List String) : Daily (DaySet.parseAll names) := by
  refine (days .empty names).bind fun all => ?_
  split
  · exact error ""
  · exact ok all

theorem texts (items : List Value) : Daily (DaySet.texts items) := by
  induction items with
  | nil => exact ok []
  | cons item rest ih =>
    cases item with
    | text s => exact ih.bind fun names => ok (s :: names)
    | _ => exact error _

theorem value (v : Value) : Daily (DaySet.ofValue v) := by
  unfold DaySet.ofValue
  split
  · exact day _
  · exact (texts _).bind set
  · exact error _

end Daily

theorem ConditionKind.Means.text {k : ConditionKind} {q : Condition} (other : k ≠ .dayIs)
    (means : k.Means arguments q) : ∃ s, TextAt arguments 0 s := by
  cases means with
  | dayIs => exact absurd rfl other
  | timeBetween there | variableIs there | variableDefined there | deviceIs there =>
    exact ⟨_, there⟩

theorem ConditionKind.read_understood (k : ConditionKind) (arguments : List Value) :
    Understood .constraint k.name arguments (Means arguments k) (k.read arguments) := by
  have text : ∀ q, k ≠ .dayIs → Means arguments k q → ∃ s, TextAt arguments 0 s :=
    fun _ => Means.text
  cases k with
  | dayIs =>
    refine .bind (.of_blames fun cause refused => ?_) ?_ fun days read => .done (.dayIs read)
    · obtain ⟨text, rfl⟩ := Daily.value _ cause refused
      exact .day
    · rintro q (⟨read⟩)
      exact ⟨_, read⟩
  | timeBetween =>
    refine .bind (.text ..) (text · (by decide)) fun first there =>
      .bind (.text ..) ?_ fun last next => .bind (.window there next) ?_ fun window both =>
        .done (.timeBetween there next both.1 both.2)
    · rintro q (_ | ⟨-, there⟩)
      exact ⟨_, there⟩
    · rintro q (_ | ⟨here, also, starts, ends⟩)
      cases there.unique here
      cases next.unique also
      exact ⟨⟨_, _⟩, starts, ends⟩
  | variableIs =>
    exact .bind (.text ..) (text · (by decide)) fun name there => .done (.variableIs there)
  | variableDefined =>
    exact .bind (.text ..) (text · (by decide)) fun name there => .done (.variableDefined there)
  | deviceIs =>
    refine .bind (.text ..) (text · (by decide)) fun device there =>
      .bind (.text ..) ?_ fun feature next => .done (.deviceIs there next)
    rintro q (_ | _ | _ | _ | ⟨-, there⟩)
    exact ⟨_, there⟩

end Reading

/-! Names. -/

theorem TriggerKind.name_injective : TriggerKind.name.Injective := by
  intro k k' same
  cases k <;> cases k' <;> revert same <;> decide

theorem ConditionKind.name_injective : ConditionKind.name.Injective := by
  intro k k' same
  cases k <;> cases k' <;> revert same <;> decide

/-- The name stands for the kind that has it, and is unknown when no kind has it. -/
def Vocabulary.Resolves {κ φ : Type} (v : Vocabulary φ) (kind : VocabularyKind)
    (title : κ → String) (builtin : κ → φ) (name : String) : Prop :=
  (∃ k, title k = name ∧ (∀ k', title k' = name → k' = k) ∧
    v.resolve kind name = .ok (builtin k)) ∨
    (∀ k, title k ≠ name) ∧ v.resolve kind name = .error (.unknown kind name)

/-- In merged vocabularies the names of kinds stand for these kinds, and a name that no other
contribution has and no kind is unknown. -/
theorem Vocabulary.resolve_kinds {γ κ φ : Type} {kind : VocabularyKind} {title : κ → String}
    {builtin : κ → φ} {part : γ → Vocabulary φ} {all natives others : List γ} {v : Vocabulary φ}
    (merged : mergeAll kind empty (all.map part) = .ok v) (parts : all.Perm (natives ++ others))
    (native : ∀ c ∈ natives, ∀ e ∈ (part c).entries, ∃ k, e = (title k, builtin k))
    (distinct : title.Injective) (complete : ∀ k, ∃ c ∈ natives, title k ∈ (part c).names)
    {name : String} (free : ∀ c ∈ others, name ∉ (part c).names) :
    v.Resolves kind title builtin name := by
  have listed : ∀ e, e ∈ v.entries ↔ ∃ c ∈ natives ++ others, e ∈ (part c).entries := by
    intro e
    rw [mergeAll_ok merged, List.flatMap_map, ← List.mem_flatMap]
    exact (parts.flatMap_right _).mem_iff
  cases found : v.resolve kind name with
  | ok factory =>
    left
    obtain ⟨c, contributes, here⟩ := (listed _).mp (resolve_mem found)
    rcases List.mem_append.mp contributes with known | foreign
    · obtain ⟨k, same⟩ := native c known _ here
      obtain ⟨rfl, rfl⟩ := Prod.mk.inj same
      exact ⟨k, rfl, fun k' same => distinct same, found⟩
    · exact absurd (List.mem_map_of_mem here) (free c foreign)
  | error cause =>
    right
    unfold resolve at found
    split at found
    · cases found
    rename_i absent
    refine ⟨fun k same => get?_none_iff.mp absent ?_, by rw [resolve, absent]⟩
    obtain ⟨c, known, here⟩ := complete k
    obtain ⟨e, member, titled⟩ := List.mem_map.mp here
    have there := (listed e).mpr ⟨c, List.mem_append_left others known, member⟩
    exact List.mem_map.mpr ⟨e, there, titled.trans same⟩

theorem Vocabulary.mem_titled {κ φ : Type} {title : κ → String} {builtin : κ → φ}
    {kinds : List κ} {name : String} :
    name ∈ (ofList (kinds.map fun k => (title k, builtin k))).names ↔ name ∈ kinds.map title := by
  have names : called (kinds.map fun k => (title k, builtin k)) = kinds.map title := List.map_map
  rw [mem_named, names]

theorem Vocabulary.titled {κ φ : Type} {title : κ → String} {builtin : κ → φ} {kinds : List κ}
    {k : κ} (member : k ∈ kinds) :
    title k ∈ (ofList (kinds.map fun k => (title k, builtin k))).names :=
  mem_titled.mpr (List.mem_map_of_mem member)

theorem Vocabulary.apart_titled {κ φ : Type} {title : κ → String} (builtin : κ → φ)
    {groups : List (List κ)} (distinct : (groups.flatMap (·.map title)).Nodup) :
    Apart (groups.map fun kinds => ofList (kinds.map fun k => (title k, builtin k))) :=
  List.pairwise_map.mpr ((List.nodup_flatMap.mp distinct).2.imp fun disjoint _ here there =>
    disjoint (mem_titled.mp here) (mem_titled.mp there))

namespace Component

/-- The components that come with the engine, the one for devices included. -/
def supplied : List (Component σ) := standard ++ [devices]

theorem supplied_native : ∀ c ∈ (supplied : List (Component σ)), c.Native :=
  List.forall_mem_append.mpr
    ⟨standard_native, List.forall_mem_singleton.mpr (native_of_kinds ..)⟩

theorem supplied_triggers (k : TriggerKind) :
    ∃ c ∈ (supplied : List (Component σ)), k.name ∈ c.triggers.names := by
  cases k with
  | every => exact ⟨timer, .head _, Vocabulary.titled (.head _)⟩
  | «at» => exact ⟨timer, .head _, Vocabulary.titled (.tail _ (.head _))⟩
  | variableChanges => exact ⟨store, .tail _ (.head _), Vocabulary.titled (.head _)⟩
  | event => exact ⟨event, .tail _ (.tail _ (.head _)), Vocabulary.titled (.head _)⟩
  | deviceChanges =>
    exact ⟨devices, .tail _ (.tail _ (.tail _ (.head _))), Vocabulary.titled (.head _)⟩

theorem supplied_constraints (k : ConditionKind) :
    ∃ c ∈ (supplied : List (Component σ)), k.name ∈ c.constraints.names := by
  cases k with
  | dayIs => exact ⟨timer, .head _, Vocabulary.titled (.head _)⟩
  | timeBetween => exact ⟨timer, .head _, Vocabulary.titled (.tail _ (.head _))⟩
  | variableIs => exact ⟨store, .tail _ (.head _), Vocabulary.titled (.head _)⟩
  | variableDefined => exact ⟨store, .tail _ (.head _), Vocabulary.titled (.tail _ (.head _))⟩
  | deviceIs => exact ⟨devices, .tail _ (.tail _ (.tail _ (.head _))), Vocabulary.titled (.head _)⟩

theorem supplied_apart :
    Vocabulary.Apart ((supplied : List (Component σ)).map (·.triggers)) ∧
      Vocabulary.Apart ((supplied : List (Component σ)).map (·.constraints)) := by
  have triggers : ([[.every, .at], [.variableChanges], [.event], [.deviceChanges]].flatMap
      (·.map TriggerKind.name)).Nodup := by decide
  have constraints : ([[.dayIs, .timeBetween], [.variableIs, .variableDefined], [],
      [.deviceIs]].flatMap (·.map ConditionKind.name)).Nodup := by decide
  exact ⟨Vocabulary.apart_titled TriggerFactory.builtin triggers,
    Vocabulary.apart_titled ConstraintFactory.builtin constraints⟩

end Component

namespace World

/-- The components that come with the engine are there, in any order and with any others. -/
def Furnished (w : World σ) (others : List (Component σ)) : Prop :=
  w.components.Perm (Component.supplied ++ others)

/-- One subscription or one job is added for a trigger of a scenario, and recorded. -/
inductive Installs (w : World σ) (id : Nat) (t : Trigger) : World σ → Prop
  | listens {topic : String} : t.source = .inl topic → Installs w id t { w with
      bus := ⟨w.bus.next + 1, w.bus.subscriptions ++ [⟨w.bus.next, topic, .trigger t id⟩]⟩
      journal := .subscribed w.bus.next topic :: w.journal }
  | runs {s : Schedule} : t.source = .inr s → Installs w id t { w with
      agenda := { w.agenda with
        jobs := w.agenda.jobs ++ [⟨w.agenda.nextJob, s, .trigger t id⟩]
        nextJob := w.agenda.nextJob + 1 }
      journal := .jobRegistered w.agenda.nextJob s :: w.journal }

/-- One predicate is added at the end of an open block, and all else is as before. -/
structure Collects (w : World σ) (block : Nat) (p : Predicate σ) (next : World σ) : Prop where
  own : ∀ b, w.block? block = some b →
    next.block? block = some { b with predicates := b.predicates ++ [p] }
  others : ∀ n, n ≠ block → next.block? n = w.block? n
  numbers : next.blocks.map (·.id) = w.blocks.map (·.id)
  rest : next = { w with blocks := next.blocks }

/-- A call does what it means; or it means nothing, is refused for that, and changes nothing. -/
def Honours {τ : Type} (w : World σ) (kind : VocabularyKind) (name : String)
    (arguments : List Value) (Means : τ → Prop) (Puts : τ → World σ → Prop)
    (ran : Except Interrupt Unit × World σ) : Prop :=
  (∃ t next, Means t ∧ Puts t next ∧ ran = (.ok (), next)) ∨
    ∃ cause, Blames kind name arguments cause ∧ (∀ t, ¬ Means t) ∧
      ran = (.error (.failed (.invalid cause)), w)

/-- What calls come to by the names of the engine's components, and by names that are unknown. -/
structure CallsKept (w : World σ) (others : List (Component σ)) : Prop where
  merges : others = [] →
    (∃ v, w.triggerVocabulary = .ok v) ∧ ∃ v, w.constraintVocabulary = .ok v
  triggers : ∀ v, w.triggerVocabulary = .ok v → ∀ (call : Call σ) id name arguments,
    (∀ c ∈ others, name ∉ c.triggers.names) →
      w.Honours .trigger name arguments
        (fun t => ∃ k, TriggerKind.name k = name ∧ k.Means arguments t) (w.Installs id)
        (invokeTrigger call id name arguments w)
  constraints : ∀ v, w.constraintVocabulary = .ok v → ∀ (call : Call σ) block name arguments,
    (∀ c ∈ others, name ∉ c.constraints.names) →
      w.Honours .constraint name arguments
        (fun q => ∃ k, ConditionKind.name k = name ∧ k.Means arguments q)
        (fun q => w.Collects block (.condition q)) (invokeConstraint call block name arguments w)
  /-- Nothing can be called while two components have the same name for something. -/
  clashes : ∀ cause, (w.triggerVocabulary = .error cause → ∀ (call : Call σ) id name arguments,
      invokeTrigger call id name arguments w = (.error (.failed (.invalid cause)), w)) ∧
    (w.constraintVocabulary = .error cause → ∀ (call : Call σ) block name arguments,
      invokeConstraint call block name arguments w = (.error (.failed (.invalid cause)), w))
  /-- A predicate that was added answers whenever it is run, in any world. -/
  answers : ∀ (q : Condition) depth (later : World σ),
    exec (depth + 1) (Predicate.condition q).program later = (.ok (q.holds later.view), later)

variable {w : World σ} {others : List (Component σ)}

/-- Without other components no two names are the same, in whatever order they are merged. -/
theorem merges_alone {φ : Type} (kind : VocabularyKind) (part : Component σ → Vocabulary φ)
    (apart : Vocabulary.Apart (Component.supplied.map part)) (furnished : w.Furnished []) :
    ∃ v, Vocabulary.mergeAll kind .empty (w.components.map part) = .ok v := by
  rw [Furnished, List.append_nil] at furnished
  rcases Vocabulary.mergeAll_empty kind (w.components.map part)
    with ⟨-, merged⟩ | ⟨name, clashes, -⟩
  · exact merged
  · refine absurd ?_ clashes.not_apart
    exact ((furnished.map part).pairwise_iff fun disjoint => disjoint.symm).mpr apart

theorem Furnished.resolve_trigger (furnished : w.Furnished others)
    {v : Vocabulary (TriggerFactory σ)} (merged : w.triggerVocabulary = .ok v) {name : String}
    (free : ∀ c ∈ others, name ∉ c.triggers.names) :
    v.Resolves .trigger TriggerKind.name TriggerFactory.builtin name :=
  Vocabulary.resolve_kinds merged furnished
    (fun c known => (Component.supplied_native c known).triggers) TriggerKind.name_injective
    Component.supplied_triggers free

theorem Furnished.resolve_constraint (furnished : w.Furnished others)
    {v : Vocabulary (ConstraintFactory σ)} (merged : w.constraintVocabulary = .ok v) {name : String}
    (free : ∀ c ∈ others, name ∉ c.constraints.names) :
    v.Resolves .constraint ConditionKind.name ConstraintFactory.builtin name :=
  Vocabulary.resolve_kinds merged furnished
    (fun c known => (Component.supplied_native c known).constraints) ConditionKind.name_injective
    Component.supplied_constraints free

theorem installing_installs (w : World σ) (id : Nat) (t : Trigger) :
    w.Installs id t (w.installing id t) := by
  unfold installing
  cases source : t.source with
  | inl topic => exact .listens source
  | inr s => exact .runs source

theorem gathering_collects (w : World σ) (block : Nat) (p : Predicate σ) :
    w.Collects block p (w.gathering block p) where
  own b here := by rw [block?_gathering, here, Option.map_some, if_pos rfl]
  others n different := by
    rw [block?_gathering]
    simp [different]
  numbers := by
    rw [gathering, List.map_map]
    refine List.map_congr_left fun b _ => ?_
    dsimp only [Function.comp]
    split <;> rfl
  rest := rfl

end World

namespace Engine

variable {w : World σ} {others : List (Component σ)}

/-- What a call comes to when its name is looked up in merged vocabularies. -/
theorem lookup_honours {κ φ τ : Type} {kind : VocabularyKind} {title : κ → String}
    {builtin : κ → φ} {v : Vocabulary φ} {name : String} {arguments : List Value}
    {Means : κ → τ → Prop} {Puts : τ → World σ → Prop} {read : κ → Except Invalid τ}
    {put : τ → Act σ Unit} {f : φ → Act σ Unit}
    (resolved : v.Resolves kind title builtin name)
    (understood : ∀ k, Understood kind (title k) arguments (Means k) (read k))
    (follows : ∀ k, f (builtin k) = ofInvalid (read k) >>= put)
    (puts : ∀ t, ∃ next, put t w = (.ok (), next) ∧ Puts t next) :
    w.Honours kind name arguments (fun t => ∃ k, title k = name ∧ Means k t) Puts
      ((ofInvalid (v.resolve kind name) >>= f) w) := by
  rcases resolved with ⟨k, rfl, once, found⟩ | ⟨never, missing⟩
  · rw [found, bind_ok (ofInvalid_found _ w), follows]
    rcases understood k with ⟨t, ok, means⟩ | ⟨cause, refused, blames, none⟩
    · obtain ⟨next, ran, done⟩ := puts t
      refine .inl ⟨t, next, ⟨k, rfl, means⟩, done, ?_⟩
      rw [ok, bind_ok (ofInvalid_found _ w), ran]
    · refine .inr ⟨cause, blames, ?_, ?_⟩
      · rintro t ⟨k', same, means⟩
        obtain rfl := once k' same
        exact none t means
      · rw [refused]
        rfl
  · refine .inr ⟨_, .unknown, ?_, ?_⟩
    · rintro t ⟨k, same, -⟩
      exact never k same
    · rw [missing]
      rfl

/-- In a runtime with the engine's components, calls by their names or by unknown ones do what
they mean or nothing at all, and what is checked later never fails. -/
theorem calls_kept (furnished : w.Furnished others) : w.CallsKept others := by
  constructor
  · rintro rfl
    obtain ⟨triggers, constraints⟩ := @Component.supplied_apart σ
    exact ⟨World.merges_alone .trigger _ triggers furnished,
      World.merges_alone .constraint _ constraints furnished⟩
  · intro v merged call id name arguments free
    rw [invokeTrigger, bind_ok (get_run _), merged, bind_ok (ofInvalid_found _ w)]
    exact lookup_honours (furnished.resolve_trigger merged free)
      (fun k => k.read_understood arguments) (fun _ => rfl)
      fun t => ⟨_, installTrigger_run id t w, w.installing_installs id t⟩
  · intro v merged call block name arguments free
    rw [invokeConstraint, bind_ok (get_run _), merged, bind_ok (ofInvalid_found _ w)]
    exact lookup_honours (furnished.resolve_constraint merged free)
      (fun k => k.read_understood arguments) (fun _ => rfl)
      fun q => ⟨_, rfl, w.gathering_collects block (.condition q)⟩
  · intro cause
    constructor
    · intro clash call id name arguments
      rw [invokeTrigger, bind_ok (get_run _), clash]
      rfl
    · intro clash call block name arguments
      rw [invokeConstraint, bind_ok (get_run _), clash]
      rfl
  · intro q depth later
    rfl

/-- A component with a trigger of its own. -/
def sky : Component Unit where
  name := "sky"
  setup := .nothing
  triggers := .ofList [("sunset", .custom fun _ _ => .done true)]
  constraints := .empty

/-- A scenario with an open block, among components in an unusual order. -/
def skyHouse : World Unit :=
  (((World.start ⟨0⟩ [] ()).completed ([.devices, sky] ++ Component.standard)).creating []
    "calm" .default).drafting 0

/-- A window is refused as a whole when its second bound is no time of day. -/
theorem calls_kept_sky :
    skyHouse.Furnished [sky] ∧ skyHouse.CallsKept [sky] ∧
      ((invokeTrigger (exec 1) 0 "at" [.text "07:30"] skyHouse).2.agenda.jobs.map (·.schedule) =
        [Schedule.minutely]) ∧
      ((invokeConstraint (exec 1) 0 "day.is" [.text "Sun"] skyHouse).2.blocks.map
        (·.predicates.length) = [1]) ∧
      (invokeConstraint (exec 1) 0 "time.between" [.text "07:30", .text "24:10"] skyHouse).1.isOk =
        false := by
  have furnished : skyHouse.Furnished [sky] := List.perm_append_comm
  exact ⟨furnished, calls_kept furnished, by decide +kernel, by decide +kernel, by decide +kernel⟩

end Engine

end Reflex
