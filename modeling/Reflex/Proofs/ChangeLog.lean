import Mathlib.Data.String.Basic
import Reflex.Proofs.Subscriptions
import Reflex.Proofs.Variables

/-! The events that the variable store publishes, as a log of the store. Each write and each
end of a lifetime is published once and at once, before any code runs, so whatever the
subscribers do, the log tells what every variable holds and what it held before. -/
namespace Reflex
open Act Engine Evaluation History

variable {σ : Type}

/-- Marks of changes of variables. -/
def Mark.isStore : Mark → Bool
  | written _ | expired _ => true
  | _ => false

namespace History

/-- The changes of variables, with the new values, the latest first. -/
def changes (J : History) : List (String × Value) := J.filterMap fun
  | .written x => some (x.name, x.value)
  | .expired name => some (name, .null)
  | _ => none

/-- What goes out on a topic right after a mark of some kind. -/
def publication? (topic : String) (kind : Mark → Bool) : Mark → History → Option Value
  | .emitted other [event], cause :: _ =>
    if other = topic ∧ kind cause = true then some event else none
  | _, _ => none

/-- What goes out on a topic right after marks of some kind, the latest first. -/
def publications (topic : String) (kind : Mark → Bool) : History → List Value
  | [] => []
  | m :: earlier => (publication? topic kind m earlier).toList ++ publications topic kind earlier

/-- The latest mark is not of the kind. -/
def Published (kind : Mark → Bool) (J : History) : Prop := ∀ m ∈ J.head?, kind m = false

/-- The events that the store has published, the latest first. -/
def events (J : History) : List Value := publications variableTopic Mark.isStore J

/-- The value that the latest event of a variable tells, null without one. -/
def lastValue (name : String) (events : List Value) : Value :=
  match events.find? fun event => Trigger.isText (event.member "name") name with
  | some event => event.member "value"
  | none => .null

variable {topic : String} {kind : Mark → Bool} {J later : History}

theorem publication?_published (m : Mark) (published : Published kind J) :
    publication? topic kind m J = none := by
  unfold publication?
  split
  · rename_i other event cause earlier
    rw [if_neg]
    rintro ⟨-, causes⟩
    rw [published cause rfl] at causes
    cases causes
  · rfl

theorem publications_append (topic : String) (published : Published kind J)
    (quiet : ∀ m ∈ later, kind m = false) :
    Published kind (later ++ J) ∧
      publications topic kind (later ++ J) = publications topic kind J := by
  induction later with
  | nil => exact ⟨published, rfl⟩
  | cons m rest ih =>
    obtain ⟨first, others⟩ := List.forall_mem_cons.mp quiet
    obtain ⟨before, same⟩ := ih others
    constructor
    · rintro _ ⟨rfl⟩
      exact first
    · rw [List.cons_append, publications, publication?_published m before, same]
      rfl

/-- A mark of the kind and what goes out after it. -/
theorem publications_follow {cause : Mark} (event : Value) (causes : kind cause = true)
    (published : Published kind J) :
    publications topic kind (.emitted topic [event] :: cause :: J) =
      event :: publications topic kind J := by
  have waits : publication? topic kind cause J = none := publication?_published cause published
  rw [publications, publications, waits, publication?, if_pos ⟨rfl, causes⟩]
  rfl

theorem events_append (published : Published Mark.isStore J)
    (quiet : ∀ m ∈ later, m.isStore = false) :
    Published Mark.isStore (later ++ J) ∧ events (later ++ J) = events J :=
  publications_append variableTopic published quiet

theorem changes_append (quiet : ∀ m ∈ later, m.isStore = false) :
    changes (later ++ J) = changes J := by
  refine append_of_silent ?_ quiet
  intro m J first
  cases m <;> first | rfl | cases first

/-- A change and its publication add an event. -/
theorem events_published {change : Mark} (event : Value) (store : change.isStore = true)
    (published : Published Mark.isStore J) :
    events (.emitted variableTopic [event] :: change :: J) = event :: events J :=
  publications_follow event store published

theorem lastValue_cons (name other : String) (value previous : Value) (events : List Value) :
    lastValue name (variableChange other value previous :: events) =
      if other = name then value else lastValue name events := by
  have told : Trigger.isText ((variableChange other value previous).member "name") name =
      (other == name) := rfl
  unfold lastValue
  rw [List.find?_cons, told]
  by_cases same : other = name
  · simp only [same, beq_self_eq_true, if_true]
    rfl
  · have missed : (other == name) = false := by simpa using same
    simp only [missed, if_neg same]

end History

/-! The log along a history. -/

/-- The steps as far as the store goes. -/
inductive World.Stores : World σ → World σ → Prop
  | still {w w' : World σ} : w'.slots = w.slots → w.Without Mark.isStore w' → Stores w w'
  | write {w : World σ} {name : String} {value : Value} {ttl : Option Span} :
      Stores w (w.publishing name value ttl)
  | expire {w : World σ} {name : String} : Stores w (w.resetting name)

theorem Mark.isStore_of_other {m : Mark} (other : m.isKey = false) : m.isStore = false := by
  cases m <;> first | rfl | cases other

theorem World.Evolves.stores {rule : Rule} {w w' : World σ} (step : w.Evolves rule w') :
    w.Stores w' := by
  cases step with
  | begin | conclude | stop => exact .still rfl (.marked _ rfl)
  | alter alters =>
    cases alters.touches with
    | elsewhere same => exact .still same.slots (same.journal.mono fun _ => Mark.isStore_of_other)
    | subscribe | unsubscribe => exact .still rfl (.marked _ rfl)
    | extend | create | test | clear | drop => exact .still rfl (.of_same rfl)
    | write => exact .write
    | expire => exact .expire

/-- A change of a variable with its publication, as the log and the store see it. -/
structure World.Logs (w : World σ) (name : String) (value : Value) (w' : World σ) : Prop where
  slots : ∃ expiry, w'.slots = Table.put name ⟨value, expiry⟩ w.slots
  journal : ∃ change marks, w'.journal =
      .emitted variableTopic [variableChange name value (w.value name)] :: change ::
        (marks ++ w.journal) ∧
    change.isStore = true ∧ changes [change] = [(name, value)] ∧ ∀ m ∈ marks, m.isStore = false

theorem World.publishing_logs (w : World σ) (name : String) (value : Value) (ttl : Option Span) :
    w.Logs name value (w.publishing name value ttl) := by
  constructor
  · obtain ⟨expiry, agenda, journal, shape⟩ := w.publishing_shape name value ttl
    rw [shape]
    exact ⟨expiry, rfl⟩
  · obtain ⟨x, rfl, rfl, -, -, wrote⟩ := w.writing_wrote name value ttl
    obtain ⟨marks, journal, arming, -⟩ := wrote.journal
    refine ⟨.written x, marks, congrArg _ journal, rfl, rfl, fun m member => ?_⟩
    have quiet := arming m member
    cases m <;> first | rfl | cases quiet

theorem World.resetting_logs (w : World σ) (name : String) :
    w.Logs name .null (w.resetting name) where
  slots := ⟨none, rfl⟩
  journal := ⟨.expired name, [], rfl, rfl, rfl, by simp⟩

/-- What the log tells of the store. -/
structure Logged (w : World σ) : Prop where
  ordered : Table.Ordered w.slots
  published : Published Mark.isStore w.journal
  once : (events w.journal).map (fun event => (event.member "name", event.member "value")) =
    (changes w.journal).map fun x => (.text x.1, x.2)
  chain : ∀ later event earlier name, events w.journal = later ++ event :: earlier →
    event.member "name" = .text name → event.member "previous" = lastValue name earlier
  value : ∀ name, w.value name = lastValue name (events w.journal)

namespace Logged

variable {w w' : World σ}

theorem start (clock : Instant) (devices : List Device) (memory : σ) :
    Logged (.start clock devices memory) where
  ordered := .nil
  published _ none := nomatch none
  once := rfl
  chain later _ _ _ split := by cases later <;> cases split
  value _ := rfl

theorem still (logged : Logged w) (slots : w'.slots = w.slots)
    (quiet : w.Without Mark.isStore w') : Logged w' := by
  obtain ⟨later, journal, quiet⟩ := quiet
  obtain ⟨published, same⟩ := events_append logged.published quiet
  constructor
  · rw [slots]
    exact logged.ordered
  · rw [journal]
    exact published
  · rw [journal, same, changes_append quiet]
    exact logged.once
  · rw [journal, same]
    exact logged.chain
  · intro name
    rw [journal, same, ← logged.value name, World.value, slots, World.value]

theorem events_log (logged : Logged w) {name : String} {value : Value}
    (logs : w.Logs name value w') :
    events w'.journal = variableChange name value (w.value name) :: events w.journal := by
  obtain ⟨change, marks, journal, store, -, quiet⟩ := logs.journal
  obtain ⟨published, same⟩ := events_append logged.published quiet
  rw [journal, events_published _ store published, same]

theorem log (logged : Logged w) {name : String} {value : Value} (logs : w.Logs name value w') :
    Logged w' := by
  have told := logged.events_log logs
  obtain ⟨expiry, slots⟩ := logs.slots
  obtain ⟨change, marks, journal, store, changed, quiet⟩ := logs.journal
  constructor
  · rw [slots]
    exact logged.ordered.put name _
  · rw [journal]
    rintro _ ⟨rfl⟩
    rfl
  · have apart : changes w'.journal = changes [change] ++ changes (marks ++ w.journal) := by
      rw [journal]
      change changes ([change] ++ (marks ++ w.journal)) = _
      exact List.filterMap_append
    rw [changed, changes_append quiet, List.singleton_append] at apart
    rw [told, apart, List.map_cons, List.map_cons, logged.once]
    rfl
  · intro later event earlier other split named
    rw [told] at split
    cases later with
    | nil =>
      obtain ⟨rfl, rfl⟩ := List.cons.inj split
      obtain rfl : name = other := by
        injection named
      exact logged.value name
    | cons first later =>
      exact logged.chain later event earlier other (List.cons.inj split).2 named
  · intro other
    rw [told, lastValue_cons, World.value, slots, Table.find?_put]
    by_cases same : name = other
    · rw [if_pos same, if_pos same]
    · rw [if_neg same, if_neg same]
      exact logged.value other

theorem store (logged : Logged w) (stores : w.Stores w') : Logged w' := by
  cases stores with
  | still slots quiet => exact logged.still slots quiet
  | write => exact logged.log (w.publishing_logs _ _ _)
  | expire => exact logged.log (w.resetting_logs _)

end Logged

theorem World.Arises.logged {rule : Rule} {w : World σ} (arises : w.Arises rule) : Logged w :=
  arises.invariant .start (fun _ logged step => logged.store step.stores)
    fun _ logged => logged.still rfl (.of_same rfl)

/-- Events stay in the log. -/
theorem World.Becomes.events {rule : Rule} {w w' : World σ} (logged : Logged w)
    (becomes : w.Becomes rule w') :
    Logged w' ∧ ∃ later, events w'.journal = later ++ events w.journal := by
  induction becomes with
  | refl => exact ⟨logged, [], rfl⟩
  | tail _ step ih =>
    obtain ⟨logged, later, extended⟩ := ih
    refine ⟨logged.store step.stores, ?_⟩
    cases step.stores with
    | still _ quiet =>
      obtain ⟨marks, journal, quiet⟩ := quiet
      exact ⟨later, by rw [journal, (events_append logged.published quiet).2, extended]⟩
    | write => exact ⟨_ :: later, by
        rw [logged.events_log (World.publishing_logs _ _ _ _), extended, List.cons_append]⟩
    | expire => exact ⟨_ :: later, by
        rw [logged.events_log (World.resetting_logs _ _), extended, List.cons_append]⟩

theorem Value.isNull_iff (v : Value) : v.isNull = true ↔ v = .null := by
  cases v <;> simp [isNull]

theorem Logged.mem_names {w : World σ} (logged : Logged w) (name : String) :
    name ∈ w.variableNames ↔ w.value name ≠ .null := by
  have held : name ∈ w.variableNames ↔
      ∃ slot, Table.find? name w.slots = some slot ∧ slot.value ≠ .null := by
    simp only [World.variableNames, List.mem_map, List.mem_filter, Bool.not_eq_true',
      ← Bool.not_eq_true, Value.isNull_iff]
    constructor
    · rintro ⟨⟨key, slot⟩, ⟨member, present⟩, rfl⟩
      exact ⟨slot, (logged.ordered.mem_iff key slot).mp member, present⟩
    · rintro ⟨slot, found, present⟩
      exact ⟨(name, slot), ⟨(logged.ordered.mem_iff name slot).mpr found, present⟩, rfl⟩
  rw [held, World.value]
  cases Table.find? name w.slots with
  | none => simp
  | some slot => simp

/-- What the log is at a moment of a history, and what a write does to it, whether or not one
of its subscribers fails. -/
structure LogKept (w : World σ) : Prop where
  once : (events w.journal).map (fun event => (event.member "name", event.member "value")) =
    (changes w.journal).map fun x => (.text x.1, x.2)
  chain : ∀ later event earlier name, events w.journal = later ++ event :: earlier →
    event.member "name" = .text name → event.member "previous" = lastValue name earlier
  value : ∀ name, w.value name = lastValue name (events w.journal)
  sorted : w.variableNames.Pairwise (· < ·)
  names : ∀ name, name ∈ w.variableNames ↔ lastValue name (events w.journal) ≠ .null
  writes : ∀ (call : Call σ) name value ttl,
    Dispatch call [variableChange name value (w.value name)] (w.bus.subscribers variableTopic)
      (w.publishing name value ttl) (setVariable call name value ttl w)
  stays : ∀ depth name value ttl outcome next,
    setVariable (exec depth) name value ttl w = (outcome, next) → next.Arises Rule.free ∧
      ∃ later, events next.journal =
        later ++ variableChange name value (w.value name) :: events w.journal

/-- At every moment of every history at which no write waits for its publication. -/
theorem log_kept {w : World σ} (arises : w.Arises Rule.free) : LogKept w := by
  have logged := arises.logged
  constructor
  · exact logged.once
  · exact logged.chain
  · exact logged.value
  · exact logged.ordered.sublist (List.filter_sublist.map Prod.fst)
  · intro name
    rw [logged.mem_names, logged.value]
  · intro call name value ttl
    obtain ⟨expiry, agenda, journal, shape⟩ := w.publishing_shape name value ttl
    have bus : (w.publishing name value ttl).bus = w.bus := by rw [shape]
    rw [setVariable_run, publishVariable, emit_run, ← bus]
    exact deliver_dispatch call _ _ _
  · intro depth name value ttl outcome next ran
    have becomes := setVariable_becomes Rule.free_open arises.lodges ran
    have wrote : w.Becomes Rule.free (w.publishing name value ttl) :=
      .single (.alter .write)
    have logs := w.publishing_logs name value ttl
    obtain ⟨-, later, extended⟩ := becomes.events (logged.log logs)
    refine ⟨arises.leads (World.Becomes.leads (wrote.trans becomes)), later, ?_⟩
    rw [extended, logged.events_log logs]

/-- Whoever hears of the first change writes another variable and fails; the first one has
a lifetime that ends in a tick. -/
def ledger : Program Unit :=
  .subscribe variableTopic (fun _ => .look fun v =>
    if (v.value "b").isNull then
      .request (.set "b" (.int 1) none) fun _ => .fail .dropped
    else .done true) fun _ =>
    .request (.set "a" (.int 5) (some (.ofSeconds 1))) fun _ =>
      .request (.setClock ⟨1000000000⟩) fun _ => .perform .tick

def ledgerWorld : World Unit := (run 4 ledger (.start ⟨0⟩ [] ())).2

theorem ledger_session : Session Rule.free true ledgerWorld :=
  .run_ended (.start ⟨0⟩ [] ()) ledger.within_free (by decide +kernel)

theorem log_kept_ledger :
    ledgerWorld.Arises Rule.free ∧
      (changes ledgerWorld.journal).map Prod.fst = ["a", "b", "a"] ∧
      ledgerWorld.variableNames = ["b"] ∧ LogKept ledgerWorld :=
  ⟨ledger_session.arises Rule.free_open, by decide +kernel, by decide +kernel,
    log_kept (ledger_session.arises Rule.free_open)⟩

end Reflex
