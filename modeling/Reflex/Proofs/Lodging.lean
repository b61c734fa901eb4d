import Reflex.Engine.Run

/-! Code that keeps to a rule about its requests. Such code leaves only such code behind, in
subscriptions, jobs, timers, entries and blocks, so a rule can be imposed on a whole
history at its entrances. -/
namespace Reflex

variable {σ : Type}

/-- Which requests code may make. -/
abbrev Rule := ∀ r : Reply, Request r → Prop

/-- The rule that forbids nothing. -/
def Rule.free : Rule := fun _ _ => True

/-- The requests that the engine's own reactions and deeds make are allowed. -/
structure Rule.Open (rule : Rule) : Prop where
  assert (scenario : Nat) (payload : Option Value) : rule _ (.assert scenario payload)
  setFeature (device feature : String) (value : Value) : rule _ (.setFeature device feature value)
  emit (topic : String) (arguments : List Value) : rule _ (.emit topic arguments)
  set (name : String) (value : Value) (ttl : Option Span) : rule _ (.set name value ttl)

theorem Rule.free_open : Rule.free.Open :=
  ⟨fun _ _ => trivial, fun _ _ _ => trivial, fun _ _ => trivial, fun _ _ _ => trivial⟩

/-- The program and all code that it leaves behind make only requests that the rule allows. -/
def Program.Within (rule : Rule) : Program σ → Prop
  | done _ => True
  | fail _ => True
  | look next => ∀ v, (next v).Within rule
  | load next => ∀ memory, (next memory).Within rule
  | save _ next => next.Within rule
  | note _ next => next.Within rule
  | request q next => rule _ q ∧ ∀ answer, (next answer).Within rule
  | subscribe _ handler next =>
    (∀ arguments, (handler arguments).Within rule) ∧ ∀ id, (next id).Within rule
  | every _ job next => job.Within rule ∧ ∀ id, (next id).Within rule
  | once _ job next => job.Within rule ∧ ∀ id, (next id).Within rule
  | check _ predicate next => predicate.Within rule ∧ next.Within rule
  | fallback _ callback next => (∀ payload, (callback payload).Within rule) ∧ next.Within rule
  | close _ callback next => (∀ payload, (callback payload).Within rule) ∧ next.Within rule

theorem Program.within_free (p : Program σ) : p.Within Rule.free := by
  induction p with
  | done | fail => trivial
  | look _ ih | load _ ih => exact ih
  | save _ _ ih | note _ _ ih => exact ih
  | request _ _ ih => exact ⟨trivial, ih⟩
  | subscribe _ _ _ handler next => exact ⟨handler, next⟩
  | every _ _ _ job next | once _ _ _ job next => exact ⟨job, next⟩
  | check _ _ _ predicate next => exact ⟨predicate, next⟩
  | fallback _ _ _ callback next | close _ _ _ callback next => exact ⟨callback, next⟩

/-- Only a timer may hold an expiry. -/
def Reaction.Within (rule : Rule) : Reaction σ → Prop
  | trigger _ _ => True
  | deviceReport => True
  | expiry _ => False
  | custom react => ∀ arguments, (react arguments).Within rule

theorem Reaction.trigger_within {rule : Rule} (t : Trigger) (scenario : Nat) :
    (trigger t scenario : Reaction σ).Within rule := trivial

theorem Reaction.deviceReport_within {rule : Rule} : (deviceReport : Reaction σ).Within rule :=
  trivial

def Timer.Within (rule : Rule) (t : Timer (Reaction σ)) : Prop :=
  (∃ name, t.task = .expiry name) ∨ t.task.Within rule

def Callback.Within (rule : Rule) : Callback σ → Prop
  | deed _ _ => True
  | custom run => ∀ payload, (run payload).Within rule

def Predicate.Within (rule : Rule) : Predicate σ → Prop
  | condition _ => True
  | custom decides => decides.Within rule

structure Entry.Within (rule : Rule) (e : Entry σ) : Prop where
  callback : e.callback.Within rule
  group : ∀ group, e.group = some group → ∀ p ∈ group, p.Within rule

def TriggerFactory.Within (rule : Rule) : TriggerFactory σ → Prop
  | builtin _ => True
  | custom make => ∀ id arguments, (make id arguments).Within rule

def ConstraintFactory.Within (rule : Rule) : ConstraintFactory σ → Prop
  | builtin _ => True
  | custom make => ∀ id arguments, (make id arguments).Within rule

def Setup.Within (rule : Rule) : Setup σ → Prop
  | nothing => True
  | devices => True
  | custom run => run.Within rule

structure Component.Within (rule : Rule) (c : Component σ) : Prop where
  setup : c.setup.Within rule
  triggers : ∀ entry ∈ c.triggers.entries, entry.2.Within rule
  constraints : ∀ entry ∈ c.constraints.entries, entry.2.Within rule

theorem Component.within_free (c : Component σ) : c.Within Rule.free := by
  refine ⟨?_, fun entry _ => ?_, fun entry _ => ?_⟩
  · cases c.setup with
    | custom run => exact run.within_free
    | _ => trivial
  · cases entry.2 with
    | builtin => trivial
    | custom make => exact fun id arguments => (make id arguments).within_free
  · cases entry.2 with
    | builtin => trivial
    | custom make => exact fun id arguments => (make id arguments).within_free

/-- All code in the world keeps to the rule. -/
structure World.Lodges (rule : Rule) (w : World σ) : Prop where
  subscriptions : ∀ s ∈ w.bus.subscriptions, s.handler.Within rule
  jobs : ∀ j ∈ w.agenda.jobs, j.task.Within rule
  timers : ∀ t ∈ w.agenda.timers, t.Within rule
  entries : ∀ s ∈ w.scenarios, ∀ e ∈ s.entries, e.Within rule
  predicates : ∀ b ∈ w.blocks, ∀ p ∈ b.predicates, p.Within rule
  components : ∀ c ∈ w.components, c.Within rule

variable {rule : Rule}

theorem World.start_lodges (clock : Instant) (devices : List Device) (memory : σ) :
    (World.start clock devices memory).Lodges rule := by
  constructor <;> simp [World.start, Bus.empty, Agenda.empty]

section Programs

variable (allowed : rule.Open)
include allowed

theorem Deed.program_within (scenario : String) (d : Deed) (payload : Option Value) :
    (d.program scenario payload : Program σ).Within rule := by
  have setting : (program scenario ⟨none, none, d.set⟩ payload : Program σ).Within rule := by
    cases d.set with
    | none => trivial
    | some set => exact ⟨allowed.set _ _ _, fun answer => by cases answer <;> trivial⟩
  have emitting : (program scenario ⟨none, d.emit, d.set⟩ payload : Program σ).Within rule := by
    cases d.emit with
    | none => exact setting
    | some topic =>
      refine ⟨allowed.emit _ _, fun answer => ?_⟩
      cases answer with
      | ok => exact setting
      | error => trivial
  unfold program
  cases d.log with
  | none => exact emitting
  | some message => exact emitting

theorem Callback.program_within {c : Callback σ} (kept : c.Within rule) (payload : Option Value) :
    (c.program payload).Within rule := by
  cases c with
  | deed scenario d => exact d.program_within allowed scenario payload
  | custom run => exact kept payload

omit allowed in
theorem Predicate.program_within {p : Predicate σ} (kept : p.Within rule) :
    p.program.Within rule := by
  cases p with
  | condition c => exact fun _ => trivial
  | custom decides => exact kept

end Programs

theorem Program.perform_within {r : Reply} {q : Request r} (permitted : rule r q) :
    (Program.perform q : Program σ).Within rule :=
  ⟨permitted, fun answer => by cases answer <;> trivial⟩

end Reflex
