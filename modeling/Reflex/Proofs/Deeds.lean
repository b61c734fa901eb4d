import Reflex.Bootstrap
import Reflex.Proofs.Steps

/-! The actions of a declared branch. Those that are present are taken in order, with the payload
as what is emitted, up to the first that fails. -/
namespace Reflex
open Act Engine

variable {σ : Type}

inductive Action where
  | log (message : String)
  | emit (topic : String)
  | set (name : String) (value : Value) (ttl : Option Span)

/-- What a deed is to do, in order. -/
def Deed.actions (d : Deed) : List Action :=
  d.log.toList.map .log ++ d.emit.toList.map .emit ++
    d.set.toList.map fun (name, value, ttl) => .set name value ttl

/-- The world after the message of a deed. -/
def Deed.logged (d : Deed) (description : String) (w : World σ) : World σ :=
  match d.log with
  | some message => w.marked (.logged description message)
  | none => w

theorem Deed.logged_eq (d : Deed) (description : String) (w : World σ) :
    ∃ journal, d.logged description w = { w with journal } := by
  unfold logged
  cases d.log with
  | none => exact ⟨w.journal, rfl⟩
  | some message => exact ⟨_, rfl⟩

/-- A deed is what the branch says, with the text of a lifetime read. -/
structure Branch.Tells (b : Branch) (d : Deed) : Prop where
  log : d.log = b.log
  emit : d.emit = b.emit
  set : Option.Rel (fun (x : String × Value × Option Span) (a : Assignment) =>
    x.1 = a.name ∧ x.2.1 = a.value ∧
      Option.Rel (fun span text => Span.parse text = .ok span) x.2.2 a.ttl) d.set b.set

theorem Branch.tells {b : Branch} {d : Deed} (read : deedOf b = .ok d) : b.Tells d := by
  obtain ⟨constraints, emit, set, log⟩ := b
  cases set with
  | none =>
    cases read
    exact ⟨rfl, rfl, .none⟩
  | some a =>
    obtain ⟨name, value, ttl⟩ := a
    cases ttl with
    | none =>
      cases read
      exact ⟨rfl, rfl, .some ⟨rfl, rfl, .none⟩⟩
    | some text =>
      rcases parsed : Span.parse text with cause | span
      · simp [deedOf, parsed, bind, Except.bind, Functor.map, Except.map] at read
      · simp [deedOf, parsed, bind, Except.bind, Functor.map, Except.map, pure, Except.pure] at read
        subst read
        exact ⟨rfl, rfl, .some ⟨rfl, rfl, .some parsed⟩⟩

section Acting

variable (call : Call σ) (description : String) (payload : Option Value)

/-- Takes an action. What is emitted is the payload alone, or nothing without one. -/
def Action.act : Action → Act σ Unit
  | log message => mark (.logged description message)
  | emit topic => Engine.emit call topic payload.toList
  | set name value ttl => setVariable call name value ttl

/-- Actions are taken in order. The first that fails is the last one taken: the world is the one
that it left, and its failure is the result. -/
inductive Enacts : List Action → World σ → Except Interrupt Unit × World σ → Prop
  | done {w : World σ} : Enacts [] w (.ok (), w)
  | next {a : Action} {rest : List Action} {w next : World σ}
      {result : Except Interrupt Unit × World σ} :
      a.act call description payload w = (.ok (), next) → Enacts rest next result →
      Enacts (a :: rest) w result
  | stop {a : Action} {rest : List Action} {w last : World σ} {cause : Interrupt} :
      a.act call description payload w = (.error cause, last) →
      Enacts (a :: rest) w (.error cause, last)

/-- Running the program takes the actions. -/
def Program.Takes (p : Program σ) (actions : List Action) : Prop :=
  ∀ w, Enacts call description payload actions w
    ((interpret call p w).1.map fun _ => (), (interpret call p w).2)

variable {call description payload}

/-- A program that goes on only if what it asked for succeeds. -/
theorem interpret_then {r : Reply} (q : Request r) {next : Except Failure r.Carrier → Program σ}
    (failed : ∀ cause, next (.error cause) = .fail cause) (w : World σ) :
    interpret call (.request q next) w =
      (perform call q >>= fun answer => interpret call (next (.ok answer))) w := by
  rw [interpret]
  rcases ran : perform call q w with ⟨outcome, last⟩
  match outcome, ran with
  | .ok _, ran => rw [bind_ok (attempt_ok ran), bind_ok ran]
  | .error (.failed cause), ran =>
    rw [bind_ok (attempt_failed ran), bind_error ran, failed]
    rfl
  | .error .exhausted, ran => rw [bind_error (attempt_exhausted ran), bind_error ran]

theorem Program.Takes.cons {p rest : Program σ} {a : Action} {actions : List Action}
    (first : ∀ w, interpret call p w =
      (a.act call description payload >>= fun _ => interpret call rest) w)
    (others : rest.Takes call description payload actions) :
    p.Takes call description payload (a :: actions) := by
  intro w
  rw [first]
  rcases ran : a.act call description payload w with ⟨outcome, next⟩
  cases outcome with
  | ok _ =>
    rw [bind_ok ran]
    exact .next ran (others next)
  | error cause =>
    rw [bind_error ran]
    exact .stop ran

/-- A deed takes its actions. -/
theorem Deed.enacts (d : Deed) :
    (d.program description payload : Program σ).Takes call description payload d.actions := by
  obtain ⟨log, emit, set⟩ := d
  have setting : (Deed.program description ⟨none, none, set⟩ payload : Program σ).Takes call
      description payload (Deed.actions ⟨none, none, set⟩) := by
    have ended : (.done true : Program σ).Takes call description payload [] := fun _ => .done
    cases set with
    | none => exact ended
    | some x =>
      obtain ⟨name, value, ttl⟩ := x
      exact .cons (interpret_then (.set name value ttl) fun _ => rfl) ended
  have emitting : (Deed.program description ⟨none, emit, set⟩ payload : Program σ).Takes call
      description payload (Deed.actions ⟨none, emit, set⟩) := by
    cases emit with
    | none => exact setting
    | some topic => exact .cons (interpret_then (.emit topic payload.toList) fun _ => rfl) setting
  cases log with
  | none => exact emitting
  | some message => exact .cons (fun w => rfl) emitting

/-- If emitting fails, nothing comes after it. -/
theorem Enacts.cut {d : Deed} {topic : String} {w last : World σ} {cause : Interrupt}
    {result : Except Interrupt Unit × World σ}
    (enacts : Enacts call description payload d.actions w result) (emits : d.emit = some topic)
    (failed : emit call topic payload.toList (d.logged description w) = (.error cause, last)) :
    result = (.error cause, last) := by
  obtain ⟨log, _, set⟩ := d
  cases emits
  have cut : ∀ {w : World σ}, emit call topic payload.toList w = (.error cause, last) →
      Enacts call description payload (Deed.actions ⟨none, some topic, set⟩) w result →
      result = (.error cause, last) := by
    intro w failed enacts
    cases enacts with
    | next succeeded => cases failed.symm.trans succeeded
    | stop stopped => exact stopped.symm.trans failed ▸ rfl
  cases log with
  | none => exact cut failed enacts
  | some message =>
    cases enacts with
    | next logged rest =>
      cases logged
      exact cut failed rest
    | stop stopped => cases stopped

variable (call description payload) in
/-- Running the entry of a branch does what the branch says. -/
structure Enacted (b : Branch) (d : Deed) (w : World σ)
    (result : Except Interrupt Unit × World σ) : Prop where
  tells : b.Tells d
  enacts : Enacts call description payload d.actions w result
  cut : ∀ topic cause last, b.emit = some topic →
    emit call topic payload.toList (d.logged description w) = (.error cause, last) →
    result = (.error cause, last)

variable (call description payload) in
theorem Deed.enacted {b : Branch} {d : Deed} (read : deedOf b = .ok d) (w : World σ) :
    Enacted call description payload b d w
      ((interpret call (d.program description payload) w).1.map fun _ => (),
        (interpret call (d.program description payload) w).2) where
  tells := Branch.tells read
  enacts := d.enacts w
  cut _ _ _ emits failed := (d.enacts w).cut ((Branch.tells read).emit.trans emits) failed

end Acting

end Reflex
