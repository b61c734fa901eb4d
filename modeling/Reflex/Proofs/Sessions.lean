import Reflex.Proofs.Following

/-! Histories of the engine: runtimes are built and programs run, one after the other.
Every world that a history leads to is a moment of the engine, however deep the code in
it was nested. -/
namespace Reflex
open Act Engine

variable {σ α β : Type} {rule : Rule}

/-- A history, and whether its last run came to its end. A run that is cut short stops in
the midst of things, and nothing follows it. -/
inductive Session (rule : Rule) : Bool → World σ → Prop
  | start (clock : Instant) (devices : List Device) (memory : σ) :
      Session rule true (.start clock devices memory)
  | build {w next : World σ} {components : List (Component σ)} {depth : Nat}
      {outcome : Except Interrupt Unit} : Session rule true w →
      (∀ c ∈ components, c.Within rule) → buildIn depth components w = (outcome, next) →
      Session rule (ended outcome) next
  | run {w next : World σ} {p : Program σ} {depth : Nat} {outcome : Except Interrupt Bool} :
      Session rule true w → p.Within rule → Engine.run depth p w = (outcome, next) →
      Session rule (ended outcome) next

theorem Session.run_ended {w : World σ} {p : Program σ} {depth : Nat}
    (session : Session rule true w) (kept : p.Within rule)
    (came : ended (Engine.run depth p w).1 = true) :
    Session rule true (Engine.run depth p w).2 :=
  came ▸ Session.run session kept rfl

/-- What follows a run does not change the world. -/
theorem Upheld.before_still {R : Link σ} {x : Act σ α} {f : α → Act σ β} {w : World σ}
    (upheld : Upheld rule R x w)
    (still : ∀ a next, (f a next).2 = next ∧ ended (f a next).1 = true) :
    Upheld rule R (x >>= f) w := by
  rcases ran : x w with ⟨outcome, next⟩
  obtain ⟨lodges, link⟩ := upheld.after_run ran
  match outcome, ran, link with
  | .error i, ran, link => exact .of_run (bind_error ran) lodges link
  | .ok a, ran, link =>
    obtain ⟨same, came⟩ := still a next
    constructor <;> rw [bind_ok ran, same]
    · exact lodges
    · rw [came]
      exact link

namespace Engine

section Operations

variable (allowed : rule.Open) {call : Call σ}
  (calls : Calls rule (Running rule) (Lapsing rule) call)
include allowed calls

theorem publishVariable_upheld (name : String) (value previous : Value) {w : World σ}
    (lodges : w.Lodges rule) :
    Upheld rule (Running rule) (publishVariable call name value previous) w :=
  emit_upheld running_law allowed calls _ _ lodges

theorem setVariable_upheld (name : String) (value : Value) (ttl : Option Span) {w : World σ}
    (lodges : w.Lodges rule) :
    Upheld rule (Running rule) (setVariable call name value ttl) w := by
  have published := publishVariable_upheld allowed calls name value (w.value name)
    (lodges.writing name value ttl)
  constructor <;> rw [setVariable_run]
  · exact published.lodges
  · exact running_law.trans (running_move .write) published.link

theorem expireVariable_upheld (name : String) {w : World σ} (lodges : w.Lodges rule) :
    Upheld rule (Lapsing rule name) (expireVariable call name) w := by
  have published : Upheld rule (Running rule) (publishLapse call name w) (w.lapsing name) := by
    unfold publishLapse
    split
    · exact publishVariable_upheld allowed calls _ _ _ (lodges.lapsing name)
    · exact .pure running_law.toChained _ (lodges.lapsing name)
  constructor <;> rw [expireVariable_run]
  · exact published.lodges
  · exact fun fs timer ready => .chain (.step .expire) (published.link fs ready)

/-- A lifetime that ends because code asks for it. -/
theorem expireVariable_asked (name : String) (permitted : rule _ (.expire name)) {w : World σ}
    (lodges : w.Lodges rule) : Upheld rule (Running rule) (expireVariable call name) w := by
  obtain ⟨lodges, link⟩ := expireVariable_upheld allowed calls name lodges
  exact ⟨lodges, fun fs ready => .chain (.step (.ask ready permitted)) (link fs none ready)⟩

theorem tick_upheld {w : World σ} (lodges : w.Lodges rule) :
    Upheld rule (Running rule) (tick call) w :=
  ⟨(tick_follows allowed calls [] trivial lodges).lodges,
    fun fs ready => (tick_follows allowed calls fs ready lodges).path⟩

theorem timed : Timed rule (Running rule) call where
  once within lodges :=
    .of_run (once_run _ _ _) (lodges.arming _ (.inr within)) (running_move (.arm within))
  cancel permitted lodges :=
    .of_run (cancel_run _ _) (lodges.cancelling _) (running_move (.cancel permitted))
  drop permitted lodges :=
    .of_run (modify_run _ _) ⟨lodges.1, lodges.2, lodges.3, lodges.4, lodges.5, lodges.6⟩
      (running_move (.drop permitted))
  set lodges := setVariable_upheld allowed calls _ _ _ lodges
  expire permitted lodges := expireVariable_asked allowed calls _ permitted lodges
  tick lodges := tick_upheld allowed calls lodges

end Operations

theorem exec_calls (allowed : rule.Open) (depth : Nat) :
    Calls rule (Running rule) (Lapsing rule) (exec depth : Call σ) := by
  induction depth with
  | zero =>
    refine ⟨fun _ lodges => .still running_law.toChained rfl lodges, fun lodges => ⟨lodges, ?_⟩⟩
    exact fun fs timer _ => ⟨_, .refl, fun came => nomatch came⟩
  | succ depth calls =>
    refine ⟨fun kept lodges =>
      interpret_upheld running_law allowed calls (timed allowed calls) kept lodges, ?_⟩
    intro name w lodges
    refine .before_still (expireVariable_upheld allowed calls name lodges).attempt ?_
    intro answer next
    cases answer <;> exact ⟨rfl, rfl⟩

end Engine

/-- Every world of a history is a moment of it; between runs nothing is in progress. -/
theorem Session.reached (allowed : rule.Open) {e : Bool} {w : World σ}
    (session : Session rule e w) :
    w.Lodges rule ∧ ∃ fs, Reached rule ⟨w, fs⟩ ∧ (e = true → fs = []) := by
  have continued : ∀ {w next : World σ} {e : Bool}, (∃ fs, Reached rule ⟨w, fs⟩ ∧ fs = []) →
      Running rule w e next → ∃ fs, Reached rule ⟨next, fs⟩ ∧ (e = true → fs = []) := by
    rintro w next e ⟨_, ⟨clock, devices, memory, path⟩, rfl⟩ link
    obtain ⟨fs, further, came⟩ := link [] trivial
    exact ⟨fs, ⟨clock, devices, memory, path.trans further⟩, came⟩
  induction session with
  | start clock devices memory =>
    exact ⟨World.start_lodges clock devices memory, [], ⟨clock, devices, memory, .refl⟩,
      fun _ => rfl⟩
  | build _ kept built ih =>
    obtain ⟨lodges, fs, reached, came⟩ := ih
    have finish : ∀ (w : World σ) components,
        Running rule w true { w with components, registry := some [] } :=
      fun _ _ => running_move (.apart ⟨rfl, rfl, rfl, rfl, rfl, rfl⟩)
    obtain ⟨lodges, link⟩ :=
      (build_upheld running_law (exec_calls allowed _) finish _ kept lodges).after_run built
    exact ⟨lodges, continued ⟨fs, reached, came rfl⟩ link⟩
  | run _ kept ran ih =>
    obtain ⟨lodges, fs, reached, came⟩ := ih
    obtain ⟨lodges, link⟩ := ((exec_calls allowed _).code kept lodges).after_run ran
    exact ⟨lodges, continued ⟨fs, reached, came rfl⟩ link⟩

end Reflex
