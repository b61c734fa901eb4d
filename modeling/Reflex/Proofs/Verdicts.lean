import Mathlib.Algebra.Ring.Parity
import Reflex.Proofs.Fallbacks
import Reflex.Proofs.Leftovers

/-! Comparisons that are put off. A verdict about a deferred subject says at every moment what one
about the value of the subject at this moment says, whatever is compared and however often it is
negated. So conditions on variables and devices go by the world in which a pass comes to them. -/
namespace Reflex
open Act Engine Evaluation

section Comparing

variable {σ : Type}

namespace Expectation

theorem negate_eq (n : Nat) (e : Expectation σ) :
    e.negate n = ⟨e.subject, e.negated ^^ decide (Odd n)⟩ := by
  induction n with
  | zero => simp [negate]
  | succ n ih => simp only [negate, ih, not, Nat.odd_add_one, decide_not, Bool.xor_not]

theorem evaluate_verdict (e : Expectation σ) (m : Matcher) (s : σ) :
    (e.verdict m).evaluate s = (m.holds (e.subject.current s) ^^ e.negated) := by
  obtain ⟨subject, negated⟩ := e
  cases subject <;> simp [verdict, Verdict.evaluate, Subject.current]

theorem evaluate_reading (read : σ → Value) (m : Matcher) (s : σ) :
    ((reading read).verdict m).evaluate s = m.holds (read s) :=
  (evaluate_verdict _ m s).trans (Bool.xor_false _)

end Expectation

namespace Check

/-- The second names, each with the name that it stands for. -/
def aliases : List (String × String) :=
  [("is", "equal"), ("eql", "deep_equal"), ("def", "defined"), ("undef", "undefined"),
    ("nil", "null"), ("ok", "truthy"), ("no", "falsy"), ("gt", "greater_than"),
    ("gte", "greater_or_equal"), ("lt", "less_than"), ("lte", "less_or_equal"),
    ("has", "contains"), ("like", "matches")]

/-- A comparison without its second name. -/
def primary : Check → Check
  | is => equal
  | eql => deepEqual
  | given => defined
  | undef => undefined
  | nil => null
  | ok => truthy
  | no => falsy
  | gt => greaterThan
  | gte => greaterOrEqual
  | lt => lessThan
  | lte => lessOrEqual
  | has => contains
  | like => matching
  | c => c

theorem matcher_primary (c : Check) : c.primary.matcher = c.matcher := by
  cases c <;> rfl

/-- A comparison decides by the value that the subject has when it is made. -/
theorem apply_evaluate (c : Check) (e : Expectation σ) (argument : Value) (s : σ) :
    (c.apply e argument).map (·.evaluate s) =
      (c.matcher argument).map fun m => m.holds (e.subject.current s) ^^ e.negated := by
  unfold apply
  cases c.matcher argument with
  | error cause => rfl
  | ok m => exact congrArg Except.ok (e.evaluate_verdict m s)

/-- A verdict that is obtained once is at each moment that about the current value. -/
theorem apply_deferred {τ : Type} (read : σ → Value) (c : Check) (n : Nat) (argument : Value)
    (s : σ) (t : τ) : (c.apply ((Expectation.reading read).negate n) argument).map (·.evaluate s) =
      (c.apply ((Expectation.of (read s)).negate n) argument).map (·.evaluate t) := by
  rw [apply_evaluate, apply_evaluate, Expectation.negate_eq, Expectation.negate_eq]
  rfl

/-- Only a pattern can be malformed, and it is whatever it is matched against. -/
theorem apply_error {c : Check} {e : Expectation σ} {argument : Value} {cause : Invalid} :
    c.apply e argument = .error cause ↔
      (c = matching ∨ c = like) ∧ Pattern.parse argument.asText = .error cause := by
  have failed : c.apply e argument = .error cause ↔ c.matcher argument = .error cause := by
    unfold apply
    cases c.matcher argument <;> simp [Except.map]
  rw [failed]
  cases c <;> simp [matcher, Except.map] <;> cases Pattern.parse argument.asText <;> simp

end Check

end Comparing

/-- What a condition on a variable or a device compares. -/
structure Comparison where
  read : View → Value
  check : Check
  argument : Value

/-- What the comparison says of a value, or why it cannot be made. -/
def Comparison.outcome (k : Comparison) (v : Value) : Except Invalid Bool :=
  (k.check.apply (.of v : Expectation Unit) k.argument).map (·.evaluate ())

namespace Condition

def comparison? : Condition → Option Comparison
  | variableIs name expected => some ⟨fun v => v.value name, .eql, expected⟩
  | variableDefined name => some ⟨fun v => v.value name, .defined, .null⟩
  | deviceIs device feature expected => some ⟨fun v => v.feature device feature, .eql, expected⟩
  | _ => none

theorem holds_comparison {c : Condition} {k : Comparison} (compares : c.comparison? = some k)
    (v : View) : k.outcome (k.read v) = .ok (c.holds v) := by
  -- The condition holds the verdict about the deferred subject, which is never negated.
  have put_off : (k.check.apply (.reading k.read) k.argument).map (·.evaluate v) =
      k.outcome (k.read v) := Check.apply_deferred k.read k.check 0 k.argument v ()
  rw [← put_off]
  cases c with
  | variableIs | variableDefined | deviceIs =>
    cases compares
    rfl
  | dayIs | timeBetween => cases compares

end Condition

namespace Evaluation

variable {σ : Type} {depth : Nat} {w last : World σ} {cs : List Condition}

/-- A condition is read off the world, which stays as it is. -/
theorem condition_run (depth : Nat) (c : Condition) (w : World σ) :
    exec (depth + 1) (Predicate.condition c).program w = (.ok (c.holds w.view), w) := rfl

theorem AllTrue.conditions (all : AllTrue (exec (depth + 1)) (cs.map .condition) w last) :
    last = w ∧ ∀ c ∈ cs, c.holds w.view = true := by
  induction cs generalizing w with
  | nil =>
    cases all
    exact ⟨rfl, by simp⟩
  | cons c rest ih =>
    cases all with
    | cons head tail =>
      rw [condition_run, Prod.mk.injEq] at head
      obtain ⟨holds, rfl⟩ := head
      obtain ⟨same, others⟩ := ih tail
      exact ⟨same, List.forall_mem_cons.mpr ⟨Except.ok.inj holds, others⟩⟩

theorem EndsWith.conditions {answer : Except Interrupt Bool}
    (ends : EndsWith (exec (depth + 1)) answer (cs.map .condition) w last) :
    last = w ∧ ∃ c ∈ cs, answer = .ok (c.holds w.view) := by
  obtain ⟨front, p, back, next, split, all, answered⟩ := ends
  obtain ⟨before, others, rfl, rfl, rest⟩ := List.map_eq_append_iff.mp split
  obtain ⟨c, after, rfl, rfl, -⟩ := List.map_eq_cons_iff.mp rest
  obtain ⟨rfl, -⟩ := all.conditions
  rw [condition_run, Prod.mk.injEq] at answered
  obtain ⟨rfl, rfl⟩ := answered
  exact ⟨rfl, c, by simp, rfl⟩

variable {id : Nat} {payload : Option Value} {s : Scenario σ}
  {visits earlier later : List (Visit σ)} {v : Visit σ} {result : Except Interrupt Nat × World σ}

/-- An entry whose group has conditions alone runs if they hold in the world that the visits before
it left. -/
theorem Visits.conditions (made : Visits (exec (depth + 1)) id payload s w visits result)
    (split : visits = earlier ++ v :: later) (grouped : v.entry.group = some (cs.map .condition)) :
    v.ran = true ↔ ∀ c ∈ cs, c.holds v.before.view = true := by
  have decided : ∀ ran last, Decides (exec (depth + 1)) earlier v.entry v.before ran last →
      (ran = true ↔ ∀ c ∈ cs, c.holds v.before.view = true) := by
    intro ran last decides
    cases decides with
    | fallback bare | preempted bare => cases bare.symm.trans grouped
    | holds same all =>
      cases same.symm.trans grouped
      exact ⟨fun _ => all.conditions.2, fun _ => rfl⟩
    | refused same ends =>
      cases same.symm.trans grouped
      obtain ⟨-, c, member, fails⟩ := ends.conditions
      refine ⟨(nomatch ·), fun all => ?_⟩
      rw [all c member] at fails
      cases fails
  rcases made.each earlier v later split with ⟨last, decides, -⟩ | ⟨-, cause, broken⟩
  · exact decided v.ran last decides
  · unfold Broken at broken
    split at broken
    · obtain ⟨last, decides, -⟩ := broken
      rename_i ran
      exact ran ▸ decided true last decides
    · obtain ⟨group, same, ends⟩ := broken
      cases same.symm.trans grouped
      obtain ⟨-, c, -, failed⟩ := ends.conditions
      cases failed

end Evaluation

/-- What holds of comparisons now and later, and of the groups that are made of them. -/
structure VerdictsKept : Prop where
  /-- A verdict that is obtained once is at each moment that about the current value. -/
  deferred : ∀ {σ τ : Type} (read : σ → Value) (c : Check) (n : Nat) (argument : Value) (s : σ)
    (t : τ), (c.apply ((Expectation.reading read).negate n) argument).map (·.evaluate s) =
      (c.apply ((Expectation.of (read s)).negate n) argument).map (·.evaluate t)
  negated : ∀ {σ : Type} (e : Expectation σ) (c : Check) (n : Nat) (argument : Value) (s : σ),
    (c.apply (e.negate n) argument).map (·.evaluate s) =
      (c.apply e argument).map fun v => if Odd n then !v.evaluate s else v.evaluate s
  aliases : ∀ names ∈ Check.aliases, ∃ c d, Check.named? names.1 = some c ∧
    Check.named? names.2 = some d ∧
      ∀ {σ : Type} (e : Expectation σ) argument, c.apply e argument = d.apply e argument
  /-- Whatever the subject is, and however often it is negated. -/
  malformed : ∀ {σ : Type} (e : Expectation σ) (c : Check) argument cause,
    c.apply e argument = .error cause ↔
      (c = .matching ∨ c = .like) ∧ Pattern.parse argument.asText = .error cause
  conditions : ∀ {σ : Type} (depth : Nat) (c : Condition) k (w : World σ), c.comparison? = some k →
    ∃ holds, k.outcome (k.read w.view) = .ok holds ∧
      exec (depth + 1) (Predicate.condition c).program w = (.ok holds, w)
  /-- The conditions of a group are put to the world that the visits before it left, with all that
  their callbacks changed. -/
  groups : ∀ {σ : Type} (depth id : Nat) payload (s : Scenario σ) (w : World σ),
    w.scenarios[id]? = some s → ∃ visits, Asserted (exec (depth + 1)) id payload s w visits ∧
      ∀ earlier v later, visits = earlier ++ v :: later →
        Linked (begun id w) earlier v.before ∧
          ∀ cs : List Condition, v.entry.group = some (cs.map .condition) →
            (∀ c ∈ cs, c.comparison?.isSome) →
            (v.ran = true ↔ ∀ c ∈ cs, ∀ k, c.comparison? = some k →
              k.outcome (k.read v.before.view) = .ok true)

theorem verdicts_kept : VerdictsKept where
  deferred read c n argument s t := c.apply_deferred read n argument s t
  negated e c n argument s := by
    rw [Check.apply_evaluate, Expectation.negate_eq, Check.apply]
    cases c.matcher argument with
    | error cause => rfl
    | ok m =>
      refine congrArg Except.ok ?_
      dsimp only
      rw [Expectation.evaluate_verdict]
      split <;> simp [*]
  aliases := by
    have named : ∀ names ∈ Check.aliases, (Check.named? names.1).map Check.primary =
        Check.named? names.2 ∧ (Check.named? names.1).isSome := by decide
    intro names member
    obtain ⟨same, known⟩ := named names member
    obtain ⟨c, found⟩ := Option.isSome_iff_exists.mp known
    refine ⟨c, c.primary, found, by rw [← same, found, Option.map_some], fun e argument => ?_⟩
    rw [Check.apply, Check.apply, Check.matcher_primary]
  malformed _ _ _ _ := Check.apply_error
  conditions depth c k w compares :=
    ⟨c.holds w.view, Condition.holds_comparison compares w.view, condition_run depth c w⟩
  groups depth id payload s w found := by
    obtain ⟨visits, asserted⟩ := assert_visits (exec (depth + 1)) payload found
    refine ⟨visits, asserted, fun earlier v later split => ?_⟩
    rcases asserted with made | ⟨rfl, -⟩
    · obtain ⟨last, linked, -⟩ := made.linked
      refine ⟨(split ▸ linked).front, fun cs grouped compare => ?_⟩
      rw [made.conditions split grouped]
      refine forall₂_congr fun c member => ?_
      obtain ⟨k, compares⟩ := Option.isSome_iff_exists.mp (compare c member)
      simp [compares, Condition.holds_comparison compares]
    · simp at split

/-- The first entry writes the variable that the groups of the other two are about. -/
def settling : Program Unit :=
  .request (.createScenario "settle" ⟨none, false⟩) fun _ =>
    .fallback 0 (fun _ => .perform (.set "mode" (.text "home") none)) <|
      .request (.openBlock 0) fun _ =>
        .request (.invokeConstraint 0 "variable.is" [.text "mode", .text "home"]) fun _ =>
          .close 0 (fun _ => .done true) <| .request (.openBlock 0) fun _ =>
            .request (.invokeConstraint 1 "variable.is" [.text "mode"]) fun _ =>
              .close 1 (fun _ => .done true) (.done true)

def settledHouse : World Unit := (run 2 settling standardHouse).2

/-- What the first entry writes lets the second one run, and not the third. -/
theorem verdicts_kept_settled :
    settledHouse.value "mode" = .null ∧ (assert (exec 1) 0 none settledHouse).1 = .ok 2 ∧
      ∃ s visits, settledHouse.scenarios[0]? = some s ∧
        Asserted (exec 1) 0 none s settledHouse visits ∧
        ∀ earlier v later expected, visits = earlier ++ v :: later →
          v.entry.group = some [.condition (.variableIs "mode" expected)] →
            (v.ran = true ↔ Comparison.outcome ⟨fun v => v.value "mode", .eql, expected⟩
              (v.before.value "mode") = .ok true) := by
  have found : settledHouse.scenarios[0]? = some settledHouse.scenarios[0] := rfl
  obtain ⟨visits, asserted, decided⟩ := verdicts_kept.groups 0 0 none _ settledHouse found
  refine ⟨rfl, rfl, _, visits, found, asserted, fun earlier v later expected split grouped => ?_⟩
  rw [(decided earlier v later split).2 [.variableIs "mode" expected] grouped (by simp; rfl)]
  simp [Condition.comparison?, World.view]

end Reflex
