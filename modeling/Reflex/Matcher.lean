import Reflex.Json.Printer
import Reflex.Pattern.Reader

/-! Comparisons of a subject with an argument, decided at once or each time they are
evaluated. A deferred subject reads a state of type `σ`. -/
namespace Reflex

/-- A test of one value. -/
inductive Matcher where
  | equal (expected : Value)
  | deepEqual (expected : Value)
  | defined
  | undefined
  | truthy
  | falsy
  | nan
  | greaterThan (bound : Value)
  | greaterOrEqual (bound : Value)
  | lessThan (bound : Value)
  | lessOrEqual (bound : Value)
  | contains (needle : Value)
  | matching (p : Pattern)

namespace Matcher

/-- Compares the numbers two values stand for; false when one stands for none. -/
def compare (order : Double → Double → Bool) (v bound : Value) : Bool :=
  match v.number?, bound.number? with
  | some a, some b => order a b
  | _, _ => false

/-- Whether one list of characters occurs inside another. -/
def occurs (needle : List Char) : List Char → Bool
  | [] => needle.isEmpty
  | c :: rest => needle.isPrefixOf (c :: rest) || occurs needle rest

/-- An array contains equal items, a text contains texts, an object contains keys. -/
def containedIn (needle : Value) : Value → Bool
  | .array items => items.any fun item => item.deepEqual needle
  | .text s => occurs needle.asText.toList s.toList
  | .object members => needle.text?.any fun key => (Table.find? key members).isSome
  | _ => false

def holds (m : Matcher) (v : Value) : Bool :=
  match m with
  | equal expected => v.same expected
  | deepEqual expected => v.deepEqual expected
  | defined => !v.isNull
  | undefined => v.isNull
  | truthy => v.isTruthy
  | falsy => !v.isTruthy
  | nan => v.number?.isNone
  | greaterThan bound => compare (fun a b => b.lt a) v bound
  | greaterOrEqual bound => compare (fun a b => b.le a) v bound
  | lessThan bound => compare Double.lt v bound
  | lessOrEqual bound => compare Double.le v bound
  | contains needle => containedIn needle v
  | matching p => !v.isNull && p.matchesIn v.asText

end Matcher

inductive Subject (σ : Type) where
  | immediate (v : Value)
  | deferred (read : σ → Value)

def Subject.current {σ : Type} (s : σ) : Subject σ → Value
  | immediate v => v
  | deferred read => read s

/-- The outcome of a comparison. -/
inductive Verdict (σ : Type) where
  | ready (result : Bool)
  | deferred (check : σ → Bool)

namespace Verdict

variable {σ : Type}

def evaluate (s : σ) : Verdict σ → Bool
  | ready result => result
  | deferred check => check s

def isDeferred : Verdict σ → Bool
  | ready _ => false
  | deferred _ => true

end Verdict

/-- A subject under comparison, possibly negated. -/
structure Expectation (σ : Type) where
  subject : Subject σ
  negated : Bool

namespace Expectation

variable {σ : Type}

def of (v : Value) : Expectation σ := ⟨.immediate v, false⟩

def reading (read : σ → Value) : Expectation σ := ⟨.deferred read, false⟩

def not (e : Expectation σ) : Expectation σ := ⟨e.subject, !e.negated⟩

/-- `n` negations in a row. -/
def negate : Nat → Expectation σ → Expectation σ
  | 0, e => e
  | n + 1, e => (negate n e).not

/-- An immediate subject is compared now, a deferred one at every evaluation. -/
def verdict (e : Expectation σ) (m : Matcher) : Verdict σ :=
  match e.subject with
  | .immediate v => .ready (m.holds v != e.negated)
  | .deferred read => .deferred fun s => m.holds (read s) != e.negated

end Expectation

/-- Comparisons by name; most have a short second name. -/
inductive Check where
  | equal | is
  | deepEqual | eql
  | defined | given
  | undefined | undef
  | null | nil
  | truthy | ok
  | falsy | no
  | nan
  | greaterThan | gt
  | greaterOrEqual | gte
  | lessThan | lt
  | lessOrEqual | lte
  | contains | has
  | matching | like
deriving Repr, DecidableEq

namespace Check

def names : List (String × Check) :=
  [("equal", equal), ("is", is), ("deep_equal", deepEqual), ("eql", eql), ("defined", defined),
    ("def", given), ("undefined", undefined), ("undef", undef), ("null", null), ("nil", nil),
    ("truthy", truthy), ("ok", ok), ("falsy", falsy), ("no", no), ("nan", nan),
    ("greater_than", greaterThan), ("gt", gt), ("greater_or_equal", greaterOrEqual),
    ("gte", gte), ("less_than", lessThan), ("lt", lt), ("less_or_equal", lessOrEqual),
    ("lte", lte), ("contains", contains), ("has", has), ("matches", matching), ("like", like)]

def named? (name : String) : Option Check := names.lookup name

/-- The test that a comparison makes with an argument; only a pattern can be malformed. -/
def matcher (c : Check) (argument : Value) : Except Invalid Matcher :=
  match c with
  | equal | is => .ok (.equal argument)
  | deepEqual | eql => .ok (.deepEqual argument)
  | defined | given => .ok .defined
  | undefined | undef | null | nil => .ok .undefined
  | truthy | ok => .ok .truthy
  | falsy | no => .ok .falsy
  | nan => .ok .nan
  | greaterThan | gt => .ok (.greaterThan argument)
  | greaterOrEqual | gte => .ok (.greaterOrEqual argument)
  | lessThan | lt => .ok (.lessThan argument)
  | lessOrEqual | lte => .ok (.lessOrEqual argument)
  | contains | has => .ok (.contains argument)
  | matching | like => (Pattern.parse argument.asText).map .matching

def apply {σ : Type} (c : Check) (e : Expectation σ) (argument : Value) :
    Except Invalid (Verdict σ) :=
  (c.matcher argument).map e.verdict

end Check

end Reflex
