import Mathlib.Data.List.Forall2
import Reflex.Proofs.Calendar
import Reflex.Proofs.Phrases

/-! The usual reading of cron expressions. The expression of a schedule, read this way, says when
the schedule is due. -/
namespace Reflex
open Text

/-- A field of a cron expression: the least and the greatest value it can have, and what it shows
at an instant. -/
structure ClockField where
  low : Nat
  high : Nat
  shows : Instant → Nat

/-- What an expression says about a field. -/
inductive FieldSpec where
  | any
  | exactly (n : Nat)
  | step (n : Nat)

/-- Six fields, or a period in seconds. -/
inductive Cron where
  | fields (specs : List FieldSpec)
  | period (seconds : Nat)

namespace ClockField

def second : ClockField := ⟨0, 59, Instant.secondOfMinute⟩

def minute : ClockField := ⟨0, 59, Instant.minute⟩

def hour : ClockField := ⟨0, 23, Instant.hour⟩

/-- The days of a week are counted from Sunday; the first of January 1970 was a Thursday. -/
def all : List ClockField :=
  [second, minute, hour, ⟨1, 31, fun t => t.date.day⟩, ⟨1, 12, fun t => t.date.month⟩,
    ⟨0, 6, fun t => ((t.day + 4) % 7).toNat⟩]

def canStep (f : ClockField) (n : Nat) : Bool := decide (0 < n ∧ n ≤ f.high - f.low)

/-- An asterisk, a value of the field, or an asterisk and a step within the field. -/
def read (f : ClockField) : List Char → Option FieldSpec
  | ['*'] => some .any
  | '*' :: '/' :: digits => ((numeral digits).filter f.canStep).map .step
  | digits => ((numeral digits).filter fun n => f.low ≤ n ∧ n ≤ f.high).map .exactly

/-- Steps are taken from the least value of the field, as far as its greatest. -/
def Matches (f : ClockField) (t : Instant) : FieldSpec → Prop
  | .any => True
  | .exactly n => f.shows t = n
  | .step n => ∃ i, f.low + i * n ≤ f.high ∧ f.shows t = f.low + i * n

end ClockField

namespace Cron

/-- Words for the six fields, or two words for a period. -/
def read (text : String) : Option Cron :=
  match text.toList.splitOn ' ' with
  | [['@', 'e', 'v', 'e', 'r', 'y'], span] =>
    if span.getLast? = some 's' then (numeral span.dropLast).map .period else none
  | words =>
    if words.length = ClockField.all.length then
      ((List.zipWith ClockField.read ClockField.all words).mapM id).map .fields
    else none

/-- All fields match, or the seconds from the epoch are a multiple of the period. -/
def Matches (c : Cron) (t : Instant) : Prop :=
  match c with
  | fields specs => List.Forall₂ (fun f spec => f.Matches t spec) ClockField.all specs
  | period n => (n : Int) ∣ t.second

end Cron

/-- The field in which the count of a schedule is a step. -/
def TimeUnit.field : TimeUnit → ClockField
  | .second => .second
  | .minute => .minute
  | .hour => .hour

namespace Schedule

/-- What the expression of a schedule says: one field takes steps and those before it are zero,
or the period is too long for that. -/
def cron (s : Schedule) : Cron :=
  if s.unit.field.canStep s.count then
    match s.unit with
    | .second => .fields [.step s.count, .any, .any, .any, .any, .any]
    | .minute => .fields [.exactly 0, .step s.count, .any, .any, .any, .any]
    | .hour => .fields [.exactly 0, .exactly 0, .step s.count, .any, .any, .any]
  else .period s.periodSeconds

end Schedule

/-! What the fields show. -/

theorem Date.ofDay_within (day : Int) :
    (1 ≤ (ofDay day).day ∧ (ofDay day).day ≤ 31) ∧
      1 ≤ (ofDay day).month ∧ (ofDay day).month ≤ 12 := by
  obtain ⟨low, high⟩ := ofDay_day day
  exact ⟨⟨low, high.trans (daysInMonth_le _ _)⟩, ofDay_month day⟩

theorem ClockField.shows_within {f : ClockField} (member : f ∈ all) (t : Instant) :
    f.low ≤ f.shows t ∧ f.shows t ≤ f.high := by
  have date := Date.ofDay_within t.day
  have bound : t.secondOfDay < 86400 := by
    simp only [Instant.secondOfDay]
    omega
  simp only [all, List.mem_cons, List.not_mem_nil, or_false] at member
  rcases member with rfl | rfl | rfl | rfl | rfl | rfl
  · simp only [second, Instant.secondOfMinute]
    omega
  · simp only [minute, Instant.minute]
    omega
  · simp only [hour, Instant.hour]
    omega
  · exact date.1
  · exact date.2
  · dsimp only
    omega

/-! Reading what is written. -/

/-- A specification as it is written. -/
def FieldSpec.text : FieldSpec → List Char
  | any => ['*']
  | exactly n => Nat.toDigits 10 n
  | step n => '*' :: '/' :: Nat.toDigits 10 n

/-- The values and the steps in a specification are those that the field can have. -/
def ClockField.Admits (f : ClockField) : FieldSpec → Prop
  | .any => True
  | .exactly n => f.low ≤ n ∧ n ≤ f.high
  | .step n => f.canStep n = true

theorem numeral_toDigits (n : Nat) : numeral (Nat.toDigits 10 n) = some n := by
  rw [numeral_digits Nat.toDigits_ne_nil (CountOf.digits_of n).digits,
    Nat.ofDigitChars_ten_toDigits]

theorem not_mem_toDigits {c : Char} (other : c.isDigit = false) (n : Nat) :
    c ∉ Nat.toDigits 10 n := by
  intro member
  cases other.symm.trans ((CountOf.digits_of n).digits c member)

theorem FieldSpec.spaceless (spec : FieldSpec) : ' ' ∉ spec.text := by
  have digits := not_mem_toDigits (c := ' ') rfl
  cases spec <;> simp [text, digits]

theorem ClockField.read_text {f : ClockField} {spec : FieldSpec} (admits : f.Admits spec) :
    f.read spec.text = some spec := by
  cases spec with
  | any => rfl
  | step n =>
    have can : f.canStep n = true := admits
    simp [FieldSpec.text, read, numeral_toDigits, Option.filter, can]
  | exactly n =>
    have digits := not_mem_toDigits (c := '*') rfl n
    obtain ⟨low, high⟩ := admits
    rw [FieldSpec.text, read]
    · simp [numeral_toDigits, low, high]
    · exact fun same => digits (same ▸ .head _)
    · exact fun _ same => digits (same ▸ .head _)

theorem ClockField.read_all {fs : List ClockField} {specs : List FieldSpec}
    (admits : List.Forall₂ Admits fs specs) :
    (List.zipWith read fs (specs.map FieldSpec.text)).mapM id = some specs := by
  induction admits with
  | nil => rfl
  | cons first rest ih =>
    rw [List.map_cons, List.zipWith_cons_cons, List.mapM_cons, ih, read_text first]
    rfl

theorem Cron.read_fields {text : String} {specs : List FieldSpec}
    (written : text.toList = [' '].intercalate (specs.map FieldSpec.text))
    (admits : List.Forall₂ ClockField.Admits ClockField.all specs) :
    Cron.read text = some (.fields specs) := by
  have six := admits.length_eq.symm
  rw [Cron.read, written, List.splitOn_intercalate]
  · split
    · rename_i two
      have length := congrArg List.length two
      rw [List.length_map, six] at length
      cases length
    · rw [List.length_map, if_pos six, ClockField.read_all admits]
      rfl
  · exact List.forall_mem_map.mpr fun spec _ => spec.spaceless
  · intro none
    rw [List.map_eq_nil_iff.mp none] at six
    cases six

theorem Cron.read_period {text : String} {n : Nat}
    (written : text.toList =
      [' '].intercalate [['@', 'e', 'v', 'e', 'r', 'y'], Nat.toDigits 10 n ++ ['s']]) :
    Cron.read text = some (.period n) := by
  rw [Cron.read, written, List.splitOn_intercalate]
  · simp [numeral_toDigits]
  · have digits := not_mem_toDigits (c := ' ') rfl n
    simp [digits]
  · rintro ⟨⟩

theorem days_free : List.Forall₂ ClockField.Admits (ClockField.all.drop 3) [.any, .any, .any] :=
  .cons trivial <| .cons trivial <| .cons trivial .nil

namespace Schedule

theorem aligned_iff (s : Schedule) : s.isAligned = s.unit.field.canStep s.count := by
  have positive := s.count_pos
  unfold isAligned ClockField.canStep
  cases s.unit <;>
    simp only [TimeUnit.maxStep, TimeUnit.field, ClockField.second, ClockField.minute,
      ClockField.hour, positive, true_and] <;> rfl

theorem read_expression (s : Schedule) : Cron.read s.expression = some s.cron := by
  unfold expression cron
  rw [aligned_iff]
  split
  · rename_i can
    cases unit : s.unit with
    | second =>
      rw [unit] at can
      refine Cron.read_fields (by simp [FieldSpec.text, List.intercalate]) ?_
      exact .cons can <| .cons trivial <| .cons trivial days_free
    | minute =>
      rw [unit] at can
      refine Cron.read_fields (by simp [FieldSpec.text, List.intercalate]) ?_
      exact .cons ⟨Nat.le_refl 0, Nat.zero_le _⟩ <| .cons can <| .cons trivial days_free
    | hour =>
      rw [unit] at can
      refine Cron.read_fields (by simp [FieldSpec.text, List.intercalate]) ?_
      exact .cons ⟨Nat.le_refl 0, Nat.zero_le _⟩ <| .cons ⟨Nat.le_refl 0, Nat.zero_le _⟩ <|
        .cons can days_free
  · exact Cron.read_period (by simp [List.intercalate])

/-! Being due. -/

theorem fields_match {a b c : FieldSpec} {t : Instant} :
    Cron.Matches (.fields [a, b, c, .any, .any, .any]) t ↔
      ClockField.second.Matches t a ∧ ClockField.minute.Matches t b ∧
        ClockField.hour.Matches t c := by
  simp [Cron.Matches, ClockField.all, ClockField.Matches]

theorem step_matches {f : ClockField} (member : f ∈ ClockField.all) (zero : f.low = 0) {t : Instant}
    {n : Nat} : f.Matches t (.step n) ↔ f.shows t % n = 0 := by
  have high := (ClockField.shows_within member t).2
  rw [ClockField.Matches, zero, ← Nat.dvd_iff_mod_eq_zero]
  simp only [Nat.zero_add]
  constructor
  · rintro ⟨i, -, same⟩
    exact ⟨i, same.trans (Nat.mul_comm i n)⟩
  · rintro ⟨i, same⟩
    have steps : f.shows t = i * n := same.trans (Nat.mul_comm n i)
    exact ⟨i, steps ▸ high, steps⟩

theorem isDue_iff (s : Schedule) (t : Instant) : s.isDue t = true ↔ s.cron.Matches t := by
  unfold isDue cron
  rw [aligned_iff]
  split
  · cases s.unit with
    | second =>
      rw [fields_match, step_matches (.head _) rfl]
      simp [ClockField.Matches, ClockField.second]
    | minute =>
      rw [fields_match, step_matches (.tail _ (.head _)) rfl]
      simp [ClockField.Matches, ClockField.second, ClockField.minute]
    | hour =>
      rw [fields_match, step_matches (.tail _ (.tail _ (.head _))) rfl]
      simp [ClockField.Matches, ClockField.second, ClockField.minute, ClockField.hour, and_assoc]
  · rw [Cron.Matches, beq_iff_eq, Int.dvd_iff_emod_eq_zero]

/-- The expression of a schedule can be read and says when the schedule is due. It has six fields
just if the count is a step that the field of the unit can have. -/
structure ExpressionKept (s : Schedule) : Prop where
  fires : ∃ c, Cron.read s.expression = some c ∧ ∀ t, s.isDue t = true ↔ c.Matches t
  form : (∃ specs, Cron.read s.expression = some (.fields specs)) ↔
    s.unit.field.canStep s.count = true

/-- Whatever the count and the unit are, expression and schedule agree at every instant. -/
theorem expression_kept (s : Schedule) : ExpressionKept s where
  fires := ⟨s.cron, s.read_expression, s.isDue_iff⟩
  form := by
    rw [read_expression, cron]
    split
    · rename_i can
      refine ⟨fun _ => can, fun _ => ?_⟩
      cases s.unit <;> exact ⟨_, rfl⟩
    · rename_i cannot
      refine ⟨?_, fun can => absurd can cannot⟩
      rintro ⟨_, ⟨⟩⟩

end Schedule

end Reflex
