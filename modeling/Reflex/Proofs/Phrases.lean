import Mathlib.Data.List.DropRight
import Reflex.Schedule.Phrase

/-! The grammar of durations in words. What follows it is read, and nothing else; what is written
for a schedule follows it. -/
namespace Reflex
open Text

/-- A text without the white space at its ends. -/
structure Trims (text phrase : List Char) : Prop where
  around : ∃ front back, text = front ++ (phrase ++ back) ∧ (∀ c ∈ front, isBlank c = true) ∧
    ∀ c ∈ back, isBlank c = true
  starts : ∀ c ∈ phrase.head?, isBlank c = false
  ends : ∀ c ∈ phrase.getLast?, isBlank c = false

/-- The digits of a count; without any it is one. -/
inductive CountOf : List Char → Nat → Prop
  | one : CountOf [] 1
  | numeral {digits : List Char} : digits ≠ [] → (∀ c ∈ digits, c.isDigit = true) →
      CountOf digits (Nat.ofDigitChars 10 digits 0)

/-- A unit by its name in capital or small letters, or by its name and a letter s, which may be a
long one. Without a name it is the second. -/
inductive UnitOf : List Char → TimeUnit → Prop
  | seconds : UnitOf [] .second
  | singular {word : List Char} {u : TimeUnit} : word.map Char.toLower = u.name.toList →
      UnitOf word u
  | plural {stem : List Char} {u : TimeUnit} {c : Char} : stem.map Char.toLower = u.name.toList →
      c ∈ ['s', 'S', 'ſ'] → UnitOf (stem ++ [c]) u

/-- A count, white space and a unit. The count or the unit may be missing, but not both. -/
inductive Phrase : List Char → Nat → TimeUnit → Prop
  | intro {digits gap word : List Char} {count : Nat} {u : TimeUnit} : CountOf digits count →
      (∀ c ∈ gap, isBlank c = true) → UnitOf word u → digits ≠ [] ∨ word ≠ [] →
      Phrase (digits ++ (gap ++ word)) count u

/-! White space at the ends. -/

section Trimming

variable {α : Type} {p : α → Bool} {front rest : List α}

theorem dropWhile_exact (all : ∀ c ∈ front, p c = true) (stops : ∀ c ∈ rest.head?, p c = false) :
    (front ++ rest).dropWhile p = rest := by
  rw [List.dropWhile_append_of_pos all]
  cases rest with
  | nil => rfl
  | cons c rest => exact List.dropWhile_cons_of_neg (by simp [stops c rfl])

theorem takeWhile_exact (all : ∀ c ∈ front, p c = true) (stops : ∀ c ∈ rest.head?, p c = false) :
    (front ++ rest).takeWhile p = front := by
  rw [List.takeWhile_append_of_pos all]
  cases rest with
  | nil => exact List.append_nil front
  | cons c rest =>
    rw [List.takeWhile_cons_of_neg (by simp [stops c rfl]), List.append_nil]

theorem head?_dropWhile {l : List α} {c : α} (first : c ∈ (l.dropWhile p).head?) :
    p c = false := by
  have stops := List.head?_dropWhile_not p l
  rw [Option.mem_def.mp first] at stops
  exact stops

theorem trims_iff {text phrase : List Char} : Trims text phrase ↔ phrase = trimBlanks text := by
  constructor
  · rintro ⟨⟨front, back, rfl, before, after⟩, starts, ends⟩
    cases phrase with
    | nil =>
      have blank : ∀ c ∈ front ++ back, isBlank c = true :=
        List.forall_mem_append.mpr ⟨before, after⟩
      rw [trimBlanks, List.nil_append, List.dropWhile_eq_nil_iff.mpr blank]
      rfl
    | cons c rest =>
      have trailing : ∀ c ∈ back.reverse, isBlank c = true :=
        fun c member => after c (List.mem_reverse.mp member)
      rw [trimBlanks, dropWhile_exact before (by simpa using starts), List.reverse_append,
        dropWhile_exact trailing (by rwa [List.head?_reverse]), List.reverse_reverse]
  · rintro rfl
    have split : trimBlanks text ++ (text.dropWhile isBlank).rtakeWhile isBlank =
        text.dropWhile isBlank := List.rdropWhile_append_rtakeWhile
    refine ⟨⟨text.takeWhile isBlank, (text.dropWhile isBlank).rtakeWhile isBlank, ?_,
      fun c => List.mem_takeWhile_imp, fun c => List.mem_rtakeWhile_imp⟩, ?_, ?_⟩
    · exact ((congrArg _ split).trans List.takeWhile_append_dropWhile).symm
    · intro c first
      refine head?_dropWhile (?_ : c ∈ (text.dropWhile isBlank).head?)
      rw [← split, List.head?_append, first]
      rfl
    · intro c last
      rw [trimBlanks, List.getLast?_reverse] at last
      exact head?_dropWhile last

end Trimming

/-! CountOf. -/

theorem digitOf_digit {c : Char} (digit : c.isDigit = true) :
    digitOf c = some (c.toNat - '0'.toNat) := by
  obtain ⟨low, high⟩ := Char.isDigit_iff_toNat.mp digit
  exact if_pos ⟨low, high⟩

theorem numeralFrom_digits (n : Nat) {digits : List Char} (all : ∀ c ∈ digits, c.isDigit = true) :
    numeralFrom n digits = some (Nat.ofDigitChars 10 digits n) := by
  induction digits generalizing n with
  | nil => rw [numeralFrom, Nat.ofDigitChars_nil]
  | cons c rest ih =>
    obtain ⟨digit, all⟩ := List.forall_mem_cons.mp all
    rw [numeralFrom, digitOf_digit digit, Nat.ofDigitChars_cons]
    exact ih _ all

theorem numeral_digits {digits : List Char} (some : digits ≠ [])
    (all : ∀ c ∈ digits, c.isDigit = true) :
    numeral digits = .some (Nat.ofDigitChars 10 digits 0) := by
  rw [numeral, if_neg (by simpa using some), numeralFrom_digits 0 all]

theorem numeralFrom_all {s : List Char} {m n : Nat} (read : numeralFrom m s = some n) :
    ∀ c ∈ s, c.isDigit = true := by
  induction s generalizing m with
  | nil => exact List.forall_mem_nil _
  | cons c rest ih =>
    obtain ⟨digit, first, read⟩ := Option.bind_eq_some_iff.mp read
    refine List.forall_mem_cons.mpr ⟨?_, ih read⟩
    unfold digitOf at first
    split at first
    · rename_i within
      exact Char.isDigit_iff_toNat.mpr within
    · cases first

theorem numeral_iff {s : List Char} {n : Nat} : numeral s = some n ↔
    s ≠ [] ∧ (∀ c ∈ s, c.isDigit = true) ∧ Nat.ofDigitChars 10 s 0 = n := by
  constructor
  · intro read
    have nonempty : s ≠ [] := by
      rintro rfl
      cases read
    have all : ∀ c ∈ s, c.isDigit = true := by
      rw [numeral, if_neg (by simpa using nonempty)] at read
      exact numeralFrom_all read
    rw [numeral_digits nonempty all] at read
    exact ⟨nonempty, all, Option.some.inj read⟩
  · rintro ⟨nonempty, all, rfl⟩
    exact numeral_digits nonempty all

namespace Schedule

/-- The number that digits stand for, if any. -/
def readCount (digits : List Char) : Option Nat :=
  if digits = [] then some 1 else numeral digits

theorem readCount_iff {digits : List Char} (all : ∀ c ∈ digits, c.isDigit = true) {count : Nat} :
    readCount digits = some count ↔ CountOf digits count := by
  unfold readCount
  constructor
  · intro read
    split at read
    · rename_i none
      subst none
      cases read
      exact .one
    · rename_i some
      rw [numeral_digits some all, Option.some_inj] at read
      exact read ▸ .numeral some all
  · rintro (_ | ⟨some, -⟩)
    · rfl
    · rw [if_neg some, numeral_digits some all]

end Schedule

/-! Units. -/

theorem TimeUnit.name_ne_nil (u : TimeUnit) : u.name.toList ≠ [] := by
  cases u <;> decide

namespace Schedule

/-- The unit that a word stands for, if any. -/
def readUnit (word : List Char) : Option TimeUnit :=
  if word = [] then some .second else unitNamed word

theorem singular_concat (stem : List Char) (c : Char) :
    singular (stem ++ [c]) = if c ∈ ['s', 'S', 'ſ'] then stem else stem ++ [c] := by
  rw [singular, List.reverse_append]
  simp only [List.reverse_singleton, List.singleton_append, List.reverse_reverse, List.mem_cons,
    List.not_mem_nil, or_false]

theorem unitNamed_name {word : List Char} {u : TimeUnit} :
    unitNamed word = some u ↔ (singular word).map Char.toLower = u.name.toList := by
  have spelled : (singular word).map Char.toLower = u.name.toList ↔
      u.name = String.ofList ((singular word).map Char.toLower) := by
    rw [← String.toList_inj, String.toList_ofList, eq_comm]
  rw [spelled, unitNamed]
  constructor
  · intro found
    have named := List.find?_some found
    exact of_decide_eq_true named
  · intro same
    rw [← same]
    cases u <;> rfl

/-- The name of a unit does not end like a plural. -/
theorem name_end {stem : List Char} {c : Char} {u : TimeUnit}
    (spelled : (stem ++ [c]).map Char.toLower = u.name.toList) : c ∉ ['s', 'S', 'ſ'] := by
  have last := congrArg List.getLast? spelled
  rw [List.map_append, List.map_singleton, List.getLast?_concat] at last
  intro plural
  simp only [List.mem_cons, List.not_mem_nil, or_false] at plural
  rcases plural with rfl | rfl | rfl <;> cases u <;> revert last <;> decide

theorem readUnit_iff {word : List Char} {u : TimeUnit} :
    readUnit word = some u ↔ UnitOf word u := by
  unfold readUnit
  constructor
  · intro read
    split at read
    · rename_i none
      subst none
      cases read
      exact .seconds
    · rename_i some
      obtain ⟨stem, c, rfl⟩ := (List.eq_nil_or_concat' word).resolve_left some
      rw [unitNamed_name, singular_concat] at read
      split at read
      · rename_i plural
        exact .plural read plural
      · exact .singular read
  · rintro (_ | spelled | ⟨spelled, plural⟩)
    · rfl
    · have some : word ≠ [] := by
        rintro rfl
        exact u.name_ne_nil spelled.symm
      rw [if_neg some, unitNamed_name]
      obtain ⟨stem, c, rfl⟩ := (List.eq_nil_or_concat' word).resolve_left some
      rw [singular_concat, if_neg (name_end spelled)]
      exact spelled
    · rw [if_neg (by simp), unitNamed_name, singular_concat, if_pos plural]
      exact spelled

end Schedule

theorem digit_solid {c : Char} (digit : c.isDigit = true) : isBlank c = false := by
  obtain ⟨low, high⟩ := Char.isDigit_iff_toNat.mp digit
  simp only [Char.reduceToNat] at low high
  simp [isBlank]
  omega

/-- A letter of a name, small or capital, is neither a digit nor white space. -/
theorem letter_solid {c l : Char} (lower : c.toLower = l) (small : l.isLower = true) :
    c.isDigit = false ∧ isBlank c = false := by
  have bounds : 65 ≤ c.toNat ∧ c.toNat ≤ 122 := by
    unfold Char.toLower at lower
    split at lower
    · rename_i capital
      exact ⟨capital.1, Nat.le_trans capital.2 (by decide)⟩
    · subst lower
      obtain ⟨low, high⟩ := Bool.and_eq_true_iff.mp small
      have low : 97 ≤ c.toNat := of_decide_eq_true low
      exact ⟨Nat.le_trans (by decide) low, of_decide_eq_true high⟩
  constructor
  · refine Bool.eq_false_iff.mpr fun digit => ?_
    have high := (Char.isDigit_iff_toNat.mp digit).2
    simp only [Char.reduceToNat] at high
    omega
  · simp [isBlank]
    omega

theorem CountOf.digits {digits : List Char} {count : Nat} (counts : CountOf digits count) :
    ∀ c ∈ digits, c.isDigit = true := by
  cases counts with
  | one => exact List.forall_mem_nil _
  | numeral _ all => exact all

theorem spelled_solid {stem : List Char} {u : TimeUnit}
    (spelled : stem.map Char.toLower = u.name.toList) :
    ∀ c ∈ stem.head?, c.isDigit = false ∧ isBlank c = false := by
  intro c first
  have lower : u.name.toList.head? = some c.toLower := by
    rw [← spelled, List.head?_map, first, Option.map_some]
  have small : ∀ u : TimeUnit, ∀ l ∈ u.name.toList.head?, l.isLower = true := by
    rintro (_ | _ | _) l ⟨⟩ <;> decide
  exact letter_solid rfl (small u _ lower)

theorem UnitOf.solid {word : List Char} {u : TimeUnit} (measures : UnitOf word u) :
    ∀ c ∈ word.head?, c.isDigit = false ∧ isBlank c = false := by
  rcases measures with _ | spelled | @⟨stem, _, _, spelled, -⟩
  · rintro c ⟨⟩
  · exact spelled_solid spelled
  · have some : stem ≠ [] := by
      rintro rfl
      exact u.name_ne_nil spelled.symm
    rw [List.head?_append_of_ne_nil _ some]
    exact spelled_solid spelled

section Mapping

variable {α β : Type} {x : Except Invalid α} {f : α → β}

theorem map_eq_ok {b : β} : x.map f = .ok b ↔ ∃ a, x = .ok a ∧ f a = b := by
  cases x <;> simp [Except.map]

theorem map_eq_error {cause : Invalid} : x.map f = .error cause ↔ x = .error cause := by
  cases x <;> simp [Except.map]

end Mapping

namespace Schedule

/-- What is read of a phrase depends on the digits in front and on what follows white space after
them. -/
theorem readPhrase_parts {phrase digits word : List Char}
    (front : phrase.takeWhile Char.isDigit = digits)
    (back : (phrase.dropWhile Char.isDigit).dropWhile isBlank = word) :
    readPhrase phrase = if digits = [] ∧ word = [] then none else
      (readCount digits).bind fun count => (readUnit word).bind fun u => some (count, u) := by
  unfold readPhrase
  rw [front, back]
  cases digits <;> cases word <;> rfl

theorem readPhrase_sound {phrase : List Char} {count : Nat} {u : TimeUnit}
    (read : readPhrase phrase = some (count, u)) : Phrase phrase count u := by
  rw [readPhrase_parts rfl rfl] at read
  split at read
  · cases read
  rename_i either
  obtain ⟨count, counted, read⟩ := Option.bind_eq_some_iff.mp read
  obtain ⟨u, measured, ⟨⟩⟩ := Option.bind_eq_some_iff.mp read
  have digits := (readCount_iff fun c => List.mem_takeWhile_imp).mp counted
  have blank : ∀ c ∈ (phrase.dropWhile Char.isDigit).takeWhile isBlank, isBlank c = true :=
    fun c => List.mem_takeWhile_imp
  have parts := Phrase.intro digits blank (readUnit_iff.mp measured) (not_and_or.mp either)
  rwa [List.takeWhile_append_dropWhile, List.takeWhile_append_dropWhile] at parts

theorem readPhrase_complete {phrase : List Char} {count : Nat} {u : TimeUnit}
    (reads : Phrase phrase count u) : readPhrase phrase = some (count, u) := by
  obtain @⟨digits, gap, word, _, _, counts, blank, measures, either⟩ := reads
  have solid := measures.solid
  have stops : ∀ c ∈ (gap ++ word).head?, c.isDigit = false := by
    cases gap with
    | nil => exact fun c first => (solid c first).1
    | cons b rest =>
      rintro c ⟨⟩
      refine Bool.eq_false_iff.mpr fun digit => ?_
      exact absurd (blank b (.head _)) (Bool.eq_false_iff.mp (digit_solid digit))
  have front := takeWhile_exact counts.digits stops
  have back : ((digits ++ (gap ++ word)).dropWhile Char.isDigit).dropWhile isBlank = word := by
    rw [dropWhile_exact counts.digits stops, dropWhile_exact blank fun c first => (solid c first).2]
  rw [readPhrase_parts front back, if_neg (not_and_or.mpr either),
    (readCount_iff counts.digits).mpr counts, Option.bind_some, readUnit_iff.mpr measures,
    Option.bind_some]

/-- A text is split just into the count and the unit of the phrase between white space. -/
theorem split_ok {text : String} {count : Count} {u : TimeUnit} : split text = .ok (count, u) ↔
    ∃ phrase, Trims text.toList phrase ∧ Phrase phrase count u := by
  have found : split text = .ok (count, u) ↔
      readPhrase (trimBlanks text.toList) = some (count.1, u) := by
    unfold split
    rcases readPhrase (trimBlanks text.toList) with _ | ⟨other, v⟩
    · simp
    · by_cases fits : 0 < other ∧ other < Word.size32
      · simp [fits, Subtype.ext_iff]
      · simp only [dif_neg fits, Option.some_inj, Prod.mk.injEq, reduceCtorEq, false_iff]
        rintro ⟨rfl, -⟩
        exact fits count.2
  rw [found]
  constructor
  · exact fun read => ⟨_, trims_iff.mpr rfl, readPhrase_sound read⟩
  · rintro ⟨phrase, trims, reads⟩
    rw [← trims_iff.mp trims]
    exact readPhrase_complete reads

theorem split_error {text : String} {cause : Invalid} (refused : split text = .error cause) :
    cause = .duration text := by
  unfold split at refused
  split at refused
  · split at refused <;> cases refused
    rfl
  · cases refused
    rfl

theorem parse_iff {text : String} {s : Schedule} : parse text = .ok s ↔
    ∃ phrase, Trims text.toList phrase ∧ Phrase phrase s.count s.unit := by
  rw [parse, map_eq_ok]
  constructor
  · rintro ⟨⟨count, u⟩, parts, rfl⟩
    exact split_ok.mp parts
  · intro spelled
    exact ⟨(⟨s.count, s.count_pos, s.count_lt⟩, s.unit), split_ok.mpr spelled, rfl⟩

theorem parse_error {text : String} {cause : Invalid} (refused : parse text = .error cause) :
    cause = .duration text :=
  split_error (map_eq_error.mp refused)

end Schedule

/-- A duration is the period of the schedule with the same words. -/
theorem Span.parse_eq (text : String) :
    Span.parse text = (Schedule.parse text).map Schedule.period := by
  unfold Span.parse Schedule.parse
  cases Schedule.split text <;> rfl

/-! Words for a schedule. -/

theorem Trims.self {phrase : List Char} (starts : ∀ c ∈ phrase.head?, isBlank c = false)
    (ends : ∀ c ∈ phrase.getLast?, isBlank c = false) : Trims phrase phrase :=
  ⟨⟨[], [], (List.append_nil phrase).symm, List.forall_mem_nil _, List.forall_mem_nil _⟩, starts,
    ends⟩

theorem Trims.name (u : TimeUnit) : Trims u.name.toList u.name.toList := by
  apply self
  · intro c first
    cases u <;> cases first <;> rfl
  · intro c last
    cases u <;> cases last <;> rfl

theorem TimeUnit.name_small (u : TimeUnit) : u.name.toList.map Char.toLower = u.name.toList := by
  cases u <;> decide

theorem CountOf.digits_of (n : Nat) : CountOf (Nat.toDigits 10 n) n := by
  have digits : ∀ c ∈ Nat.toDigits 10 n, c.isDigit = true := fun c member =>
    Nat.isDigit_of_mem_toDigits (by decide) (by decide) member
  have read := CountOf.numeral Nat.toDigits_ne_nil digits
  rwa [Nat.ofDigitChars_ten_toDigits] at read

/-- A name alone says one unit. -/
theorem Phrase.single (u : TimeUnit) : Phrase u.name.toList 1 u :=
  .intro .one (List.forall_mem_nil _) (.singular u.name_small) (.inr u.name_ne_nil)

theorem Phrase.counted (n : Nat) (u : TimeUnit) :
    Phrase (Nat.toDigits 10 n ++ ([' '] ++ (u.name.toList ++ ['s']))) n u :=
  .intro (.digits_of n) (List.forall_mem_singleton.mpr rfl) (.plural u.name_small (.head _))
    (.inl Nat.toDigits_ne_nil)

namespace Schedule

theorem render_parses (s : Schedule) :
    ∃ rest, s.render = "every " ++ rest ∧ Schedule.parse rest = .ok s := by
  unfold render
  split
  · rename_i single
    exact ⟨s.unit.name, rfl, parse_iff.mpr ⟨_, .name s.unit, single ▸ .single s.unit⟩⟩
  · refine ⟨toString s.count ++ " " ++ s.unit.name ++ "s", by simp only [String.append_assoc], ?_⟩
    have spelled : (toString s.count ++ " " ++ s.unit.name ++ "s").toList =
        Nat.toDigits 10 s.count ++ ([' '] ++ (s.unit.name.toList ++ ['s'])) := by
      simp
    rw [parse_iff, spelled]
    refine ⟨_, .self ?_ ?_, .counted s.count s.unit⟩
    · intro c first
      rw [List.head?_append_of_ne_nil _ Nat.toDigits_ne_nil] at first
      exact digit_solid ((CountOf.digits_of s.count).digits c (List.mem_of_mem_head? first))
    · rw [← List.append_assoc, ← List.append_assoc, List.getLast?_concat]
      rintro c ⟨⟩
      rfl

/-- What is read of texts, and what is written for schedules. -/
structure PhrasesKept : Prop where
  /-- Just the phrases between white space are read, when the count is positive and below 2^32. -/
  reads : ∀ text (s : Schedule), parse text = .ok s ↔
    ∃ phrase, Trims text.toList phrase ∧ Phrase phrase s.count s.unit
  refuses : ∀ text, (∀ phrase count u, Trims text.toList phrase → Phrase phrase count u →
      ¬ (0 < count ∧ count < Word.size32)) →
    parse text = .error (.duration text) ∧ Span.parse text = .error (.duration text)
  durations : ∀ text d, Span.parse text = .ok d ↔ ∃ s, parse text = .ok s ∧ d = s.period
  fits : ∀ s : Schedule, s.period = .ofSeconds (s.count * s.unit.seconds) ∧
    s.count * s.unit.seconds < Word.size64
  renders : ∀ s : Schedule, ∃ rest, s.render = "every " ++ rest ∧ parse rest = .ok s

/-- Texts are read by the grammar alone, and schedules are read back from their words. -/
theorem phrases_kept : PhrasesKept where
  reads text s := parse_iff
  refuses text never := by
    have refused : parse text = .error (.duration text) := by
      cases read : parse text with
      | ok s =>
        obtain ⟨phrase, trims, reads⟩ := parse_iff.mp read
        exact absurd ⟨s.count_pos, s.count_lt⟩ (never phrase _ _ trims reads)
      | error cause => rw [parse_error read]
    rw [Span.parse_eq, refused]
    exact ⟨rfl, rfl⟩
  durations text d := by
    rw [Span.parse_eq, map_eq_ok]
    simp only [eq_comm]
  fits s := by
    refine ⟨rfl, ?_⟩
    have short : s.unit.seconds ≤ 3600 := by cases s.unit <;> decide
    calc s.count * s.unit.seconds ≤ Word.size32 * 3600 := Nat.mul_le_mul s.count_lt.le short
      _ < Word.size64 := by decide
  renders := render_parses

end Schedule

end Reflex
