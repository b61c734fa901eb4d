import Mathlib.Data.String.Basic
import Reflex.Proofs.Calendar
import Reflex.Proofs.Phrases
import Reflex.Time.OfDay

/-! Times of day in writing. Reading them by bytes never divides a character, what is read is
written the same way again, and windows agree with the order of the texts. -/
namespace Reflex
open Text

/-! Texts cut by bytes. -/

namespace Text

/-- The part of a text between two offsets in bytes; none when one of them is inside a character. -/
def slice? (text : String) (first last : Nat) : Option String :=
  if h : (⟨first⟩ : String.Pos.Raw).IsValid text ∧ (⟨last⟩ : String.Pos.Raw).IsValid text then
    some (text.extract ⟨⟨first⟩, h.1⟩ ⟨⟨last⟩, h.2⟩)
  else none

theorem slice?_append (front part back : String) :
    slice? (front ++ part ++ back) front.utf8ByteSize (front ++ part).utf8ByteSize = some part := by
  have first : (⟨front.utf8ByteSize⟩ : String.Pos.Raw).IsValid (front ++ part ++ back) :=
    String.Pos.Raw.isValid_iff_exists_append.mpr ⟨front, part ++ back, String.append_assoc .., rfl⟩
  have last : (⟨(front ++ part).utf8ByteSize⟩ : String.Pos.Raw).IsValid (front ++ part ++ back) :=
    String.Pos.Raw.isValid_iff_exists_append.mpr ⟨front ++ part, back, rfl, rfl⟩
  rw [slice?, dif_pos ⟨first, last⟩, Option.some_inj, ← String.toByteArray_inj,
    String.toByteArray_extract]
  change ByteArray.extract (front ++ part ++ back).toByteArray (front.toByteArray.size + 0)
    (front ++ part).utf8ByteSize = part.toByteArray
  rw [String.append_assoc, String.toByteArray_append, String.utf8ByteSize_append]
  change ByteArray.extract _ _ (front.toByteArray.size + part.toByteArray.size) = _
  rw [ByteArray.extract_append_size_add, String.toByteArray_append,
    ByteArray.extract_append_eq_left rfl]

theorem utf8Size_ascii {c : Char} (ascii : c.toNat < 128) : c.utf8Size = 1 := by
  rw [Char.utf8Size_eq_one_iff, UInt32.le_iff_toNat_le]
  exact Nat.le_of_lt_succ ascii

/-- An encoding of several bytes starts with one that is no character of its own. -/
theorem encode_head {c d : Char} (ascii : c.toNat < 128)
    (byte : (String.utf8EncodeChar d).head? = some c.toUInt8) : d = c := by
  have number : c.toUInt8.toNat = c.toNat % 256 := rfl
  have value : d.val.toNat = d.toNat := rfl
  unfold String.utf8EncodeChar at byte
  dsimp only at byte
  rw [← Char.toNat_inj]
  -- One case for each length of an encoding, told apart by the size of the first byte.
  repeat' split at byte
  all_goals
    have same := congrArg UInt8.toNat (Option.some.inj byte)
    rw [UInt8.toNat_ofNat', number] at same
    omega

theorem byte_append (front : String) (d : Char) (rest : List Char) :
    (front ++ String.ofList (d :: rest)).toByteArray[front.utf8ByteSize]? =
      (String.utf8EncodeChar d).head? := by
  have nonempty : 0 < (String.utf8EncodeChar d).toByteArray.size := by simp [d.utf8Size_pos]
  have bytes : (front ++ String.ofList (d :: rest)).toByteArray =
      front.toByteArray ++ ((String.utf8EncodeChar d).toByteArray ++ rest.utf8Encode) := by
    rw [String.toByteArray_append, String.toByteArray_ofList, List.utf8Encode_cons,
      List.utf8Encode_singleton]
  have within : front.utf8ByteSize < (front ++ String.ofList (d :: rest)).toByteArray.size := by
    rw [bytes, ByteArray.size_append, ByteArray.size_append, String.utf8ByteSize]
    omega
  have past : front.toByteArray.size ≤ front.utf8ByteSize := Nat.le_refl _
  have start : front.utf8ByteSize - front.toByteArray.size = 0 := Nat.sub_self _
  rw [getElem?_pos (front ++ String.ofList (d :: rest)).toByteArray _ within]
  simp only [bytes]
  rw [ByteArray.getElem_append_right past]
  simp only [start]
  rw [ByteArray.getElem_append_left nonempty, List.getElem_toByteArray, List.head?_eq_getElem?,
    List.getElem?_eq_getElem]

/-- A byte below 128 is a character of its own. -/
theorem byte_iff {text : String} {n : Nat} {c : Char} (ascii : c.toNat < 128) :
    text.toByteArray[n]? = some c.toUInt8 ↔
      ∃ front rest, text = front ++ String.ofList (c :: rest) ∧ front.utf8ByteSize = n := by
  have single : String.utf8EncodeChar c = [c.toUInt8] :=
    String.utf8EncodeChar_eq_singleton (utf8Size_ascii ascii)
  constructor
  · intro found
    obtain ⟨within, byte⟩ := getElem?_eq_some_iff.mp found
    have boundary : (⟨n⟩ : String.Pos.Raw).IsValid text := by
      refine String.Pos.Raw.isValid_iff_isUTF8FirstByte.mpr (.inr ⟨within, ?_⟩)
      have nonempty : 0 < (String.utf8EncodeChar c).length := by simp [c.utf8Size_pos]
      have first := (@UInt8.isUTF8FirstByte_getElem_utf8EncodeChar c 0 nonempty).mpr rfl
      simp only [single] at first
      change (text.toByteArray[n]).IsUTF8FirstByte
      rwa [byte]
    obtain ⟨front, rest, rfl, size⟩ := String.Pos.Raw.isValid_iff_exists_append.mp boundary
    obtain rfl : n = front.utf8ByteSize := congrArg String.Pos.Raw.byteIdx size
    obtain ⟨rest, rfl⟩ := rest.exists_eq_ofList
    cases rest with
    | nil => simp at within
    | cons d rest =>
      rw [byte_append] at found
      exact ⟨front, rest, by rw [encode_head ascii found], rfl⟩
  · rintro ⟨front, rest, rfl, rfl⟩
    rw [byte_append, single]
    rfl

end Text

namespace TimeOfDay

/-- The time of these numbers, if there is one. -/
def ofNumbers (hour minute : Nat) : Option TimeOfDay :=
  if h : hour < 24 ∧ minute < 60 then some ⟨⟨hour, h.1⟩, ⟨minute, h.2⟩⟩ else none

/-- The time of an hour and a minute in digits. -/
def ofParts (front back : List Char) : Option TimeOfDay := do
  ofNumbers (← numeral front) (← numeral back)

/-- A text read by bytes: there must be five of them, the middle one a colon, and the numbers are
cut out before and after it. There is no outcome when a cut would go through a character. -/
def parseBytes (text : String) : Option (Except Invalid TimeOfDay) :=
  if text.utf8ByteSize = 5 ∧ text.toByteArray[2]? = some ':'.toUInt8 then do
    let front ← slice? text 0 2
    let back ← slice? text 3 5
    return (ofParts front.toList back.toList).elim (.error (.timeOfDay text)) .ok
  else some (.error (.timeOfDay text))

/-- Two digits for an hour of the day, a colon, and two digits for a minute of the hour. -/
inductive Writes : String → TimeOfDay → Prop
  | intro {a b c d : Char} (digits : ∀ x ∈ [a, b, c, d], x.isDigit = true)
      (hour : Nat.ofDigitChars 10 [a, b] 0 < 24) (minute : Nat.ofDigitChars 10 [c, d] 0 < 60) :
      Writes (String.ofList [a, b, ':', c, d]) ⟨⟨_, hour⟩, ⟨_, minute⟩⟩

/-! Numbers in digits. -/

theorem digits_size {s : List Char} (all : ∀ c ∈ s, c.isDigit = true) :
    (String.ofList s).utf8ByteSize = s.length := by
  induction s with
  | nil => rfl
  | cons c rest ih =>
    obtain ⟨digit, all⟩ := List.forall_mem_cons.mp all
    have bounds := Char.isDigit_iff_toNat.mp digit
    have ascii : c.toNat < 128 := Nat.lt_of_le_of_lt bounds.2 (by decide)
    rw [String.utf8ByteSize_ofList] at ih ⊢
    simp [String.utf8Len_cons, ih all, utf8Size_ascii ascii]

/-! Reading. -/

theorem readChars_parts (a b c d : Char) :
    readChars [a, b, ':', c, d] = ofParts [a, b] [c, d] := by
  simp only [readChars, ofParts, numeral, numeralFrom, Nat.mul_zero, Nat.zero_add]
  cases digitOf a <;> cases digitOf b <;> cases digitOf c <;> cases digitOf d <;> rfl

theorem ofParts_iff {front back : List Char} {t : TimeOfDay} : ofParts front back = some t ↔
    numeral front = some t.hour.val ∧ numeral back = some t.minute.val := by
  unfold ofParts ofNumbers
  constructor
  · intro made
    obtain ⟨hour, left, made⟩ := Option.bind_eq_some_iff.mp made
    obtain ⟨minute, right, made⟩ := Option.bind_eq_some_iff.mp made
    split at made
    · cases made
      exact ⟨left, right⟩
    · cases made
  · rintro ⟨left, right⟩
    rw [left, right]
    exact dif_pos ⟨t.hour.isLt, t.minute.isLt⟩

theorem readChars_iff {s : List Char} {t : TimeOfDay} : readChars s = some t ↔
    ∃ front back, s = front ++ ':' :: back ∧ front.length = 2 ∧ back.length = 2 ∧
      ofParts front back = some t := by
  constructor
  · intro read
    unfold readChars at read
    split at read
    · rename_i a b c d
      rw [← readChars, readChars_parts] at read
      exact ⟨[a, b], [c, d], rfl, rfl, rfl, read⟩
    · cases read
  · rintro ⟨front, back, rfl, first, last, made⟩
    obtain ⟨a, b, rfl⟩ := List.length_eq_two.mp first
    obtain ⟨c, d, rfl⟩ := List.length_eq_two.mp last
    exact (readChars_parts a b c d).trans made

theorem parse_ok {text : String} {t : TimeOfDay} :
    parse text = .ok t ↔ readChars text.toList = some t := by
  unfold parse
  cases readChars text.toList <;> simp

theorem parse_iff {text : String} {t : TimeOfDay} : parse text = .ok t ↔ Writes text t := by
  rw [parse_ok, readChars_iff]
  constructor
  · rintro ⟨front, back, spelled, first, last, made⟩
    obtain ⟨hour, minute⟩ := ofParts_iff.mp made
    obtain ⟨-, left, hour⟩ := numeral_iff.mp hour
    obtain ⟨-, right, minute⟩ := numeral_iff.mp minute
    obtain ⟨a, b, rfl⟩ := List.length_eq_two.mp first
    obtain ⟨c, d, rfl⟩ := List.length_eq_two.mp last
    obtain ⟨⟨_, _⟩, ⟨_, _⟩⟩ := t
    cases hour
    cases minute
    obtain rfl : text = String.ofList [a, b, ':', c, d] := by
      rw [← String.toList_inj, spelled, String.toList_ofList]
      rfl
    exact .intro (List.forall_mem_append.mpr ⟨left, right⟩) _ _
  · rintro @⟨a, b, c, d, digits, hour, minute⟩
    have all : ∀ x ∈ [a, b] ++ [c, d], x.isDigit = true := digits
    obtain ⟨left, right⟩ := List.forall_mem_append.mp all
    exact ⟨[a, b], [c, d], String.toList_ofList, rfl, rfl, ofParts_iff.mpr
      ⟨numeral_iff.mpr ⟨List.cons_ne_nil _ _, left, rfl⟩,
        numeral_iff.mpr ⟨List.cons_ne_nil _ _, right, rfl⟩⟩⟩

theorem parse_error {text : String} {cause : Invalid} (refused : parse text = .error cause) :
    cause = .timeOfDay text := by
  unfold parse at refused
  split at refused
  · cases refused
  · exact (Except.error.inj refused).symm

theorem parse_refuses {text : String} (malformed : ∀ t, ¬ Writes text t) :
    parse text = .error (.timeOfDay text) := by
  cases read : parse text with
  | ok t => exact absurd (parse_iff.mp read) (malformed t)
  | error cause => rw [parse_error read]

/-! Reading by bytes. -/

/-- Both cuts are next to the colon or at an end of the text. -/
theorem parseBytes_middle {front back : String} (first : front.utf8ByteSize = 2)
    (last : back.utf8ByteSize = 2) : parseBytes (front ++ ":" ++ back) =
      some ((ofParts front.toList back.toList).elim
        (.error (.timeOfDay (front ++ ":" ++ back))) .ok) := by
  have size : (front ++ ":" ++ back).utf8ByteSize = 5 := by
    rw [String.utf8ByteSize_append, String.utf8ByteSize_append, first, last]
    rfl
  have middle : (front ++ ":" ++ back).toByteArray[2]? = some ':'.toUInt8 := by
    refine (byte_iff (by decide)).mpr ⟨front, back.toList, ?_, first⟩
    rw [← String.toList_inj]
    simp
  have left : slice? (front ++ ":" ++ back) 0 2 = some front := by
    have cut := slice?_append "" front (":" ++ back)
    rwa [String.empty_append, first, ← String.append_assoc] at cut
  have right : slice? (front ++ ":" ++ back) 3 5 = some back := by
    have cut := slice?_append (front ++ ":") back ""
    rw [String.append_empty, size, String.utf8ByteSize_append, first] at cut
    exact cut
  rw [parseBytes, if_pos ⟨size, middle⟩, left, right]
  rfl

theorem numeral_size {text : String} {n : Nat} (read : numeral text.toList = some n) :
    text.utf8ByteSize = text.toList.length := by
  have size := digits_size (numeral_iff.mp read).2.1
  rwa [String.ofList_toList] at size

theorem parseBytes_eq (text : String) : parseBytes text = some (parse text) := by
  cases read : parse text with
  | ok t =>
    obtain ⟨front, back, spelled, first, last, made⟩ := readChars_iff.mp (parse_ok.mp read)
    obtain ⟨hour, minute⟩ := ofParts_iff.mp made
    obtain rfl : text = String.ofList front ++ ":" ++ String.ofList back := by
      rw [← String.toList_inj, spelled]
      simp
    rw [parseBytes_middle, String.toList_ofList, String.toList_ofList, made]
    · rfl
    · exact (digits_size (numeral_iff.mp hour).2.1).trans first
    · exact (digits_size (numeral_iff.mp minute).2.1).trans last
  | error cause =>
    obtain rfl := parse_error read
    by_cases guard : text.utf8ByteSize = 5 ∧ text.toByteArray[2]? = some ':'.toUInt8
    · obtain ⟨front, back, rfl, first⟩ := (byte_iff (by decide)).mp guard.2
      have spelled : front ++ String.ofList (':' :: back) =
          front ++ ":" ++ String.ofList back := by
        rw [← String.toList_inj]
        simp
      rw [spelled] at guard read ⊢
      have last : (String.ofList back).utf8ByteSize = 2 := by
        have size := guard.1
        rw [String.utf8ByteSize_append, String.utf8ByteSize_append, first] at size
        change 2 + 1 + _ = 5 at size
        omega
      rw [parseBytes_middle first last]
      cases made : ofParts front.toList (String.ofList back).toList with
      | none => rfl
      | some t =>
        obtain ⟨hour, minute⟩ := ofParts_iff.mp made
        have ok : parse (front ++ ":" ++ String.ofList back) = .ok t := by
          refine parse_ok.mpr (readChars_iff.mpr ⟨_, _, ?_, ?_, ?_, made⟩)
          · simp
          · rw [← numeral_size hour, first]
          · rw [← numeral_size minute, last]
        rw [read] at ok
        cases ok
    · exact if_neg guard

/-! Writing. -/

theorem padded_two {n : Nat} (small : n < 100) :
    (padded 2 n).toList = [Nat.digitChar (n / 10), Nat.digitChar (n % 10)] := by
  rw [padded, String.toList_ofList, Nat.toDigits_eq_if (by decide)]
  split
  · rename_i single
    rw [Nat.div_eq_of_lt single, Nat.mod_eq_of_lt single]
    rfl
  · rw [Nat.toDigits_of_lt_base (by omega)]
    rfl

theorem ofDigitChars_two {n : Nat} (small : n < 100) :
    Nat.ofDigitChars 10 [Nat.digitChar (n / 10), Nat.digitChar (n % 10)] 0 = n := by
  rw [Nat.ofDigitChars_cons_digitChar_of_lt_ten (by omega),
    Nat.ofDigitChars_cons_digitChar_of_lt_ten (by omega), Nat.ofDigitChars_nil]
  omega

theorem Writes.rendered (t : TimeOfDay) : Writes t.render t := by
  obtain ⟨⟨hour, early⟩, ⟨minute, short⟩⟩ := t
  have hours := ofDigitChars_two (show hour < 100 by omega)
  have minutes := ofDigitChars_two (show minute < 100 by omega)
  have text : render ⟨⟨hour, early⟩, ⟨minute, short⟩⟩ =
      String.ofList [Nat.digitChar (hour / 10), Nat.digitChar (hour % 10), ':',
        Nat.digitChar (minute / 10), Nat.digitChar (minute % 10)] := by
    rw [← String.toList_inj, render, String.toList_append, String.toList_append,
      padded_two (Nat.lt_trans early (by decide)), padded_two (Nat.lt_trans short (by decide))]
    exact String.toList_ofList.symm
  have digits : ∀ x ∈ [Nat.digitChar (hour / 10), Nat.digitChar (hour % 10),
      Nat.digitChar (minute / 10), Nat.digitChar (minute % 10)], x.isDigit = true := by
    simp [Nat.isDigit_digitChar]
    omega
  have written := Writes.intro digits (hours.symm ▸ early) (minutes.symm ▸ short)
  rw [text]
  convert written
  · exact hours.symm
  · exact minutes.symm

theorem char_lt {c d : Char} : c < d ↔ c.toNat < d.toNat :=
  Char.lt_def.trans UInt32.lt_iff_toNat_lt

/-- Earlier times are written by texts that come first. -/
theorem Writes.lt_iff {text other : String} {t u : TimeOfDay} (first : Writes text t)
    (second : Writes other u) : text < other ↔ t.minutes < u.minutes := by
  obtain @⟨a, b, c, d, digits, hour, minute⟩ := first
  obtain @⟨a', b', c', d', digits', hour', minute'⟩ := second
  simp only [List.forall_mem_cons, Char.isDigit_iff_toNat, Char.reduceToNat] at digits digits'
  simp only [Nat.ofDigitChars_cons, Nat.ofDigitChars_nil, Char.reduceToNat] at minute minute'
  simp only [String.lt_iff_toList_lt, String.toList_ofList, List.cons_lt_cons_iff, minutes,
    Nat.ofDigitChars_cons, Nat.ofDigitChars_nil, Char.reduceToNat, char_lt, ← Char.toNat_inj]
  simp
  omega

/-- Neither of two texts for one time comes first. -/
theorem Writes.unique {text : String} {t : TimeOfDay} (written : Writes text t) :
    text = t.render := by
  refine le_antisymm (not_lt.mp fun early => ?_) (not_lt.mp fun late => ?_)
  · exact Nat.lt_irrefl _ (((rendered t).lt_iff written).mp early)
  · exact Nat.lt_irrefl _ ((written.lt_iff (rendered t)).mp late)

theorem parse_render {text : String} {t : TimeOfDay} : parse text = .ok t ↔ text = t.render := by
  rw [parse_iff]
  constructor
  · exact Writes.unique
  · rintro rfl
    exact .rendered t

/-- The hour and the minute of an instant in writing. -/
theorem of_render (t : Instant) :
    (of t).render = padded 2 t.hour ++ ":" ++ padded 2 t.minute := by
  have hour : t.hour < 24 := by
    simp only [Instant.hour, Instant.secondOfDay]
    omega
  have minute : t.minute < 60 := Nat.mod_lt _ (by decide)
  simp only [render, of, Fin.val_ofNat, Nat.mod_eq_of_lt hour, Nat.mod_eq_of_lt minute]

end TimeOfDay

namespace TimeWindow
open TimeOfDay

theorem parse_ok {first last : String} {window : TimeWindow} : parse first last = .ok window ↔
    TimeOfDay.parse first = .ok window.first ∧ TimeOfDay.parse last = .ok window.last := by
  unfold parse
  cases TimeOfDay.parse first with
  | error cause => simp [bind, Except.bind]
  | ok start =>
    cases TimeOfDay.parse last with
    | error cause => simp [bind, Except.bind]
    | ok stop =>
      obtain ⟨earliest, latest⟩ := window
      simp [bind, Except.bind, pure, Except.pure]

theorem contains_iff {first last : String} {window : TimeWindow}
    (read : parse first last = .ok window) (t : Instant) : window.contains t = true ↔
      first ≤ (TimeOfDay.of t).render ∧ (TimeOfDay.of t).render ≤ last := by
  obtain ⟨start, stop⟩ := parse_ok.mp read
  have now := Writes.rendered (TimeOfDay.of t)
  rw [← not_lt, now.lt_iff (parse_iff.mp start), ← not_lt, (parse_iff.mp stop).lt_iff now]
  simp [contains]

end TimeWindow

/-- What texts for times of day and for windows of them say. -/
structure TimesKept : Prop where
  /-- Reading by bytes makes no cut through a character, and it finds what reading by characters
  does. -/
  bytes : ∀ text, TimeOfDay.parseBytes text = some (TimeOfDay.parse text)
  reads : ∀ text t, TimeOfDay.parse text = .ok t ↔ TimeOfDay.Writes text t
  refuses : ∀ text, (∀ t, ¬ TimeOfDay.Writes text t) →
    TimeOfDay.parse text = .error (.timeOfDay text)
  renders : ∀ text t, TimeOfDay.parse text = .ok t ↔ text = t.render
  windows : ∀ first last window, TimeWindow.parse first last = .ok window ↔
    TimeOfDay.Writes first window.first ∧ TimeOfDay.Writes last window.last
  /-- The first malformed bound is reported. -/
  refusesFirst : ∀ first last, (∀ t, ¬ TimeOfDay.Writes first t) →
    TimeWindow.parse first last = .error (.timeOfDay first)
  refusesLast : ∀ first last t, TimeOfDay.Writes first t → (∀ t, ¬ TimeOfDay.Writes last t) →
    TimeWindow.parse first last = .error (.timeOfDay last)
  contains : ∀ first last window, TimeWindow.parse first last = .ok window → ∀ t : Instant,
    (window.contains t = true ↔ first ≤ padded 2 t.hour ++ ":" ++ padded 2 t.minute ∧
      padded 2 t.hour ++ ":" ++ padded 2 t.minute ≤ last)
  reversed : ∀ first last window, TimeWindow.parse first last = .ok window → last < first →
    ∀ t, window.contains t = false

theorem times_kept : TimesKept where
  bytes := TimeOfDay.parseBytes_eq
  reads _ _ := TimeOfDay.parse_iff
  refuses _ := TimeOfDay.parse_refuses
  renders _ _ := TimeOfDay.parse_render
  windows first last window := by
    rw [TimeWindow.parse_ok, TimeOfDay.parse_iff, TimeOfDay.parse_iff]
  refusesFirst first last malformed := by
    rw [TimeWindow.parse, TimeOfDay.parse_refuses malformed]
    rfl
  refusesLast first last t written malformed := by
    rw [TimeWindow.parse, TimeOfDay.parse_iff.mpr written, TimeOfDay.parse_refuses malformed]
    rfl
  contains first last window read t := by
    rw [← TimeOfDay.of_render]
    exact TimeWindow.contains_iff read t
  reversed first last window read late t := by
    refine Bool.eq_false_iff.mpr fun inside => ?_
    obtain ⟨after, before⟩ := (TimeWindow.contains_iff read t).mp inside
    exact not_lt.mpr (after.trans before) late

/-- A window from the evening to the morning is never open. -/
theorem times_kept_overnight : TimeWindow.parse "22:00" "06:00" = .ok ⟨⟨22, 0⟩, ⟨6, 0⟩⟩ ∧
    ∀ t, TimeWindow.contains ⟨⟨22, 0⟩, ⟨6, 0⟩⟩ t = false :=
  ⟨rfl, times_kept.reversed "22:00" "06:00" _ rfl (by decide)⟩

end Reflex
