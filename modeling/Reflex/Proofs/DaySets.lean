import Mathlib.Data.Set.List
import Reflex.Proofs.Phrases
import Reflex.Time.Weekday

/-! Sets of days in words. What names denote is told apart from how they are read. -/
namespace Reflex
open Text

namespace Weekday

/-- A name in small letters: the full name of a day, its first three letters, or the name of the
days of work or of those of rest. -/
def Called (name : String) (d : Weekday) : Prop :=
  name = d.name ∨ name.toList = d.name.toList.take 3 ∨
    (name = "weekday" ∨ name = "weekdays") ∧ d ∈ [monday, tuesday, wednesday, thursday, friday] ∨
      (name = "weekend" ∨ name = "weekends") ∧ d ∈ [saturday, sunday]

instance (name : String) (d : Weekday) : Decidable (Called name d) :=
  inferInstanceAs (Decidable (_ ∨ _ ∨ _ ∧ _ ∨ _ ∧ _))

theorem mem_week (d : Weekday) : d ∈ week := by
  cases d <;> decide

theorem stem_injective {d e : Weekday} (same : d.name.toList.take 3 = e.name.toList.take 3) :
    d = e := by
  revert same
  cases d <;> cases e <;> decide

theorem of_eq_iff (t u : Instant) : Weekday.of t = Weekday.of u ↔ (7 : Int) ∣ u.day - t.day := by
  have distinct : ∀ m < 7, ∀ n < 7, ofIndex m = ofIndex n ↔ m = n := by decide
  rw [Weekday.of, Weekday.of, distinct _ (by omega) _ (by omega)]
  omega

end Weekday

namespace DaySet
open Weekday

@[ext]
theorem ext {a b : DaySet} (same : ∀ d, a.contains d = true ↔ b.contains d = true) : a = b := by
  obtain ⟨a⟩ := a
  obtain ⟨b⟩ := b
  exact congrArg DaySet.mk (funext fun d => Bool.eq_iff_iff.mpr (same d))

/-- The days of work, and those of rest. -/
theorem called_group {name : String} {d : Weekday} :
    (name = "weekday" ∨ name = "weekdays" → (Called name d ↔ d.isWorkday = true)) ∧
      (name = "weekend" ∨ name = "weekends" → (Called name d ↔ d.isWorkday = false)) := by
  constructor
  · rintro (rfl | rfl) <;> cases d <;> decide
  · rintro (rfl | rfl) <;> cases d <;> decide

theorem called_stem {name : String} {d : Weekday}
    (single : name = d.name ∨ name.toList = d.name.toList.take 3) :
    name.toList.take 3 = d.name.toList.take 3 := by
  rcases single with rfl | short
  · rfl
  · rw [short, List.take_take, Nat.min_self]

theorem named?_some {name : String} {days : DaySet} (found : named? name = some days) :
    (∃ d, Called name d) ∧ ∀ d, days.contains d = true ↔ Called name d := by
  unfold named? at found
  split at found
  · rename_i work
    cases found
    exact ⟨⟨monday, (called_group.1 work).mpr rfl⟩, fun d => (called_group.1 work).symm⟩
  split at found
  · rename_i rest
    cases found
    refine ⟨⟨sunday, (called_group.2 rest).mpr rfl⟩, fun d => ?_⟩
    rw [called_group.2 rest, Bool.not_eq_true']
  · rename_i work rest
    obtain ⟨day, first, rfl⟩ := Option.map_eq_some_iff.mp found
    have fits := List.find?_some first
    have single : name = day.name ∨ name.toList = day.name.toList.take 3 := of_decide_eq_true fits
    refine ⟨⟨day, single.imp_right .inl⟩, fun d => ?_⟩
    rw [beq_iff_eq]
    constructor
    · rintro rfl
      exact single.imp_right .inl
    · rintro (full | short | ⟨group, -⟩ | ⟨group, -⟩)
      · exact stem_injective ((called_stem (.inl full)).symm.trans (called_stem single))
      · exact stem_injective ((called_stem (.inr short)).symm.trans (called_stem single))
      · exact absurd group work
      · exact absurd group rest

theorem named?_none {name : String} (missing : named? name = none) (d : Weekday) :
    ¬ Called name d := by
  unfold named? at missing
  split at missing
  · cases missing
  split at missing
  · cases missing
  · rename_i work rest
    have others := List.find?_eq_none.mp (Option.map_eq_none_iff.mp missing) d (mem_week d)
    rw [decide_eq_true_iff, not_or] at others
    rintro (full | short | ⟨group, -⟩ | ⟨group, -⟩)
    · exact others.1 full
    · exact others.2 short
    · exact work group
    · exact rest group

/-! Names in a text. -/

/-- A text denotes a day when a name of the day stands in it, in capital or small letters, with
nothing but white space around. -/
def Denotes (text : String) (d : Weekday) : Prop :=
  ∃ word, Trims text.toList word ∧ Called (String.ofList (word.map Char.toLower)) d

/-- A text that denotes any day at all. -/
def Known (text : String) : Prop := ∃ d, Denotes text d

theorem denotes_iff {text : String} {d : Weekday} : Denotes text d ↔
    Called (String.ofList ((trimBlanks text.toList).map Char.toLower)) d := by
  simp [Denotes, trims_iff]

theorem parse_iff {text : String} {days : DaySet} : parse text = .ok days ↔
    Known text ∧ ∀ d, days.contains d = true ↔ Denotes text d := by
  simp only [Known, denotes_iff]
  unfold parse
  cases found : named? (String.ofList ((trimBlanks text.toList).map Char.toLower)) with
  | none => simp [named?_none found]
  | some all =>
    obtain ⟨called, contains⟩ := named?_some found
    constructor
    · rintro ⟨⟩
      exact ⟨called, contains⟩
    · rintro ⟨-, same⟩
      rw [ext fun d => (contains d).trans (same d).symm]

theorem parse_error {text : String} {cause : Invalid} :
    parse text = .error cause ↔ ¬ Known text ∧ cause = .day text := by
  simp only [Known, denotes_iff]
  unfold parse
  cases found : named? (String.ofList ((trimBlanks text.toList).map Char.toLower)) with
  | none => simp [named?_none found, eq_comm]
  | some all => simp [(named?_some found).1]

/-! Lists of names. -/

/-- The first member of a list with a property. -/
inductive First {α : Type} (P : α → Prop) : List α → α → Prop
  | here {x : α} {rest : List α} : P x → First P (x :: rest) x
  | later {x y : α} {rest : List α} : ¬ P x → First P rest y → First P (x :: rest) y

theorem not_first_nil {α : Type} {P : α → Prop} {x : α} : ¬ First P [] x := by
  rintro ⟨⟩

theorem first_cons {α : Type} {P : α → Prop} {x y : α} {rest : List α} :
    First P (x :: rest) y ↔ P x ∧ y = x ∨ ¬ P x ∧ First P rest y := by
  constructor
  · rintro (holds | ⟨fails, found⟩)
    · exact .inl ⟨holds, rfl⟩
    · exact .inr ⟨fails, found⟩
  · rintro (⟨holds, rfl⟩ | ⟨fails, found⟩)
    · exact .here holds
    · exact .later fails found

theorem parseInto_ok {names : List String} {days all : DaySet} :
    parseInto days names = .ok all ↔ (∀ name ∈ names, Known name) ∧
      ∀ d, all.contains d = true ↔ days.contains d = true ∨ ∃ name ∈ names, Denotes name d := by
  induction names generalizing days with
  | nil =>
    constructor
    · rintro ⟨⟩
      simp
    · rintro ⟨-, same⟩
      have whole : days = all := ext fun d => by simp [same d]
      rw [parseInto, whole]
  | cons name rest ih =>
    unfold parseInto
    cases first : parse name with
    | error cause =>
      have unknown := (parse_error.mp first).1
      simp [unknown, bind, Except.bind]
    | ok some =>
      obtain ⟨known, contains⟩ := parse_iff.mp first
      have whole : (Except.ok some >>= fun found => parseInto (days.union found) rest) =
        parseInto (days.union some) rest := rfl
      rw [whole, ih]
      simp [union, known, contains, or_assoc]

theorem parseInto_error {names : List String} {days : DaySet} {cause : Invalid} :
    parseInto days names = .error cause ↔
      ∃ name, First (¬ Known ·) names name ∧ cause = .day name := by
  induction names generalizing days with
  | nil => simp [parseInto, not_first_nil]
  | cons name rest ih =>
    unfold parseInto
    cases first : parse name with
    | error other =>
      obtain ⟨unknown, rfl⟩ := parse_error.mp first
      simp [first_cons, unknown, bind, Except.bind, eq_comm]
    | ok some =>
      have known := (parse_iff.mp first).1
      have tail : (Except.ok some >>= fun found => parseInto (days.union found) rest) =
        parseInto (days.union some) rest := rfl
      rw [tail, ih]
      simp [first_cons, known]

theorem isEmpty_iff {days : DaySet} : days.isEmpty = true ↔ ∀ d, days.contains d = false := by
  simp [isEmpty, mem_week]

/-- Every name that is read adds a day. -/
theorem parseInto_isEmpty {names : List String} {all : DaySet}
    (read : parseInto empty names = .ok all) : all.isEmpty = true ↔ names = [] := by
  obtain ⟨known, contains⟩ := parseInto_ok.mp read
  rw [isEmpty_iff]
  constructor
  · intro none
    refine List.eq_nil_iff_forall_not_mem.mpr fun name member => ?_
    obtain ⟨d, denotes⟩ := known name member
    have held := (contains d).mpr (.inr ⟨name, member, denotes⟩)
    rw [none d] at held
    cases held
  · rintro rfl d
    exact Bool.eq_false_iff.mpr fun held => by simpa [empty] using (contains d).mp held

theorem parseAll_ok {names : List String} {days : DaySet} : parseAll names = .ok days ↔
    names ≠ [] ∧ (∀ name ∈ names, Known name) ∧
      ∀ d, days.contains d = true ↔ ∃ name ∈ names, Denotes name d := by
  have reads : parseInto empty names = .ok days ↔ (∀ name ∈ names, Known name) ∧
      ∀ d, days.contains d = true ↔ ∃ name ∈ names, Denotes name d := by
    simp [parseInto_ok, empty]
  rw [← reads]
  unfold parseAll
  cases read : parseInto empty names with
  | error cause => simp [bind, Except.bind]
  | ok all =>
    have nonempty := parseInto_isEmpty read
    simp only [bind, Except.bind]
    split
    · rename_i none
      simp [nonempty.mp none]
    · rename_i some
      simp [mt nonempty.mpr some]

theorem parseAll_error {names : List String} {cause : Invalid} : parseAll names = .error cause ↔
    (names = [] ∧ cause = .day "") ∨
      ∃ name, First (¬ Known ·) names name ∧ cause = .day name := by
  have fails : parseInto empty names = .error cause ↔ _ := parseInto_error
  rw [← fails]
  unfold parseAll
  cases read : parseInto empty names with
  | error other =>
    have some : names ≠ [] := by
      rintro rfl
      cases read
    simp [some, bind, Except.bind]
  | ok all =>
    have nonempty := parseInto_isEmpty read
    simp only [bind, Except.bind]
    split
    · rename_i none
      simp [nonempty.mp none, eq_comm]
    · rename_i some
      simp [mt nonempty.mpr some]

/-! Values. -/

theorem texts_other {v : Value} (other : v.text? = none) (rest : List Value) :
    texts (v :: rest) = .error (.day (Json.render v)) := by
  cases v <;> first | rfl | cases other

theorem text?_iff {v : Value} {s : String} : v.text? = some s ↔ v = .text s := by
  cases v <;> simp [Value.text?]

theorem texts_text (s : String) (rest : List Value) :
    texts (.text s :: rest) = (texts rest).map (s :: ·) := by
  cases read : texts rest <;> simp [texts, read, bind, Except.bind, Except.map, pure, Except.pure]

theorem texts_ok {items : List Value} {names : List String} :
    texts items = .ok names ↔ items = names.map .text := by
  induction items generalizing names with
  | nil => simp [texts, eq_comm]
  | cons v rest ih =>
    cases found : v.text? with
    | none =>
      rw [texts_other found]
      cases names <;> simp
      rintro rfl
      cases found
    | some s =>
      obtain rfl := text?_iff.mp found
      rw [texts_text, map_eq_ok]
      cases names with
      | nil => simp
      | cons name names =>
        rw [List.map_cons, List.cons.injEq, ← ih]
        simp [and_comm]

theorem texts_error {items : List Value} {cause : Invalid} : texts items = .error cause ↔
    ∃ v, First (·.text? = none) items v ∧ cause = .day (Json.render v) := by
  induction items with
  | nil => simp [texts, not_first_nil]
  | cons v rest ih =>
    cases found : v.text? with
    | none =>
      rw [texts_other found]
      simp [first_cons, found, eq_comm]
    | some s =>
      obtain rfl := text?_iff.mp found
      rw [texts_text, map_eq_error, ih]
      simp [first_cons, found]

/-- The names in a value: a text alone, or a list of texts. -/
inductive Lists : Value → List String → Prop
  | single (name : String) : Lists (.text name) [name]
  | several (names : List String) : Lists (.array (names.map .text)) names

/-- What is wrong with a value that stands for no days, by the text that is named for it. -/
inductive Misfit : Value → String → Prop
  | shape {v : Value} : (∀ name, v ≠ .text name) → (∀ items, v ≠ .array items) →
      Misfit v (Json.render v)
  | item {items : List Value} {v : Value} : First (·.text? = none) items v →
      Misfit (.array items) (Json.render v)
  | name {v : Value} {names : List String} {name : String} : Lists v names →
      First (¬ Known ·) names name → Misfit v name
  | nothing : Misfit (.array []) ""

theorem lists_text {text : String} {names : List String} :
    Lists (.text text) names ↔ names = [text] := by
  constructor
  · rintro ⟨⟩
    rfl
  · rintro rfl
    exact .single text

theorem lists_array {items : List Value} {names : List String} :
    Lists (.array items) names ↔ texts items = .ok names := by
  rw [texts_ok]
  constructor
  · rintro ⟨⟩
    rfl
  · rintro rfl
    exact .several names

theorem Lists.unique {v : Value} {names others : List String} (one : Lists v names)
    (two : Lists v others) : names = others := by
  cases one with
  | single => exact (lists_text.mp two).symm
  | several =>
    have listed := (lists_array.mp (.several names)).symm.trans (lists_array.mp two)
    exact Except.ok.inj listed

theorem ofValue_other {v : Value} (noText : ∀ name, v ≠ .text name)
    (noList : ∀ items, v ≠ .array items) : ofValue v = .error (.day (Json.render v)) := by
  cases v with
  | text s => exact absurd rfl (noText s)
  | array items => exact absurd rfl (noList items)
  | _ => rfl

theorem ofValue_text (text : String) : ofValue (.text text) = parse text := rfl

theorem ofValue_array (items : List Value) :
    ofValue (.array items) = (texts items).bind parseAll := rfl

theorem ofValue_ok {v : Value} {days : DaySet} : ofValue v = .ok days ↔ ∃ names, Lists v names ∧
    names ≠ [] ∧ (∀ name ∈ names, Known name) ∧
      ∀ d, days.contains d = true ↔ ∃ name ∈ names, Denotes name d := by
  cases v with
  | text s =>
    rw [ofValue_text]
    simp [lists_text, parse_iff]
  | array items =>
    rw [ofValue_array]
    simp only [lists_array, ← parseAll_ok]
    cases texts items <;> simp [Except.bind]
  | _ =>
    constructor
    · rintro ⟨⟩
    · rintro ⟨_, ⟨⟩, -⟩

/-- A list without strange items is refused for its first unknown name. -/
theorem ofValue_unknown {v : Value} {names : List String} {name : String} (listed : Lists v names)
    (first : First (¬ Known ·) names name) : ofValue v = .error (.day name) := by
  cases listed with
  | single text =>
    rcases first_cons.mp first with ⟨unknown, rfl⟩ | ⟨-, further⟩
    · rw [ofValue_text]
      exact parse_error.mpr ⟨unknown, rfl⟩
    · exact absurd further not_first_nil
  | several =>
    rw [ofValue_array, texts_ok.mpr rfl]
    exact parseAll_error.mpr (.inr ⟨name, first, rfl⟩)

theorem ofValue_error {v : Value} {cause : Invalid} :
    ofValue v = .error cause ↔ ∃ text, cause = .day text ∧ Misfit v text := by
  constructor
  · intro refused
    cases v with
    | text s =>
      rw [ofValue_text] at refused
      obtain ⟨unknown, rfl⟩ := parse_error.mp refused
      exact ⟨s, rfl, .name (.single s) (.here unknown)⟩
    | array items =>
      rw [ofValue_array] at refused
      cases read : texts items with
      | error other =>
        rw [read] at refused
        cases refused
        obtain ⟨v, first, rfl⟩ := texts_error.mp read
        exact ⟨_, rfl, .item first⟩
      | ok names =>
        rw [read] at refused
        rcases parseAll_error.mp refused with ⟨rfl, rfl⟩ | ⟨name, first, rfl⟩
        · obtain rfl := texts_ok.mp read
          exact ⟨_, rfl, .nothing⟩
        · exact ⟨_, rfl, .name (lists_array.mpr read) first⟩
    | _ =>
      cases refused
      exact ⟨_, rfl, .shape (by rintro _ ⟨⟩) (by rintro _ ⟨⟩)⟩
  · rintro ⟨text, rfl, misfit⟩
    cases misfit with
    | shape noText noList => exact ofValue_other noText noList
    | item first =>
      rw [ofValue_array, texts_error.mpr ⟨_, first, rfl⟩]
      rfl
    | name listed first => exact ofValue_unknown listed first
    | nothing => rfl

example : ofValue (.array [.text "noday", .int 3]) = .error (.day "3") := rfl

/-- The items of a list count by membership alone. -/
theorem ofValue_items {items : List Value} {days : DaySet} : ofValue (.array items) = .ok days ↔
    items ≠ [] ∧ (∀ v ∈ items, ∃ name, .text name = v ∧ Known name) ∧
      ∀ d, days.contains d = true ↔ ∃ name, .text name ∈ items ∧ Denotes name d := by
  simp only [ofValue_ok, lists_array, texts_ok]
  constructor
  · rintro ⟨names, rfl, some, known, contains⟩
    refine ⟨by simpa using some, List.forall_mem_map.mpr fun name member => ?_, ?_⟩
    · exact ⟨name, rfl, known name member⟩
    · simpa using contains
  · rintro ⟨some, known, contains⟩
    have listed : items ∈ Set.range (List.map Value.text) := by
      rw [Set.range_list_map]
      exact fun v member => (known v member).imp fun _ => And.left
    obtain ⟨names, rfl⟩ := listed
    refine ⟨names, rfl, by simpa using some, ?_, ?_⟩
    · simpa using known
    · simpa using contains

theorem ofValue_append {xs ys : List Value} {a b : DaySet} (first : ofValue (.array xs) = .ok a)
    (second : ofValue (.array ys) = .ok b) : ofValue (.array (xs ++ ys)) = .ok (a.union b) := by
  rw [ofValue_items] at first second ⊢
  obtain ⟨some, known, contains⟩ := first
  obtain ⟨-, knownToo, containsToo⟩ := second
  refine ⟨by simp [some], List.forall_mem_append.mpr ⟨known, knownToo⟩, fun d => ?_⟩
  simp only [union, Bool.or_eq_true, contains, containsToo, List.mem_append, or_and_right,
    exists_or]

theorem ofValue_congr {xs ys : List Value} (same : ∀ v, v ∈ xs ↔ v ∈ ys) (days : DaySet) :
    ofValue (.array xs) = .ok days ↔ ofValue (.array ys) = .ok days := by
  have ends : xs = [] ↔ ys = [] := by simp [List.eq_nil_iff_forall_not_mem, same]
  simp only [ofValue_items, same, ne_eq, ends]

theorem isEmpty_ofValue {v : Value} {days : DaySet} (read : ofValue v = .ok days) :
    days.isEmpty = false := by
  obtain ⟨names, -, some, known, contains⟩ := ofValue_ok.mp read
  obtain ⟨name, member⟩ := List.exists_mem_of_ne_nil names some
  obtain ⟨d, denotes⟩ := known name member
  have held := (contains d).mpr ⟨name, member, denotes⟩
  refine Bool.eq_false_iff.mpr fun none => ?_
  rw [isEmpty_iff.mp none d] at held
  cases held

theorem matchesAt_iff (t u : Instant) :
    (∀ days : DaySet, days.matchesAt t = days.matchesAt u) ↔ Weekday.of t = Weekday.of u := by
  constructor
  · intro same
    have alone := same ⟨(Weekday.of t == ·)⟩
    simpa [matchesAt] using alone.symm
  · intro same days
    exact congrArg days.contains same

/-! What is displayed. -/

theorem denotes_name {d e : Weekday} : Denotes d.name e ↔ d = e := by
  have plain : String.ofList ((trimBlanks d.name.toList).map Char.toLower) = d.name := by
    cases d <;> decide
  rw [denotes_iff, plain]
  cases d <;> cases e <;> decide

theorem parseAll_names {days : List Weekday} {all : DaySet} (some : days ≠ [])
    (holds : ∀ d, all.contains d = true ↔ d ∈ days) :
    parseAll (days.map Weekday.name) = .ok all := by
  simp [parseAll_ok, some, holds, Known, denotes_name]

/-- What stands between the commas of a text. -/
def pieces (text : String) : List String := (text.toList.splitOn ',').map String.ofList

theorem pieces_render {days : DaySet} (some : days.isEmpty = false) :
    pieces days.render = (week.filter days.contains).map Weekday.name := by
  have written : days.render.toList =
      [','].intercalate (((week.filter days.contains).map Weekday.name).map String.toList) := by
    simp [render, String.toList_intercalate]
  have plain : ∀ d : Weekday, ',' ∉ d.name.toList := by
    rintro (_ | _) <;> decide
  rw [pieces, written, List.splitOn_intercalate]
  · simp [List.map_map, Function.comp_def, String.ofList_toList]
  · rw [List.map_map]
    exact List.forall_mem_map.mpr fun d _ => plain d
  · simpa [isEmpty] using some

theorem parseAll_pieces {days : DaySet} (some : days.isEmpty = false) :
    parseAll (pieces days.render) = .ok days := by
  rw [pieces_render some]
  refine parseAll_names ?_ fun d => ?_
  · simpa [isEmpty] using some
  · simp [mem_week]

end DaySet

/-- How days are read from values, and what the sets of days that are read do. -/
structure DaySetsKept : Prop where
  /-- The values that are read are the texts and the lists of texts that hold at least one name
  and known ones only. A day is in the set exactly if one of the names denotes it. -/
  reads : ∀ v days, DaySet.ofValue v = .ok days ↔ ∃ names, DaySet.Lists v names ∧ names ≠ [] ∧
    (∀ name ∈ names, DaySet.Known name) ∧
      ∀ d, days.contains d = true ↔ ∃ name ∈ names, DaySet.Denotes name d
  /-- Any other value is refused for the first strange item, or else for the first unknown name,
  or else for having none. -/
  refuses : ∀ v cause, DaySet.ofValue v = .error cause ↔
    ∃ text, cause = .day text ∧ DaySet.Misfit v text
  /-- Neither the order of the items of a list nor their repetition counts. -/
  order : ∀ xs ys, (∀ v, v ∈ xs ↔ v ∈ ys) → ∀ days,
    DaySet.ofValue (.array xs) = .ok days ↔ DaySet.ofValue (.array ys) = .ok days
  append : ∀ xs ys a b, DaySet.ofValue (.array xs) = .ok a → DaySet.ofValue (.array ys) = .ok b →
    DaySet.ofValue (.array (xs ++ ys)) = .ok (a.union b)
  /-- An instant matches when a name denotes the day of the week that it is on. -/
  instants : ∀ v names days t, DaySet.ofValue v = .ok days → DaySet.Lists v names →
    (days.matchesAt t = true ↔ ∃ name ∈ names, DaySet.Denotes name (Weekday.of t))
  /-- Nothing else about the instant counts. -/
  weekday : ∀ t u, (∀ days : DaySet, days.matchesAt t = days.matchesAt u) ↔
    Weekday.of t = Weekday.of u
  weekly : ∀ t u, Weekday.of t = Weekday.of u ↔ (7 : Int) ∣ u.day - t.day
  /-- The names displayed are read as the set that is displayed. -/
  displays : ∀ v days, DaySet.ofValue v = .ok days →
    DaySet.parseAll (DaySet.pieces days.render) = .ok days

theorem daySets_kept : DaySetsKept where
  reads _ _ := DaySet.ofValue_ok
  refuses _ _ := DaySet.ofValue_error
  order _ _ := DaySet.ofValue_congr
  append _ _ _ _ := DaySet.ofValue_append
  instants v names days t read listed := by
    obtain ⟨others, listedToo, -, -, contains⟩ := DaySet.ofValue_ok.mp read
    obtain rfl := listed.unique listedToo
    exact contains (Weekday.of t)
  weekday := DaySet.matchesAt_iff
  weekly := Weekday.of_eq_iff
  displays _ _ read := DaySet.parseAll_pieces (DaySet.isEmpty_ofValue read)

/-- A list of a day of work and the days of rest. -/
theorem daySets_kept_rest :
    let listed := .array [.text " Fri ", .text "WEEKEND"]
    ∃ days, DaySet.ofValue listed = .ok days ∧ days.render = "friday,saturday,sunday" ∧
      DaySet.parseAll (DaySet.pieces days.render) = .ok days := by
  intro listed
  refine ⟨_, rfl, by decide, daySets_kept.displays listed _ rfl⟩

end Reflex
