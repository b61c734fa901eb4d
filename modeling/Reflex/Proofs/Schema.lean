import Reflex.Options
import Reflex.Proofs.Phrases
import Reflex.Proofs.Tables

/-! The schema of scenario options. A value has a form of options or it has none, whatever the words
of its window are, and the words count only after that. -/
namespace Reflex

/-- A text spells a duration: a phrase between white space with a positive count below 2^32. -/
structure Spells (text : String) (count : Nat) (u : TimeUnit) : Prop where
  phrase : ∃ phrase, Trims text.toList phrase ∧ Phrase phrase count u
  positive : 0 < count
  bounded : count < Word.size32

namespace Options

/-- A window in a value: null for none, milliseconds in 64 bits, or words. -/
inductive WindowOf : Value → Option Window → Prop
  | none : WindowOf .null none
  | millis {n : Nat} : n < Word.size64 → WindowOf (.int n) (some (.millis n))
  | words {text : String} : WindowOf (.text text) (some (.words text))

inductive FlagOf : Value → Bool → Prop
  | flag {b : Bool} : FlagOf (.bool b) b

/-- A part of the options from what is written for it. A missing part has its default. -/
inductive Part {α : Type} (PartOf : Value → α → Prop) (default : α) : Option Value → α → Prop
  | missing : Part PartOf default none default
  | written {v : Value} {a : α} : PartOf v a → Part PartOf default (some v) a

/-- The keys of an object of options: known ones, each once, and the window in one spelling. -/
structure Named (members : List (String × Value)) : Prop where
  known : ∀ key ∈ Table.keys members, key ∈ ["suppress_for", "suppressFor", "only"]
  distinct : (Table.keys members).Nodup
  single : "suppress_for" ∉ Table.keys members ∨ "suppressFor" ∉ Table.keys members

/-- What an object has for the window, in either spelling. -/
def window? (members : List (String × Value)) : Option Value :=
  (Table.find? "suppress_for" members).or (Table.find? "suppressFor" members)

/-- The form of options, with their parts by name or by place. -/
inductive Form : Value → Option Window → Bool → Prop
  | null : Form .null none false
  | named {members : List (String × Value)} {window : Option Window} {only : Bool} :
      Named members → Part WindowOf none (window? members) window →
      Part FlagOf false (Table.find? "only" members) only → Form (.object members) window only
  | placed {items : List Value} {window : Option Window} {only : Bool} : items.length ≤ 2 →
      Part WindowOf none items[0]? window → Part FlagOf false items[1]? only →
      Form (.array items) window only

/-- The length of a window. -/
inductive Lasts : Option Window → Option Span → Prop
  | none : Lasts none none
  | millis {n : Nat} : Lasts (some (.millis n)) (some (.ofMillis n))
  | words {text : String} {count : Nat} {u : TimeUnit} : Spells text count u →
      Lasts (some (.words text)) (some (.ofSeconds (count * u.seconds)))

end Options

/-! Durations in words. -/

namespace Span

theorem parse_ok {text : String} {d : Span} : Span.parse text = .ok d ↔
    ∃ count u, Spells text count u ∧ d = .ofSeconds (count * u.seconds) := by
  rw [Span.parse, map_eq_ok]
  constructor
  · rintro ⟨⟨count, u⟩, parts, rfl⟩
    exact ⟨count, u, ⟨Schedule.split_ok.mp parts, count.2.1, count.2.2⟩, rfl⟩
  · rintro ⟨count, u, ⟨phrase, positive, bounded⟩, rfl⟩
    exact ⟨(⟨count, positive, bounded⟩, u), Schedule.split_ok.mpr phrase, rfl⟩

theorem parse_blames {text : String} {cause : Invalid} (refused : Span.parse text = .error cause) :
    cause = .duration text :=
  Schedule.split_error (map_eq_error.mp refused)

theorem parse_error {text : String} {cause : Invalid} : Span.parse text = .error cause ↔
    cause = .duration text ∧ ∀ count u, ¬ Spells text count u := by
  constructor
  · intro refused
    refine ⟨parse_blames refused, fun count u spells => ?_⟩
    cases refused.symm.trans (parse_ok.mpr ⟨count, u, spells, rfl⟩)
  · rintro ⟨rfl, never⟩
    cases read : Span.parse text with
    | ok d =>
      obtain ⟨count, u, spells, -⟩ := parse_ok.mp read
      exact absurd spells (never count u)
    | error cause => rw [parse_blames read]

end Span

namespace Options

/-! The parts of the options. -/

theorem windowOf_ok {v : Value} {window : Option Window} :
    windowOf v = .ok window ↔ WindowOf v window := by
  constructor
  · intro read
    unfold windowOf at read
    split at read
    · cases read
      exact .none
    · split at read
      · rename_i n fits
        obtain ⟨m, rfl⟩ := Int.eq_ofNat_of_zero_le fits.1
        cases read
        exact .millis (Int.ofNat_lt.mp fits.2)
      · cases read
    · cases read
      exact .words
    · cases read
  · rintro (_ | fits | _)
    · rfl
    · rw [windowOf, if_pos ⟨Int.natCast_nonneg _, Int.ofNat_lt.mpr fits⟩, Int.toNat_natCast]
    · rfl

theorem flagOf_ok {v : Value} {b : Bool} : flagOf v = .ok b ↔ FlagOf v b := by
  constructor
  · intro read
    unfold flagOf at read
    split at read <;> cases read
    exact .flag
  · rintro ⟨⟩
    rfl

/-! Slots for the parts. -/

/-- A slot before and after reading what is written for it, if anything is. A full slot takes
nothing more. -/
inductive Fills {α : Type} (PartOf : Value → α → Prop) :
    Option α → Option Value → Option α → Prop
  | kept {slot : Option α} : Fills PartOf slot none slot
  | filled {v : Value} {a : α} : PartOf v a → Fills PartOf none (some v) (some a)

section Slots

variable {α : Type} {PartOf : Value → α → Prop} {slot after : Option α} {written : Option Value}

theorem fills_none : Fills PartOf slot none after ↔ slot = after := by
  constructor
  · rintro ⟨⟩
    rfl
  · rintro rfl
    exact .kept

theorem fills_full {a : α} : Fills PartOf (some a) written after ↔
    written = none ∧ some a = after := by
  constructor
  · rintro ⟨⟩
    exact ⟨rfl, rfl⟩
  · rintro ⟨rfl, rfl⟩
    exact .kept

theorem fills_written {v : Value} : Fills PartOf slot (some v) after ↔
    slot = none ∧ ∃ a, PartOf v a ∧ some a = after := by
  constructor
  · rintro ⟨⟩
    exact ⟨rfl, _, ‹_›, rfl⟩
  · rintro ⟨rfl, a, reads, rfl⟩
    exact .filled reads

theorem part_iff {default a : α} : Part PartOf default written a ↔
    ∃ after, Fills PartOf none written after ∧ after.getD default = a := by
  constructor
  · rintro (_ | reads)
    · exact ⟨none, .kept, rfl⟩
    · exact ⟨_, .filled reads, rfl⟩
  · rintro ⟨after, _ | reads, rfl⟩
    · exact .missing
    · exact .written reads

end Slots

/-! Objects. -/

theorem find?_none {key : String} {members : List (String × Value)} :
    Table.find? key members = none ↔ key ∉ Table.keys members := by
  rw [← Table.isSome_find?, Bool.not_eq_true, Option.isSome_eq_false_iff, Option.isNone_iff_eq_none]

theorem window?_none {members : List (String × Value)} : window? members = none ↔
    "suppress_for" ∉ Table.keys members ∧ "suppressFor" ∉ Table.keys members := by
  rw [window?, Option.or_eq_none_iff, find?_none, find?_none]

theorem named_cons {key : String} {v : Value} {rest : List (String × Value)} :
    Named ((key, v) :: rest) ↔ Named rest ∧
      ((key = "suppress_for" ∨ key = "suppressFor") ∧ window? rest = none ∨
        key = "only" ∧ Table.find? "only" rest = none) := by
  rw [window?_none, find?_none]
  constructor
  · rintro ⟨known, distinct, single⟩
    obtain ⟨here, known⟩ := List.forall_mem_cons.mp known
    obtain ⟨new, distinct⟩ := List.nodup_cons.mp distinct
    simp only [Table.keys, List.map_cons, List.mem_cons, not_or] at single
    refine ⟨⟨known, distinct, single.imp And.right And.right⟩, ?_⟩
    simp only [List.mem_cons, List.not_mem_nil, or_false] at here
    rcases here with rfl | rfl | rfl
    · exact .inl ⟨.inl rfl, new, (single.resolve_left fun both => both.1 rfl).2⟩
    · exact .inl ⟨.inr rfl, (single.resolve_right fun both => both.1 rfl).2, new⟩
    · exact .inr ⟨rfl, new⟩
  · rintro ⟨⟨known, distinct, single⟩, here⟩
    have step (listed : key ∈ ["suppress_for", "suppressFor", "only"])
        (new : key ∉ Table.keys rest)
        (one : "suppress_for" ∉ key :: Table.keys rest ∨ "suppressFor" ∉ key :: Table.keys rest) :
        Named ((key, v) :: rest) :=
      ⟨List.forall_mem_cons.mpr ⟨listed, known⟩, List.nodup_cons.mpr ⟨new, distinct⟩, one⟩
    rcases here with ⟨rfl | rfl, left, right⟩ | ⟨rfl, new⟩
    · exact step (by decide) left (.inr (List.not_mem_cons_of_ne_of_not_mem (by decide) right))
    · exact step (by decide) right (.inl (List.not_mem_cons_of_ne_of_not_mem (by decide) left))
    · refine step (by decide) new (single.imp ?_ ?_) <;>
        exact fun absent => List.not_mem_cons_of_ne_of_not_mem (by decide) absent

theorem window?_cons {key : String} {v : Value} {rest : List (String × Value)}
    (spelled : key = "suppress_for" ∨ key = "suppressFor") (first : window? rest = none) :
    window? ((key, v) :: rest) = some v := by
  obtain ⟨none, -⟩ := Option.or_eq_none_iff.mp first
  rcases spelled with rfl | rfl
  · rfl
  · exact congrArg (Option.or · (some v)) none

section Members

variable {raw next : Raw} {key : String} {v : Value} {members : List (String × Value)}

theorem readMembers_window (spelled : key = "suppress_for" ∨ key = "suppressFor") :
    readMembers raw ((key, v) :: members) = .ok next ↔ raw.window = none ∧ ∃ window,
      WindowOf v window ∧ readMembers { raw with window := some window } members = .ok next := by
  rw [readMembers, if_pos spelled]
  cases slot : raw.window with
  | some window => simp
  | none => cases read : windowOf v <;> simp [← windowOf_ok, read, bind, Except.bind]

theorem readMembers_only : readMembers raw (("only", v) :: members) = .ok next ↔
    raw.only = none ∧ ∃ only, FlagOf v only ∧
      readMembers { raw with only := some only } members = .ok next := by
  rw [readMembers, if_neg (by decide), if_pos rfl]
  cases slot : raw.only with
  | some only => simp
  | none => cases read : flagOf v <;> simp [← flagOf_ok, read, bind, Except.bind]

/-- The members that are left fill the slots that are left. -/
theorem readMembers_ok : readMembers raw members = .ok next ↔ Named members ∧
    Fills WindowOf raw.window (window? members) next.window ∧
      Fills FlagOf raw.only (Table.find? "only" members) next.only := by
  induction members generalizing raw with
  | nil =>
    have bare : Named [] := ⟨List.forall_mem_nil _, List.nodup_nil, .inl List.not_mem_nil⟩
    have none : window? [] = none := rfl
    rw [readMembers, none, Table.find?, fills_none, fills_none, Except.ok.injEq]
    obtain ⟨window, only⟩ := raw
    obtain ⟨window', only'⟩ := next
    simp [bare]
  | cons member rest ih =>
    obtain ⟨key, v⟩ := member
    rw [named_cons]
    by_cases spelled : key = "suppress_for" ∨ key = "suppressFor"
    · have other : Table.find? "only" ((key, v) :: rest) = Table.find? "only" rest :=
        if_neg (by rcases spelled with rfl | rfl <;> decide)
      rw [readMembers_window spelled, other]
      constructor
      · rintro ⟨slot, window, reads, read⟩
        obtain ⟨named, left, right⟩ := ih.mp read
        obtain ⟨first, full⟩ := fills_full.mp left
        rw [slot, window?_cons spelled first]
        exact ⟨⟨named, .inl ⟨spelled, first⟩⟩, fills_written.mpr ⟨rfl, window, reads, full⟩, right⟩
      · rintro ⟨⟨named, here⟩, left, right⟩
        -- The spellings are looked up in a fixed order, so this member is found first only
        -- because none with the other spelling follows.
        have first : window? rest = none := by
          rcases here with ⟨-, first⟩ | ⟨rfl, -⟩
          · exact first
          · exact absurd spelled (by decide)
        rw [window?_cons spelled first] at left
        obtain ⟨slot, window, reads, full⟩ := fills_written.mp left
        exact ⟨slot, window, reads, ih.mpr ⟨named, fills_full.mpr ⟨first, full⟩, right⟩⟩
    · by_cases flag : key = "only"
      · subst flag
        have other : window? (("only", v) :: rest) = window? rest := rfl
        have here : Table.find? "only" (("only", v) :: rest) = some v := rfl
        rw [readMembers_only, other, here, fills_written]
        constructor
        · rintro ⟨slot, only, reads, read⟩
          obtain ⟨named, left, right⟩ := ih.mp read
          obtain ⟨first, full⟩ := fills_full.mp right
          exact ⟨⟨named, .inr ⟨rfl, first⟩⟩, left, slot, only, reads, full⟩
        · rintro ⟨⟨named, here⟩, left, slot, only, reads, full⟩
          have first := (here.resolve_left fun both => spelled both.1).2
          exact ⟨slot, only, reads, ih.mpr ⟨named, left, fills_full.mpr ⟨first, full⟩⟩⟩
      · rw [readMembers, if_neg spelled, if_neg flag]
        refine iff_of_false (fun read => by cases read) ?_
        rintro ⟨⟨-, here⟩, -⟩
        exact here.elim (spelled ·.1) (flag ·.1)

end Members

/-! Arrays. -/

theorem readRaw_array {items : List Value} {raw : Raw} : readRaw (.array items) = .ok raw ↔
    items.length ≤ 2 ∧ Fills WindowOf none items[0]? raw.window ∧
      Fills FlagOf none items[1]? raw.only := by
  obtain ⟨window, only⟩ := raw
  rcases items with _ | ⟨first, _ | ⟨second, _ | ⟨third, rest⟩⟩⟩
  · simp [readRaw, fills_none]
  · cases read : windowOf first <;>
      simp [readRaw, fills_none, fills_written, ← windowOf_ok, read, bind, Except.bind, pure,
        Except.pure]
  · cases left : windowOf first <;> cases right : flagOf second <;>
      simp [readRaw, fills_written, ← windowOf_ok, ← flagOf_ok, left, right, bind, Except.bind,
        pure, Except.pure]
  · simp [readRaw]

/-! Refusals. -/

/-- Whatever is wrong is wrong with the form. -/
def Structural {α : Type} (e : Except Invalid α) : Prop :=
  ∀ cause, e = .error cause → cause = .options

namespace Structural

variable {α β : Type}

theorem ok (a : α) : Structural (.ok a) := nofun

theorem refused : Structural (.error .options : Except Invalid α) := by
  rintro _ ⟨⟩
  rfl

theorem bind {e : Except Invalid α} {f : α → Except Invalid β} (first : Structural e)
    (rest : ∀ a, Structural (f a)) : Structural (e >>= f) := by
  cases e with
  | ok a => exact rest a
  | error cause =>
    cases first cause rfl
    exact refused

theorem window (v : Value) : Structural (windowOf v) := by
  unfold windowOf
  split
  · exact ok _
  · split
    · exact ok _
    · exact refused
  · exact ok _
  · exact refused

theorem flag (v : Value) : Structural (flagOf v) := by
  unfold flagOf
  split
  · exact ok _
  · exact refused

theorem members (raw : Raw) (members : List (String × Value)) :
    Structural (readMembers raw members) := by
  induction members generalizing raw with
  | nil => exact ok raw
  | cons member rest ih =>
    unfold readMembers
    split
    · split
      · exact refused
      · exact .bind (.window _) fun window => ih _
    split
    · split
      · exact refused
      · exact .bind (.flag _) fun only => ih _
    · exact refused

theorem raw (v : Value) : Structural (readRaw v) := by
  unfold readRaw
  split
  · exact .members _ _
  · exact ok _
  · exact .bind (window _) fun _ => ok _
  · exact .bind (window _) fun _ => .bind (flag _) fun _ => ok _
  · exact refused

end Structural

/-! Options of a value. -/

variable {v : Value} {window : Option Window} {only : Bool}

theorem form_iff (proper : v ≠ .null) : Form v window only ↔
    ∃ raw, readRaw v = .ok raw ∧ raw.window.getD none = window ∧ raw.only.getD false = only := by
  constructor
  · rintro (_ | ⟨named, left, right⟩ | ⟨short, left, right⟩)
    · exact absurd rfl proper
    · obtain ⟨window, fillsWindow, rfl⟩ := part_iff.mp left
      obtain ⟨only, fillsOnly, rfl⟩ := part_iff.mp right
      exact ⟨⟨window, only⟩, readMembers_ok.mpr ⟨named, fillsWindow, fillsOnly⟩, rfl, rfl⟩
    · obtain ⟨window, fillsWindow, rfl⟩ := part_iff.mp left
      obtain ⟨only, fillsOnly, rfl⟩ := part_iff.mp right
      exact ⟨⟨window, only⟩, readRaw_array.mpr ⟨short, fillsWindow, fillsOnly⟩, rfl, rfl⟩
  · rintro ⟨raw, read, rfl, rfl⟩
    cases v with
    | null => exact absurd rfl proper
    | object members =>
      obtain ⟨named, left, right⟩ := readMembers_ok.mp read
      exact .named named (part_iff.mpr ⟨_, left, rfl⟩) (part_iff.mpr ⟨_, right, rfl⟩)
    | array items =>
      obtain ⟨short, left, right⟩ := readRaw_array.mp read
      exact .placed short (part_iff.mpr ⟨_, left, rfl⟩) (part_iff.mpr ⟨_, right, rfl⟩)
    | _ => cases read

/-- The length of a window, if its words spell one. -/
def length : Option Window → Except Invalid (Option Span)
  | none => .ok none
  | some (.millis n) => .ok (some (.ofMillis n))
  | some (.words text) => (Span.parse text).map some

theorem length_ok {d : Option Span} : length window = .ok d ↔ Lasts window d := by
  constructor
  · intro read
    rcases window with _ | n | text
    · cases read
      exact .none
    · cases read
      exact .millis
    · obtain ⟨span, parsed, rfl⟩ := map_eq_ok.mp read
      obtain ⟨count, u, spells, rfl⟩ := Span.parse_ok.mp parsed
      exact .words spells
  · rintro (_ | _ | spells)
    · rfl
    · rfl
    · rw [length, Span.parse_ok.mpr ⟨_, _, spells, rfl⟩]
      rfl

theorem length_error {cause : Invalid} : length window = .error cause ↔
    ∃ text, window = some (.words text) ∧ cause = .duration text ∧
      ∀ count u, ¬ Spells text count u := by
  rcases window with _ | n | text
  · simp [length]
  · simp [length]
  · rw [length, map_eq_error, Span.parse_error]
    simp

theorem ofValue_raw (proper : v ≠ .null) : ofValue v = (readRaw v).bind fun raw =>
    (length (raw.window.getD none)).map (⟨·, raw.only.getD false⟩) := by
  unfold ofValue
  split
  · exact absurd rfl proper
  · refine congrArg _ (funext fun ⟨window, only⟩ => ?_)
    rcases window with _ | _ | n | text
    · rfl
    · rfl
    · rfl
    · rw [Option.getD_some, length]
      cases parsed : Span.parse text <;>
        simp [parsed, Except.map, bind, Except.bind, pure, Except.pure]

/-- With a form, only the words of the window can still be wrong. -/
theorem ofValue_form (form : Form v window only) :
    ofValue v = (length window).map (⟨·, only⟩) := by
  by_cases null : v = .null
  · subst null
    cases form
    rfl
  · obtain ⟨raw, read, rfl, rfl⟩ := (form_iff null).mp form
    rw [ofValue_raw null, read]
    rfl

theorem ofValue_formless (never : ∀ window only, ¬ Form v window only) :
    ofValue v = .error .options := by
  have proper : v ≠ .null := by
    rintro rfl
    exact never _ _ .null
  rw [ofValue_raw proper]
  cases read : readRaw v with
  | ok raw => exact absurd ((form_iff proper).mpr ⟨raw, read, rfl, rfl⟩) (never _ _)
  | error cause =>
    cases Structural.raw v cause read
    rfl

theorem accepted_iff (form : Form v window only) {o : Options} :
    ofValue v = .ok o ↔ Lasts window o.suppressFor ∧ only = o.only := by
  rw [ofValue_form form, ← length_ok, map_eq_ok]
  constructor
  · rintro ⟨d, read, rfl⟩
    exact ⟨read, rfl⟩
  · rintro ⟨read, rfl⟩
    exact ⟨_, read, rfl⟩

theorem refused_iff (form : Form v window only) {cause : Invalid} :
    ofValue v = .error cause ↔ ∃ text, window = some (.words text) ∧ cause = .duration text ∧
      ∀ count u, ¬ Spells text count u := by
  rw [ofValue_form form, ← length_error, map_eq_error]

theorem formed (outcome : ofValue v ≠ .error .options) : ∃ window only, Form v window only := by
  by_contra none
  simp only [not_exists] at none
  exact outcome (ofValue_formless none)

/-- What becomes of a value that is given as options. -/
structure SchemaKept (v : Value) : Prop where
  accepts : ∀ o, ofValue v = .ok o ↔ ∃ window, Form v window o.only ∧ Lasts window o.suppressFor
  /-- Words that spell nothing do not count where the form is wrong. -/
  formless : ofValue v = .error .options ↔ ∀ window only, ¬ Form v window only
  misspelt : ∀ text, ofValue v = .error (.duration text) ↔
    (∃ only, Form v (some (.words text)) only) ∧ ∀ count u, ¬ Spells text count u
  outcomes : (∃ o, ofValue v = .ok o) ∨ ofValue v = .error .options ∨
    ∃ text, ofValue v = .error (.duration text)
  /-- Milliseconds and words stand for the same options exactly if they are the same time. -/
  agrees : ∀ (other : Value) (only : Bool) (n : Nat) (text : String) (count : Nat) (u : TimeUnit),
    Form v (some (.millis n)) only → Form other (some (.words text)) only → Spells text count u →
      (ofValue v = ofValue other ↔ n = count * u.seconds * 1000)

/-- A value is read by its form, then by the words of its window. -/
theorem schema_kept (v : Value) : SchemaKept v where
  accepts o := by
    constructor
    · intro read
      obtain ⟨window, only, form⟩ := formed (v := v) (by simp [read])
      obtain ⟨lasts, rfl⟩ := (accepted_iff form).mp read
      exact ⟨window, form, lasts⟩
    · rintro ⟨window, form, lasts⟩
      exact (accepted_iff form).mpr ⟨lasts, rfl⟩
  formless := by
    refine ⟨fun refused window only form => ?_, ofValue_formless⟩
    obtain ⟨text, -, ⟨⟩, -⟩ := (refused_iff form).mp refused
  misspelt text := by
    constructor
    · intro refused
      obtain ⟨window, only, form⟩ := formed (v := v) (by simp [refused])
      obtain ⟨_, rfl, ⟨⟩, never⟩ := (refused_iff form).mp refused
      exact ⟨⟨only, form⟩, never⟩
    · rintro ⟨⟨only, form⟩, never⟩
      exact (refused_iff form).mpr ⟨text, rfl, rfl, never⟩
  outcomes := by
    cases read : ofValue v with
    | ok o => exact .inl ⟨o, rfl⟩
    | error cause =>
      by_cases structural : cause = .options
      · exact .inr (.inl (congrArg _ structural))
      · obtain ⟨window, only, form⟩ := formed (v := v) (by simpa [read] using structural)
        obtain ⟨text, -, rfl, -⟩ := (refused_iff form).mp read
        exact .inr (.inr ⟨text, rfl⟩)
  agrees other only n text count u millis words spells := by
    have left : ofValue v = .ok ⟨some (.ofMillis n), only⟩ :=
      (accepted_iff millis).mpr ⟨.millis, rfl⟩
    have right : ofValue other = .ok ⟨some (.ofSeconds (count * u.seconds)), only⟩ :=
      (accepted_iff words).mpr ⟨.words spells, rfl⟩
    rw [left, right]
    simp [Span.ofMillis, Span.ofSeconds]
    omega

/-- A key that is misspelt and words that are none. -/
example : ofValue (.object [("debounce", .text "a while")]) = .error .options := rfl

end Options

end Reflex
