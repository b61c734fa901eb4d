import Mathlib
import Reflex.Config.Reading
import Reflex.Proofs.Phrases

/-! Loading the configuration. The environment has its say after the file and before validation, so
what is loaded is valid as a whole, and what is refused is refused for the first thing wrong with
it. -/
namespace Reflex
open Text

/-- Digits, with or without a plus sign before them, for a number of 64 bits. -/
structure WritesWord (text : String) (n : Nat) : Prop where
  digits : ∃ digits, (text.toList = digits ∨ text.toList = '+' :: digits) ∧ digits ≠ [] ∧
    (∀ c ∈ digits, c.isDigit = true) ∧ Nat.ofDigitChars 10 digits 0 = n
  fits : n < Word.size64

/-- The branch emits a topic, writes a variable or logs a message. -/
def Branch.Acts (b : Branch) : Prop :=
  (∃ topic, b.emit = some topic) ∨ (∃ a, b.set = some a) ∨ ∃ message, b.log = some message

/-- The place of the first branch that does nothing. -/
structure IdleAt (branches : List Branch) (place : Nat) : Prop where
  idle : ∃ b, branches[place]? = some b ∧ ¬ b.Acts
  first : ∀ n < place, ∀ b, branches[n]? = some b → b.Acts

namespace Config

/-- What a file stands for: the configuration in it, or the default one if there is no file. -/
inductive Provides : Source → Config → Prop
  | missing : Provides .missing default
  | parsed {content : String} {c : Config} : (Toml.read content).bind ofEntries? = some c →
      Provides (.text content) c

/-- A configuration after what the environment has replaced in it. -/
structure Overridden (c : Config) (e : Environment) (result : Config) : Prop where
  ticks : ∀ text n, e.tickMillis = some text → WritesWord text n → result.tickMillis = n
  keeps : (∀ text n, e.tickMillis = some text → ¬ WritesWord text n) →
    result.tickMillis = c.tickMillis
  general : ∀ filter, e.generalFilter = some filter → result.filter = filter
  own : ∀ filter, e.generalFilter = none → e.filter = some filter → result.filter = filter
  plain : e.generalFilter = none → e.filter = none → result.filter = c.filter
  maxCatchUp : result.maxCatchUp = c.maxCatchUp
  presets : result.presets = c.presets
  devices : result.devices = c.devices
  scenarios : result.scenarios = c.scenarios

/-- The limits of a configuration that can be used. -/
structure Sound (c : Config) : Prop where
  tick : 1 ≤ c.tickMillis ∧ c.tickMillis ≤ 1000
  catchUp : c.maxCatchUp ≤ 86400
  acting : ∀ d ∈ c.scenarios, ∀ b ∈ d.branches, b.Acts

/-- The first thing that is wrong with a configuration, and how it is put in words. -/
inductive FirstWrong (c : Config) : Defect → String → Prop
  | tick : ¬ (1 ≤ c.tickMillis ∧ c.tickMillis ≤ 1000) →
      FirstWrong c .tickMillis "scheduler.tick_ms must be between 1 and 1000"
  | catchUp : 1 ≤ c.tickMillis ∧ c.tickMillis ≤ 1000 → ¬ c.maxCatchUp ≤ 86400 →
      FirstWrong c .maxCatchUp "scheduler.max_catch_up_secs must be at most 86400"
  | idle {before after : List Declaration} {d : Declaration} {place : Nat} :
      1 ≤ c.tickMillis ∧ c.tickMillis ≤ 1000 → c.maxCatchUp ≤ 86400 →
      c.scenarios = before ++ d :: after → (∀ other ∈ before, ∀ b ∈ other.branches, b.Acts) →
      IdleAt d.branches place →
      FirstWrong c (.idleBranch place d.description) ("branch " ++ toString place ++
        " of scenario " ++ Text.quoted d.description ++ " has no action")

end Config

/-! Numbers in the environment. -/

theorem boundedNumeral_iff {bound n : Nat} {s : List Char} : boundedNumeral bound s = some n ↔
    (∃ digits, (s = digits ∨ s = '+' :: digits) ∧ digits ≠ [] ∧
      (∀ c ∈ digits, c.isDigit = true) ∧ Nat.ofDigitChars 10 digits 0 = n) ∧ n < bound := by
  -- A plus sign is no digit, so it is never one of the digits itself.
  have plus : ∀ rest, ¬ ∀ c ∈ '+' :: rest, c.isDigit = true := fun rest all =>
    absurd (all '+' (.head rest)) (by decide)
  unfold boundedNumeral
  split
  · rename_i rest
    simp only [Option.filter_eq_some_iff, numeral_iff, decide_eq_true_eq]
    refine and_congr_left fun _ => ⟨fun read => ⟨rest, .inr rfl, read⟩, ?_⟩
    rintro ⟨digits, rfl | same, nonempty, all, value⟩
    · exact absurd all (plus rest)
    · cases same
      exact ⟨nonempty, all, value⟩
  · rename_i unsigned
    simp only [Option.filter_eq_some_iff, numeral_iff, decide_eq_true_eq]
    refine and_congr_left fun _ => ⟨fun read => ⟨s, .inl rfl, read⟩, ?_⟩
    rintro ⟨digits, rfl | same, nonempty, all, value⟩
    · exact ⟨nonempty, all, value⟩
    · exact absurd same (unsigned digits)

theorem writesWord_iff {text : String} {n : Nat} :
    WritesWord text n ↔ boundedNumeral Word.size64 text.toList = some n := by
  rw [boundedNumeral_iff]
  exact ⟨fun writes => ⟨writes.digits, writes.fits⟩, fun ⟨digits, fits⟩ => ⟨digits, fits⟩⟩

theorem WritesWord.decimal {n : Nat} (fits : n < Word.size64) : WritesWord (toString n) n where
  digits := by
    refine ⟨Nat.toDigits 10 n, .inl (by simp), Nat.toDigits_ne_nil, ?_, ?_⟩
    · exact fun c => Nat.isDigit_of_mem_toDigits (by decide) (by decide)
    · exact Nat.ofDigitChars_ten_toDigits
  fits := fits

/-! Branches without an action. -/

theorem Branch.acts_iff {b : Branch} : b.Acts ↔ b.hasAction = true := by
  simp only [Acts, hasAction, Bool.or_eq_true, Option.isSome_iff_exists, or_assoc]

theorem idleAt_iff {branches : List Branch} {place : Nat} :
    IdleAt branches place ↔ branches.findIdx? (!·.hasAction) = some place := by
  rw [List.findIdx?_eq_some_iff_getElem]
  constructor
  · rintro ⟨⟨b, there, idle⟩, first⟩
    obtain ⟨within, rfl⟩ := List.getElem?_eq_some_iff.mp there
    refine ⟨within, by simpa [Branch.acts_iff] using idle, fun n before => ?_⟩
    have acts := first n before _ (List.getElem?_eq_getElem (before.trans within))
    simpa [Branch.acts_iff] using acts
  · rintro ⟨within, idle, first⟩
    refine ⟨⟨_, List.getElem?_eq_getElem within, by simpa [Branch.acts_iff] using idle⟩, ?_⟩
    intro n before b there
    obtain ⟨_, rfl⟩ := List.getElem?_eq_some_iff.mp there
    simpa [Branch.acts_iff] using first n before

theorem noIdle_iff {branches : List Branch} :
    branches.findIdx? (!·.hasAction) = none ↔ ∀ b ∈ branches, b.Acts := by
  simp [List.findIdx?_eq_none_iff, Branch.acts_iff]

namespace Config

theorem firstIdle_none {ds : List Declaration} :
    firstIdle ds = none ↔ ∀ d ∈ ds, ∀ b ∈ d.branches, b.Acts := by
  induction ds with
  | nil => simp [firstIdle]
  | cons d rest ih =>
    rw [List.forall_mem_cons, ← noIdle_iff, ← ih, firstIdle]
    cases d.branches.findIdx? (!·.hasAction) <;> simp

theorem firstIdle_some {ds : List Declaration} {defect : Defect} : firstIdle ds = some defect ↔
    ∃ before d after place, ds = before ++ d :: after ∧
      (∀ other ∈ before, ∀ b ∈ other.branches, b.Acts) ∧ IdleAt d.branches place ∧
        defect = .idleBranch place d.description := by
  induction ds with
  | nil => simp [firstIdle]
  | cons d rest ih =>
    rw [firstIdle]
    cases found : d.branches.findIdx? (!·.hasAction) with
    | some place =>
      have idle := idleAt_iff.mpr found
      constructor
      · rintro ⟨⟩
        exact ⟨[], d, rest, place, rfl, List.forall_mem_nil _, idle, rfl⟩
      · rintro ⟨before, other, after, place', split, acting, idle', rfl⟩
        cases before with
        | nil =>
          cases split
          rw [idleAt_iff, found] at idle'
          cases idle'
          rfl
        | cons first before =>
          cases split
          rw [noIdle_iff.mpr (acting d (.head _))] at found
          cases found
    | none =>
      rw [ih]
      constructor
      · rintro ⟨before, other, after, place, rfl, acting, idle⟩
        exact ⟨d :: before, other, after, place, rfl,
          List.forall_mem_cons.mpr ⟨noIdle_iff.mp found, acting⟩, idle⟩
      · rintro ⟨before, other, after, place, split, acting, idle, same⟩
        cases before with
        | nil =>
          cases split
          rw [idleAt_iff, found] at idle
          cases idle
        | cons first before =>
          cases split
          exact ⟨before, other, after, place, rfl, (List.forall_mem_cons.mp acting).2, idle, same⟩

/-! Validation. -/

variable {c result : Config} {e : Environment}

theorem sound_iff : Sound c ↔ c.defect? = none := by
  unfold defect? tickMillisLimit catchUpLimit
  constructor
  · rintro ⟨tick, catchUp, acting⟩
    rw [if_neg (by omega), if_neg (by omega)]
    exact firstIdle_none.mpr acting
  · intro none
    split at none
    · cases none
    split at none
    · cases none
    · exact ⟨by omega, by omega, firstIdle_none.mp none⟩

theorem firstWrong_iff {defect : Defect} {words : String} :
    FirstWrong c defect words ↔ c.defect? = some defect ∧ words = defect.message := by
  unfold defect? tickMillisLimit catchUpLimit
  constructor
  · rintro (tick | ⟨tick, catchUp⟩ | ⟨tick, catchUp, split, acting, idle⟩)
    · exact ⟨if_pos (by omega), by decide⟩
    · rw [if_neg (by omega), if_pos (by omega)]
      exact ⟨rfl, by decide⟩
    · rw [if_neg (by omega), if_neg (by omega)]
      exact ⟨firstIdle_some.mpr ⟨_, _, _, _, split, acting, idle, rfl⟩, rfl⟩
  · rintro ⟨found, rfl⟩
    split at found
    · cases found
      exact .tick (by omega)
    split at found
    · cases found
      exact .catchUp (by omega) (by omega)
    · obtain ⟨before, d, after, place, split, acting, idle, rfl⟩ := firstIdle_some.mp found
      exact .idle (by omega) (by omega) split acting idle

/-! The environment. -/

theorem override_overridden (c : Config) (e : Environment) : Overridden c e (c.override e) where
  ticks text n given writes := by
    rw [override, given, Option.bind_some, writesWord_iff.mp writes, Option.getD_some]
  keeps never := by
    have none : (e.tickMillis.bind fun s => boundedNumeral Word.size64 s.toList) = none := by
      refine Option.eq_none_iff_forall_not_mem.mpr fun n read => ?_
      obtain ⟨text, given, read⟩ := Option.bind_eq_some_iff.mp read
      exact never text n given (writesWord_iff.mpr read)
    rw [override, none, Option.getD_none]
  general filter given := by
    rw [override, given]
    rfl
  own filter none given := by
    rw [override, none, given]
    rfl
  plain none unset := by
    rw [override, none, unset]
    rfl
  maxCatchUp := rfl
  presets := rfl
  devices := rfl
  scenarios := rfl

theorem Overridden.tick_eq {other : Config} (one : Overridden c e result)
    (two : Overridden c e other) : result.tickMillis = other.tickMillis := by
  by_cases written : ∃ text n, e.tickMillis = some text ∧ WritesWord text n
  · obtain ⟨text, n, given, writes⟩ := written
    exact (one.ticks text n given writes).trans (two.ticks text n given writes).symm
  · have never : ∀ text n, e.tickMillis = some text → ¬ WritesWord text n :=
      fun text n given writes => written ⟨text, n, given, writes⟩
    exact (one.keeps never).trans (two.keeps never).symm

theorem Overridden.filter_eq {other : Config} (one : Overridden c e result)
    (two : Overridden c e other) : result.filter = other.filter := by
  cases general : e.generalFilter with
  | some filter => exact (one.general filter general).trans (two.general filter general).symm
  | none =>
    cases own : e.filter with
    | some filter => exact (one.own filter general own).trans (two.own filter general own).symm
    | none => exact (one.plain general own).trans (two.plain general own).symm

theorem overridden_iff : Overridden c e result ↔ c.override e = result := by
  constructor
  · intro overridden
    have same := override_overridden c e
    have tick := same.tick_eq overridden
    have filter := same.filter_eq overridden
    obtain ⟨-, -, -, -, -, catchUp, presets, devices, scenarios⟩ := overridden
    cases result
    subst catchUp presets devices scenarios
    exact Config.mk.injEq .. |>.mpr ⟨tick, rfl, filter, rfl, rfl, rfl⟩
  · rintro rfl
    exact override_overridden c e

/-! Loading. -/

section Loading

variable {source : Source}

theorem Provides.read (provides : Provides source c) : ofSource source = .ok c := by
  cases provides with
  | missing => rfl
  | parsed found => rw [ofSource, found]

theorem load_eq (provides : Provides source c) : load source e =
    (c.override e).defect?.elim (.ok (c.override e)) (.error <| .defective ·) := by
  rw [load, provides.read]
  change (validate (c.override e)).bind _ = _
  unfold validate
  cases (c.override e).defect? <;> rfl

theorem load_ok (provides : Provides source c) {loaded : Config} :
    load source e = .ok loaded ↔ Overridden c e loaded ∧ Sound loaded := by
  rw [load_eq provides, overridden_iff, sound_iff]
  constructor
  · intro accepted
    cases found : (c.override e).defect? with
    | none =>
      rw [found] at accepted
      cases accepted
      exact ⟨rfl, found⟩
    | some defect =>
      rw [found] at accepted
      cases accepted
  · rintro ⟨rfl, none⟩
    rw [none]
    rfl

theorem load_error (provides : Provides source c) {problem : Problem} :
    load source e = .error problem ↔ ∃ seen defect words, Overridden c e seen ∧
      FirstWrong seen defect words ∧ problem = .defective defect ∧
        problem.message = "invalid configuration: " ++ words := by
  rw [load_eq provides]
  constructor
  · intro refused
    cases found : (c.override e).defect? with
    | none =>
      rw [found] at refused
      cases refused
    | some defect =>
      rw [found] at refused
      cases refused
      exact ⟨c.override e, defect, defect.message, override_overridden c e,
        firstWrong_iff.mpr ⟨found, rfl⟩, rfl, rfl⟩
  · rintro ⟨seen, defect, words, overridden, first, rfl, -⟩
    rw [overridden_iff.mp overridden, (firstWrong_iff.mp first).1]
    rfl

/-- What comes of a configuration that is read, in an environment. -/
structure LoadingKept (source : Source) (c : Config) (e : Environment) : Prop where
  accepts : ∀ loaded, load source e = .ok loaded ↔ Overridden c e loaded ∧ Sound loaded
  refuses : ∀ problem, load source e = .error problem ↔ ∃ seen defect words, Overridden c e seen ∧
    FirstWrong seen defect words ∧ problem = .defective defect ∧
      problem.message = "invalid configuration: " ++ words
  /-- Whatever the tick was, a number in the environment stands for it. -/
  repairs : ∀ n, 1 ≤ n ∧ n ≤ 1000 → c.maxCatchUp ≤ 86400 →
    (∀ d ∈ c.scenarios, ∀ b ∈ d.branches, b.Acts) →
      ∃ loaded, load source { e with tickMillis := some (toString n) } = .ok loaded ∧
        loaded.tickMillis = n
  spoils : ∀ n < Word.size64, ¬ (1 ≤ n ∧ n ≤ 1000) →
    load source { e with tickMillis := some (toString n) } = .error (.defective .tickMillis)

/-- A configuration is validated as the environment has left it. -/
theorem loading_kept (provides : Provides source c) (e : Environment) :
    LoadingKept source c e where
  accepts loaded := load_ok provides
  refuses problem := load_error provides
  repairs n within catchUp acting := by
    have overridden := override_overridden c { e with tickMillis := some (toString n) }
    have fits : n < Word.size64 := by
      have large : 1000 < Word.size64 := by decide
      omega
    have tick := overridden.ticks _ n rfl (.decimal fits)
    refine ⟨_, (load_ok provides).mpr ⟨overridden, ?_, catchUp, acting⟩, tick⟩
    rw [tick]
    exact within
  spoils n fits beyond := by
    have overridden := override_overridden c { e with tickMillis := some (toString n) }
    have tick := overridden.ticks _ n rfl (.decimal fits)
    refine (load_error provides).mpr ⟨_, _, _, overridden, .tick ?_, rfl, by decide⟩
    rw [tick]
    exact beyond

/-- A tick of no length in the file. -/
def still : Source := .text "[scheduler]\ntick_ms = 0"

def hurried : Environment := ⟨some "+250", some "debug", none⟩

theorem still_provides : Provides still { default with tickMillis := 0 } := .parsed (by cbv)

theorem loading_kept_still :
    Provides still { default with tickMillis := 0 } ∧
      LoadingKept still { default with tickMillis := 0 } hurried ∧
      load still hurried = .ok { default with tickMillis := 250, filter := "debug" } :=
  ⟨still_provides, loading_kept still_provides hurried, by cbv⟩

end Loading

end Config

end Reflex
