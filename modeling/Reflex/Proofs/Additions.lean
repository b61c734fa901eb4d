import Reflex.Proofs.Calendar
import Reflex.Proofs.Moves

/-! Addition of spans to instants, by which clocks move, timers become due and scenarios stay
quiet. A clock adds in two steps, and each can refuse: a span may be too long for a signed
length, and the calendar may end before the sum. The calendar is shorter than the longest signed
length, so the first step refuses only what the second would refuse too. -/
namespace Reflex
open Engine

namespace Span

variable {d : Span}

theorem signed?_eq_some {length : Int} :
    d.signed? = some length ↔ length = d.nanos ∧ d.nanos ≤ longestSigned.nanos := by
  unfold signed?
  split
  · rename_i short
    rw [Option.some.injEq]
    exact ⟨fun same => ⟨same.symm, short⟩, fun same => same.1.symm⟩
  · rename_i long
    exact ⟨nofun, fun same => absurd same.2 long⟩

theorem signed?_eq_none : d.signed? = none ↔ longestSigned.nanos < d.nanos := by
  unfold signed?
  split
  · rename_i short
    exact ⟨nofun, fun long => absurd short (Nat.not_le.mpr long)⟩
  · rename_i long
    exact ⟨fun _ => Nat.not_le.mp long, fun _ => rfl⟩

end Span

namespace Instant

variable {t u v : Instant} {d : Span}

theorem representable_latest : latest.Representable := ⟨by decide, Int.le_refl _⟩

theorem shift?_eq_some {length : Int} :
    t.shift? length = some u ↔ u.nanos = t.nanos + length ∧ u.Representable := by
  simp only [shift?, ← representable_iff, Option.ite_none_right_eq_some, Option.some.injEq]
  constructor
  · rintro ⟨known, rfl⟩
    exact ⟨rfl, known⟩
  · rintro ⟨sum, known⟩
    obtain rfl : u = ⟨t.nanos + length⟩ := eq_iff.mpr sum
    exact ⟨known, rfl⟩

/-- No two instants of the calendar are further apart than a signed length reaches. -/
theorem sub_le_longestSigned (known : t.Representable) (other : u.Representable) :
    u.nanos - t.nanos ≤ Span.longestSigned.nanos := by
  have early : earliest.nanos ≤ t.nanos := known.1
  have late : u.nanos ≤ latest.nanos := other.2
  have range : latest.nanos - earliest.nanos ≤ Span.longestSigned.nanos := by decide
  omega

/-- The instant a span after another one, or the latest one if there is none. -/
inductive Later (t : Instant) (d : Span) : Instant → Prop where
  | sum {u : Instant} : u.Representable → u.nanos = t.nanos + d.nanos → Later t d u
  | beyond : (∀ u : Instant, u.Representable → u.nanos ≠ t.nanos + d.nanos) → Later t d latest

theorem Later.unique (first : t.Later d u) (second : t.Later d v) : u = v := by
  cases first with
  | sum known here =>
    cases second with
    | sum _ there => exact eq_iff.mpr (here.trans there.symm)
    | beyond none => exact absurd here (none u known)
  | beyond none =>
    cases second with
    | sum known there => exact absurd there (none v known)
    | beyond _ => rfl

theorem later_add (known : t.Representable) : t.Later d (t.add d) := by
  have early : earliest.nanos ≤ t.nanos := known.1
  unfold add
  split
  · rename_i within
    refine .sum ⟨?_, within⟩ rfl
    rw [le_iff]
    dsimp only
    omega
  · rename_i after
    refine .beyond fun u other sum => after ?_
    rw [← sum]
    exact other.2

/-- Both steps succeed if there is an instant that much later: its span cannot be too long. -/
theorem signed?_bind_shift? (known : t.Representable) :
    d.signed?.bind t.shift? = some u ↔ u.nanos = t.nanos + d.nanos ∧ u.Representable := by
  simp only [Option.bind_eq_some_iff, Span.signed?_eq_some, shift?_eq_some]
  constructor
  · rintro ⟨length, ⟨rfl, -⟩, reached⟩
    exact reached
  · rintro ⟨sum, other⟩
    have near := sub_le_longestSigned known other
    exact ⟨d.nanos, ⟨rfl, by omega⟩, sum, other⟩

theorem later_advance (known : t.Representable) : t.Later d (t.advance d) := by
  unfold advance
  cases added : d.signed?.bind t.shift? with
  | none =>
    refine .beyond fun u other sum => ?_
    rw [(signed?_bind_shift? known).mpr ⟨sum, other⟩] at added
    cases added
  | some u =>
    obtain ⟨sum, other⟩ := (signed?_bind_shift? known).mp added
    exact .sum other sum

theorem advance_eq_add (known : t.Representable) (d : Span) : t.advance d = t.add d :=
  (later_advance known).unique (later_add known)

theorem Later.representable (later : t.Later d u) : u.Representable := by
  cases later with
  | sum known => exact known
  | beyond => exact representable_latest

theorem le_add (known : t.Representable) (d : Span) : t ≤ t.add d := by
  have late : t.nanos ≤ latest.nanos := known.2
  rw [add_eq, le_iff]
  dsimp only
  omega

theorem add_add (t : Instant) (d e : Span) : (t.add d).add e = t.add (d.add e) := by
  simp only [add_eq, Span.add, eq_iff]
  omega

end Instant

variable {σ : Type}

theorem Script.advance_run (call : Call σ) (d : Span) (next : Except Failure Unit → Program σ)
    (w : World σ) : interpret call (Script.advance d next) w =
      interpret call (next (.ok ())) { w with clock := w.clock.advance d } := rfl

/-- What adding spans to an instant does. -/
structure AdditionsKept (t : Instant) : Prop where
  /-- The sum where there is one, otherwise the latest instant. -/
  sum : ∀ d u, t.advance d = u ↔ t.Later d u
  /-- What the first step refuses is too long for the calendar too. -/
  long : ∀ d, Span.longestSigned.nanos < d.nanos → d.signed? = none ∧ t.advance d = .latest
  forward : ∀ d, t ≤ t.advance d
  mono : ∀ u d e, u.Representable → t ≤ u → d.nanos ≤ e.nanos → t.advance d ≤ u.advance e
  joined : ∀ d e, (t.advance d).advance e = t.advance (d.add e)
  /-- Deadlines and ends of suppression are the same sums. -/
  added : ∀ d, t.add d = t.advance d
  /-- A clock moved forward twice stands where it would after one move. -/
  clock : ∀ {σ : Type} (call : Call σ) (d e : Span) next (w : World σ), w.clock = t →
    interpret call ((do Script.advance d; Script.advance e) next) w =
      interpret call (Script.advance (d.add e) next) w
  /-- A timer is due at the same time if it is armed later for what is left. -/
  deadline : ∀ {σ : Type} (d e : Span) (task : Reaction σ) (w : World σ), w.clock = t →
    (once (d.add e) task w).2.agenda =
      (once e task { w with clock := t.advance d }).2.agenda

/-- Whatever the span is, and however short the rest of the calendar. -/
theorem additions_kept {t : Instant} (known : t.Representable) : AdditionsKept t := by
  have joined : ∀ d e, (t.advance d).advance e = t.advance (d.add e) := by
    intro d e
    have reached := (Instant.later_advance (d := d) known).representable
    rw [Instant.advance_eq_add reached, Instant.advance_eq_add known, Instant.add_add,
      Instant.advance_eq_add known]
  constructor
  · intro d u
    constructor
    · rintro rfl
      exact Instant.later_advance known
    · exact (Instant.later_advance known).unique
  · intro d long
    have refused := Span.signed?_eq_none.mpr long
    refine ⟨refused, ?_⟩
    rw [Instant.advance, refused]
    rfl
  · intro d
    rw [Instant.advance_eq_add known]
    exact Instant.le_add known d
  · intro u d e other le longer
    rw [Instant.advance_eq_add known, Instant.advance_eq_add other]
    exact Instant.add_le_add le longer
  · exact joined
  · exact fun d => (Instant.advance_eq_add known d).symm
  · rintro σ call d e next w rfl
    rw [Script.advance_run, ← joined]
    rfl
  · rintro σ d e task w rfl
    rw [once_run, once_run]
    change w.agenda.arm (w.clock.add (d.add e)) task = w.agenda.arm ((w.clock.advance d).add e) task
    rw [Instant.advance_eq_add known, Instant.add_add]

/-- Ten seconds before the end of the calendar. -/
def brink : Instant := .ofSecond 8210266876790

theorem brink_representable : brink.Representable := by
  rw [Instant.representable_iff]
  decide

theorem additions_kept_brink :
    brink.Representable ∧ AdditionsKept brink ∧
      brink.advance (.ofSeconds 9) = .ofSecond 8210266876799 ∧
      brink.advance (.ofSeconds 10) = .latest ∧
      (Span.ofSeconds 18446744073709551615).signed? = none ∧
      brink.advance (.ofSeconds 18446744073709551615) = .latest := by
  have kept := additions_kept brink_representable
  exact ⟨brink_representable, kept, by decide, by decide, kept.long _ (by decide)⟩

end Reflex
