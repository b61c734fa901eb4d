import Reflex.Proofs.Declaring
import Reflex.Proofs.Depth

/-! The daemon. Once it is set up it is asked for what declares nothing, so it holds declared
code only and is at rest between requests. Whatever it is asked for comes to its end. -/
namespace Reflex
open Engine World History

variable {σ : Type}

/-- The worlds that a daemon can be in: it is set up from a configuration, and after that
asked for what declares nothing, at whatever times. -/
inductive Daemon (c : Config) : World σ → Prop
  | booted {clock : Instant} {memory : σ} {depth : Nat} {w next : World σ} :
      Bootstrap.start c clock memory = .ok w → bootstrap depth c w = (.ok (), next) →
      Daemon c next
  | served {r : Reply} {q : Request r} {depth : Nat} {w next : World σ}
      {outcome : Except Interrupt Bool} : Daemon c w → q.isService = true →
      Engine.run depth (.perform q) w = (outcome, next) → ended outcome = true → Daemon c next

theorem World.Stands.run_returns {i : Nat} {w : World σ} (stands : w.Stands i) (n : Nat)
    {r : Reply} {q : Request r} (service : q.isService = true) :
    Returns (3 * i + 3 ≤ n) (Engine.run n (.perform q)) w := by
  cases n with
  | zero => exact ⟨fun deep => by omega, nofun⟩
  | succ n =>
    have performed := perform_returns (exec_reaching n) service stands
    exact interpret_perform stands (performed.weaken fun deep => by omega)

theorem Daemon.resting {c : Config} {w : World σ} (daemon : Daemon c w) : w.Resting := by
  induction daemon with
  | booted started ready => exact bootstrap_resting (Bootstrap.start_resting started) ready
  | @served _ _ depth _ _ _ _ service ran came resting =>
    have kept := (resting.stands.run_returns depth service).kept
    rw [ran] at kept
    exact resting.kept (kept came)

/-- Whatever a daemon is asked for comes to an end that does not depend on how deep code may
nest, once that is three levels for each scenario and a few more. At every moment of its
history the passes in progress are over different scenarios, so there are at most as many
as scenarios. -/
theorem daemon_returns {c : Config} {w : World σ} (daemon : Daemon c w) {r : Reply}
    {q : Request r} (service : q.isService = true) :
    ∃ outcome next, ended outcome = true ∧
      (∀ depth, 3 * w.scenarios.length + 3 ≤ depth →
        Engine.run depth (.perform q) w = (outcome, next)) ∧
      ∀ moment, moment <:+ next.journal →
        (passes moment).Nodup ∧ (passes moment).length ≤ w.scenarios.length := by
  obtain ⟨came, kept⟩ :=
    daemon.resting.stands.run_returns (3 * w.scenarios.length + 3) service
  rcases ran : Engine.run (3 * w.scenarios.length + 3) (.perform q) w with ⟨outcome, next⟩
  rw [ran] at came kept
  have came := came (Nat.le_refl _)
  have kept := kept came
  refine ⟨outcome, next, came, fun depth deeper => run_mono deeper ran came, ?_⟩
  rintro moment ⟨later, journal⟩
  have distinct := kept.distinct
  rw [kept.length, ← journal] at distinct
  have before : Distinct w.scenarios.length moment := distinct.before
  exact ⟨before.nodup, before.length_le⟩

/-- Four scenarios that set each other off, by way of topics, of a device and of a variable
that the last one writes itself. -/
def circuit : Config :=
  { Config.default with
    devices := ["lamp"]
    scenarios := [
      ⟨"call", .null, [⟨"event", [.text "ping"]⟩], [⟨none, some "pong", none, none⟩]⟩,
      ⟨"answer", .null, [⟨"event", [.text "pong"]⟩], [⟨none, some "device", none, none⟩]⟩,
      ⟨"echo", .null, [⟨"device.changes", [.text "lamp"]⟩],
        [⟨none, some "ping", some ⟨"echoes", .int 1, none⟩, none⟩]⟩,
      ⟨"count", .null, [⟨"variable.changes", [.text "echoes"]⟩],
        [⟨none, none, some ⟨"echoes", .int 2, none⟩, none⟩]⟩] }

def unlit : World Unit :=
  { World.start (.ofSecond 28800) [⟨"lamp", [], none⟩] () with
    agenda := { (Agenda.empty : Agenda (Reaction Unit)) with maxCatchUp := circuit.maxCatchUp } }

def wired : World Unit := (bootstrap 4 circuit unlit).2

theorem wired_daemon : Daemon circuit wired := by
  have succeeded : (bootstrap 4 circuit unlit).1.isOk = true := by decide +kernel
  have started : Bootstrap.start circuit (.ofSecond 28800) () = .ok unlit := rfl
  exact .booted started (bootstrap_ready succeeded)

/-- A call with a report goes round until all four passes are in progress. -/
def lampReport : Value :=
  .ofMembers [("device", .text "lamp"), ("attribute", .text "power"), ("value", .bool true)]

theorem daemon_returns_circuit :
    Daemon circuit wired ∧ (Request.emit "ping" [lampReport]).isService = true ∧
      (Engine.run 15 (.perform (.emit "ping" [lampReport])) wired).2.journal.tails.any
        (fun moment => passes moment == [3, 2, 1, 0]) = true ∧
      ∃ outcome next, ended outcome = true ∧
        (∀ depth, 3 * wired.scenarios.length + 3 ≤ depth →
          Engine.run depth (.perform (.emit "ping" [lampReport])) wired = (outcome, next)) ∧
        ∀ moment, moment <:+ next.journal →
          (passes moment).Nodup ∧ (passes moment).length ≤ wired.scenarios.length :=
  ⟨wired_daemon, rfl, by decide +kernel, daemon_returns wired_daemon rfl⟩

end Reflex
