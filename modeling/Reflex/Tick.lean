import Reflex.Time.OfDay
import Reflex.Time.Stamp
import Reflex.Time.Weekday

/-! What the scheduler publishes about a second. -/
namespace Reflex.Tick

/-- The second, its time of day and its weekday. -/
def payload (t : Instant) : Value :=
  .ofMembers [("at", .text t.renderToSecond), ("time", .text (TimeOfDay.of t).render),
    ("day", .text (Weekday.of t).name)]

end Reflex.Tick
