import Reflex.Engine.Act

/-! Publishing on the bus. -/
namespace Reflex.Engine

variable {σ : Type} (call : Call σ)

open Act

/-- Calls subscribers in order up to the first failure. -/
def deliver (arguments : List Value) : List (Subscription (Reaction σ)) → Act σ Unit
  | [] => pure ()
  | s :: rest => do
    mark (.delivered s.id arguments)
    discard <| call (s.handler.program arguments)
    deliver arguments rest

/-- Delivers to those who are subscribed when the publication starts. -/
def emit (topic : String) (arguments : List Value) : Act σ Unit := do
  let w ← get
  mark (.emitted topic arguments)
  deliver call arguments (w.bus.subscribers topic)

def subscribe (topic : String) (handler : Reaction σ) : Act σ Nat := do
  let w ← get
  set { w with bus := w.bus.subscribe topic handler }
  mark (.subscribed w.bus.next topic)
  return w.bus.next

/-- Whether there was such a subscription; it is gone afterwards. -/
def unsubscribe (id : Nat) : Act σ Bool := do
  let w ← get
  set { w with bus := w.bus.unsubscribe id }
  mark (.unsubscribed id (w.bus.holds id))
  return w.bus.holds id

end Reflex.Engine
