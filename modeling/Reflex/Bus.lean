/-! Subscriptions to topics, in subscription order. Numbers are given out once, so an
old one never names a later subscription. -/
namespace Reflex

structure Subscription (η : Type) where
  id : Nat
  topic : String
  handler : η

structure Bus (η : Type) where
  next : Nat
  subscriptions : List (Subscription η)

namespace Bus

variable {η : Type}

def empty : Bus η := ⟨0, []⟩

/-- Subscribes a handler; the number of the new subscription is the bus's next one. -/
def subscribe (b : Bus η) (topic : String) (handler : η) : Bus η :=
  ⟨b.next + 1, b.subscriptions ++ [⟨b.next, topic, handler⟩]⟩

def holds (b : Bus η) (id : Nat) : Bool := b.subscriptions.any (·.id == id)

def unsubscribe (b : Bus η) (id : Nat) : Bus η :=
  ⟨b.next, b.subscriptions.filter (·.id != id)⟩

def subscribers (b : Bus η) (topic : String) : List (Subscription η) :=
  b.subscriptions.filter (·.topic == topic)

def count (b : Bus η) (topic : String) : Nat := (b.subscribers topic).length

end Bus

end Reflex
