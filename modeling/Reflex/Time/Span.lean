/-! Lengths of time. -/
namespace Reflex

/-- A length of time in nanoseconds. -/
structure Span where
  nanos : Nat
deriving Repr, DecidableEq

namespace Span

def ofSeconds (n : Nat) : Span := ⟨n * 1000000000⟩

def ofMillis (n : Nat) : Span := ⟨n * 1000000⟩

def zero : Span := ⟨0⟩

def add (x y : Span) : Span := ⟨x.nanos + y.nanos⟩

def seconds (x : Span) : Nat := x.nanos / 1000000000

def millis (x : Span) : Nat := x.nanos / 1000000

/-- The longest span with a signed length, which 64 bits count in milliseconds. -/
def longestSigned : Span := ofMillis 9223372036854775807

/-- The span as a signed length in nanoseconds, unless it is too long for one. -/
def signed? (x : Span) : Option Int :=
  if x.nanos ≤ longestSigned.nanos then some x.nanos else none

end Span

end Reflex
