import Reflex.Text.Blank
import Reflex.Text.Property
import Reflex.Text.Folding

/-! Sets of characters that patterns name, with a measure of how much room each takes
in a compiled pattern. -/
namespace Reflex.Pattern

structure Charset where
  accepts : Char → Bool
  room : Nat

namespace Charset

def none : Charset := ⟨fun _ => false, 32⟩

def single (c : Char) : Charset := ⟨(· == c), 32 * c.utf8Size⟩

def range (low high : Char) : Charset :=
  ⟨fun c => low ≤ c && c ≤ high, if high.toNat < 0x80 then 40 else 120⟩

def union (a b : Charset) : Charset := ⟨fun c => a.accepts c || b.accepts c, a.room + b.room⟩

def inter (a b : Charset) : Charset := ⟨fun c => a.accepts c && b.accepts c, max a.room b.room⟩

def without (a b : Charset) : Charset := ⟨fun c => a.accepts c && !b.accepts c, max a.room b.room⟩

def differ (a b : Charset) : Charset := ⟨fun c => a.accepts c != b.accepts c, a.room + b.room⟩

def complement (a : Charset) : Charset := ⟨fun c => !a.accepts c, a.room + 400⟩

/-- All characters that agree up to case with one of the set. -/
def caseless (a : Charset) : Charset :=
  ⟨fun c => (Text.caseMates c.toNat).any fun n => (Text.scalar n).any a.accepts, 3 * a.room⟩

def any : Charset := ⟨fun _ => true, 400⟩

def digit : Charset := ⟨Text.isDecimalDigit, 4000⟩

def blank : Charset := ⟨Text.isBlank, 600⟩

def word : Charset := ⟨Text.isWordCharacter, 45000⟩

def asciiDigit : Charset := ⟨Char.isDigit, 40⟩

def asciiBlank : Charset :=
  ⟨fun c => c == ' ' || c == '\t' || c == '\n' || c == '\r' || c == '\x0b' || c == '\x0c', 64⟩

def asciiWord : Charset := ⟨fun c => c.isAlphanum || c == '_', 64⟩

def isPunctuation (c : Char) : Bool := 0x21 ≤ c.toNat && c.toNat ≤ 0x7E && !c.isAlphanum

/-- The sets with names between colons. -/
def named? (name : String) : Option Charset :=
  let make (accepts : Char → Bool) : Option Charset := some ⟨accepts, 64⟩
  match name with
  | "alnum" => make Char.isAlphanum
  | "alpha" => make Char.isAlpha
  | "ascii" => make fun c => c.toNat < 0x80
  | "blank" => make fun c => c == ' ' || c == '\t'
  | "cntrl" => make fun c => c.toNat < 0x20 || c.toNat == 0x7F
  | "digit" => make Char.isDigit
  | "graph" => make fun c => 0x21 ≤ c.toNat && c.toNat ≤ 0x7E
  | "lower" => make Char.isLower
  | "print" => make fun c => 0x20 ≤ c.toNat && c.toNat ≤ 0x7E
  | "punct" => make isPunctuation
  | "space" => some asciiBlank
  | "upper" => make Char.isUpper
  | "word" => some asciiWord
  | "xdigit" => make fun c => (Text.hexDigitOf c).isSome
  | _ => Option.none

end Charset

end Reflex.Pattern
