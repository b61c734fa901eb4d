import Reflex.Text.Blank

/-! Patterns and where they match. A pattern acts on sets of places in a text: it sends
the places where a match may begin to the places where it may end. A set of places is
one truth value for each place, from before the first character to after the last. -/
namespace Reflex

inductive Pattern where
  | empty
  | char (accepts : Char → Bool)
  | border (holds : Option Char → Option Char → Bool)
  | seq (first second : Pattern)
  | alt (left right : Pattern)
  | repeated (body : Pattern) (least : Nat) (most : Option Nat)

namespace Pattern

abbrev Places := List Bool

def Places.or (a b : Places) : Places := List.zipWith (fun x y => x || y) a b

def Places.without (a b : Places) : Places := List.zipWith (fun x y => x && !y) a b

def Places.some (a : Places) : Bool := a.any id

/-- The characters before and after each place. -/
def borders (before : Option Char) : List Char → List (Option Char × Option Char)
  | [] => [(before, none)]
  | c :: rest => (before, Option.some c) :: borders (Option.some c) rest

/-- Adds the places reached by `step` again and again from `fresh`. -/
def reach (step : Places → Places) : Nat → Places → Places → Places
  | 0, seen, _ => seen
  | fuel + 1, seen, fresh =>
    let next := (step fresh).without seen
    if next.some then reach step fuel (seen.or next) next else seen

/-- Adds the places reached by at most `n` steps. -/
def reachWithin (step : Places → Places) : Nat → Places → Places
  | 0, starts => starts
  | n + 1, starts => starts.or (reachWithin step n (step starts))

def iterate (step : Places → Places) : Nat → Places → Places
  | 0, starts => starts
  | n + 1, starts => iterate step n (step starts)

/-- Where matches of a pattern that begin at the places `starts` end. -/
def ends (text : List Char) : Pattern → Places → Places
  | empty, starts => starts
  | char accepts, starts => false :: List.zipWith (fun c here => here && accepts c) text starts
  | border holds, starts =>
    List.zipWith (fun (before, after) here => here && holds before after) (borders none text) starts
  | seq first second, starts => ends text second (ends text first starts)
  | alt left right, starts => (ends text left starts).or (ends text right starts)
  | repeated body least none, starts =>
    let start := iterate (ends text body) least starts
    reach (ends text body) (text.length + 1) start start
  | repeated body least (Option.some most), starts =>
    reachWithin (ends text body) (most - least) (iterate (ends text body) least starts)

/-- Whether some part of the text matches. -/
def matchesIn (p : Pattern) (text : String) : Bool :=
  let chars := text.toList
  (ends chars p (List.replicate (chars.length + 1) true)).some

end Pattern

end Reflex
