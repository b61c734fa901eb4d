import Reflex.Value

/-! The content of a TOML document. A date or time keeps its normal text. -/
namespace Reflex.Toml

inductive Node where
  | text (s : String)
  | integer (n : Int)
  /-- `none` is a number that is infinite or no number at all. -/
  | float (x : Option Double)
  | boolean (b : Bool)
  | stamp (s : String)
  | array (items : List Node)
  | table (entries : List (String × Node))
deriving Inhabited

namespace Node

/-- The key under which a date or time is an object's only member. -/
def stampKey : String := "$__toml_private_datetime"

mutual

/-- Values have no infinite numbers; null stands for them. -/
def toValue : Node → Value
  | text s => .text s
  | integer n => .int n
  | float (some x) => .double x
  | float none => .null
  | boolean b => .bool b
  | stamp s => .object [(stampKey, .text s)]
  | array items => .array (toValues items)
  | table entries => .ofMembers (toMembers entries)

def toValues : List Node → List Value
  | [] => []
  | n :: rest => toValue n :: toValues rest

def toMembers : List (String × Node) → List (String × Value)
  | [] => []
  | (k, n) :: rest => (k, toValue n) :: toMembers rest

end

/-- The entries of a table; a date or time has one. -/
def entries? : Node → Option (List (String × Node))
  | table entries => some entries
  | stamp s => some [(stampKey, .text s)]
  | _ => none

end Node

end Reflex.Toml
