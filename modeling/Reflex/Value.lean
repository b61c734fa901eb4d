import Reflex.Double.Decimal
import Reflex.Table

/-! Dynamic values: variables, payloads and arguments. An object lists its members
in increasing key order without repetition, so one list stands for one object. -/
namespace Reflex

inductive Value where
  | null
  | bool (b : Bool)
  | int (n : Int)
  | double (x : Double)
  | text (s : String)
  | array (items : List Value)
  | object (members : List (String × Value))
deriving Repr, Inhabited

namespace Value

/-- The object with these members; of a repeated key the last value stays. -/
def ofMembers (members : List (String × Value)) : Value :=
  object (Table.ofList members)

/-- The member of an object, `null` for anything else. -/
def member (v : Value) (key : String) : Value :=
  match v with
  | object members => (Table.find? key members).getD null
  | _ => null

def text? : Value → Option String
  | text s => some s
  | _ => none

def isNull : Value → Bool
  | null => true
  | _ => false

/-- Null, false, zero and the empty text are not truthy. -/
def isTruthy : Value → Bool
  | null => false
  | bool b => b
  | int n => n != 0
  | double x => !x.isZero
  | text s => !s.isEmpty
  | array _ => true
  | object _ => true

/-- The number a value stands for in comparisons: numbers, texts that write a finite number
between blanks, and truth values as one and zero. -/
def number? : Value → Option Double
  | int n => some (Double.ofInt n)
  | double x => some x
  | text s => Double.read (Text.trimBlanks s.toList)
  | bool b => some (Double.ofInt (if b then 1 else 0))
  | _ => none

/-- Equality of values without parts; numbers compare by their nearest doubles. -/
def same : Value → Value → Bool
  | null, null => true
  | bool a, bool b => a == b
  | int a, int b => (Double.ofInt a).eq (Double.ofInt b)
  | int a, double y => (Double.ofInt a).eq y
  | double x, int b => x.eq (Double.ofInt b)
  | double x, double y => x.eq y
  | text a, text b => a == b
  | _, _ => false

mutual

/-- Equality of values by their parts: arrays item by item, objects key by key. -/
def deepEqual : Value → Value → Bool
  | array xs, array ys => deepEqualItems xs ys
  | object xs, object ys => xs.length == ys.length && deepEqualMembers xs ys
  | null, y => same null y
  | bool b, y => same (bool b) y
  | int n, y => same (int n) y
  | double x, y => same (double x) y
  | text s, y => same (text s) y
  | array _, _ => false
  | object _, _ => false

def deepEqualItems : List Value → List Value → Bool
  | [], [] => true
  | x :: xs, y :: ys => deepEqual x y && deepEqualItems xs ys
  | _, _ => false

/-- Every listed member has an equal one under its key in `ys`. -/
def deepEqualMembers : List (String × Value) → List (String × Value) → Bool
  | [], _ => true
  | (k, v) :: rest, ys =>
    (match Table.find? k ys with
      | some w => deepEqual v w
      | none => false) && deepEqualMembers rest ys

end

mutual

/-- Strict equality: an integer differs from every double, and the two zeros are equal. -/
def identical : Value → Value → Bool
  | null, null => true
  | bool a, bool b => a == b
  | int a, int b => a == b
  | double x, double y => x.eq y
  | text a, text b => a == b
  | array xs, array ys => identicalItems xs ys
  | object xs, object ys => identicalMembers xs ys
  | _, _ => false

def identicalItems : List Value → List Value → Bool
  | [], [] => true
  | x :: xs, y :: ys => identical x y && identicalItems xs ys
  | _, _ => false

def identicalMembers : List (String × Value) → List (String × Value) → Bool
  | [], [] => true
  | (k, v) :: xs, (l, w) :: ys => k == l && identical v w && identicalMembers xs ys
  | _, _ => false

end

end Value

end Reflex
