import Errand.Status
import Errand.Text.Utf8
import Errand.Decimal.Dyadic

/-! # Values

Callers hand over values of many kinds where one kind is meant: an exit value that is a text, a
timeout that is a truth value, a status that is only a name. `Value` holds whatever arrives, and
the operations on it are the ones a caller can observe: equality, truth, and what a value is made
of. Whole numbers have any size, other numbers are doubles. -/

namespace Errand

/-- A value of any kind. -/
inductive Value where
  | null
  | bool (b : Bool)
  | int (n : Int)
  | float (x : Float)
  | text (s : String)
  | bytes (bs : Bytes)
  | status (s : Status)
  | list (xs : List Value)
  | dict (entries : List (String × Value))
  deriving Repr, Inhabited

namespace Value

/-- The name of the kind of a value. -/
def kindName : Value → String
  | null => "NoneType"
  | bool _ => "bool"
  | int _ => "int"
  | float _ => "float"
  | text _ => "str"
  | bytes _ => "bytes"
  | status _ => "ExecutionStatus"
  | list _ => "list"
  | dict _ => "dict"

/-- The text that a value is; a status is its name. -/
def text? : Value → Option String
  | text s => some s
  | status s => some s.name
  | _ => none

/-- The whole number that a value counts as; a truth value is 0 or 1. -/
def int? : Value → Option Int
  | bool b => some (if b then 1 else 0)
  | int n => some n
  | _ => none

/-- The status that a value names. -/
def status? (v : Value) : Option Status :=
  v.text?.bind Status.ofName?

/-- Whether a value counts as true: it is not null, zero or empty. -/
def truthy : Value → Bool
  | null => false
  | bool b => b
  | int n => n != 0
  | float x => !(x == 0.0)
  | text s => !s.isEmpty
  | bytes bs => !bs.isEmpty
  | status _ => true
  | list xs => !xs.isEmpty
  | dict es => !es.isEmpty

/-- What a value is made of, for the kinds that are made of parts: characters, bytes, members,
keys. -/
def parts? : Value → Option (List Value)
  | text s => some (s.toList.map fun c => text (String.singleton c))
  | status s => some (s.name.toList.map fun c => text (String.singleton c))
  | bytes bs => some (bs.map fun b => int b.toNat)
  | list xs => some xs
  | dict es => some (es.map fun e => text e.1)
  | _ => none

/-- Whether a value can be looked up in a table. -/
def hashable : Value → Bool
  | list _ => false
  | dict _ => false
  | _ => true

/-- The member of that name. -/
def entry? (es : List (String × Value)) (key : String) : Option Value :=
  (es.find? fun e => e.1 == key).map (·.2)

/-- Named members with one more behind them; it takes the place of one that has its name. -/
def withEntry (es : List (String × Value)) (key : String) (v : Value) : List (String × Value) :=
  if es.any (·.1 == key) then es.map fun e => if e.1 == key then (key, v) else e
  else es ++ [(key, v)]

mutual

/-- A value laid over another one. Named members are laid one by one over those of the other, and
any other value hides what is below it. -/
def overlay : Value → Value → Value
  | dict es, dict fs => dict (overlayEntries es fs)
  | v, _ => v

/-- Named members laid over others. -/
def overlayEntries : List (String × Value) → List (String × Value) → List (String × Value)
  | [], fs => fs
  | (k, v) :: es, fs =>
    overlayEntries es (withEntry fs k (match entry? fs k with
      | some w => overlay v w
      | none => v))

end

mutual

/-- Equality as callers see it: numbers of all kinds compare by value, truth values are numbers, a
status equals its name, a NaN equals nothing, and the order of named members does not count. -/
def same : Value → Value → Bool
  | null, null => true
  | bool a, b => sameInt (if a then 1 else 0) b
  | int a, b => sameInt a b
  | float x, float y => x == y
  | float x, bool b => (Dyadic.ofDouble x).compareInt? (if b then 1 else 0) == some .eq
  | float x, int n => (Dyadic.ofDouble x).compareInt? n == some .eq
  | text a, text b => a == b
  | text a, status b => a == b.name
  | status a, text b => a.name == b
  | status a, status b => a == b
  | bytes a, bytes b => a == b
  | list xs, list ys => sameList xs ys
  | dict xs, dict ys => xs.length == ys.length && sameEntries xs ys
  | _, _ => false

/-- Equality of a whole number and a value. -/
def sameInt (n : Int) : Value → Bool
  | bool b => n == if b then 1 else 0
  | int m => n == m
  | float x => (Dyadic.ofDouble x).compareInt? n == some .eq
  | _ => false

/-- Equality member by member. -/
def sameList : List Value → List Value → Bool
  | [], [] => true
  | x :: xs, y :: ys => same x y && sameList xs ys
  | _, _ => false

/-- Whether every named member on the left has an equal one of its name on the right. -/
def sameEntries : List (String × Value) → List (String × Value) → Bool
  | [], _ => true
  | (k, x) :: xs, ys =>
    (match ys.find? fun e => e.1 == k with
      | some e => same x e.2
      | none => false) && sameEntries xs ys

end

/-- Whether a value equals a member of the list. -/
def memberOf (v : Value) (xs : List Value) : Bool :=
  xs.any (same v)

/-- On whole numbers, equality of values is equality. -/
@[simp] theorem same_int (a b : Int) : same (int a) (int b) = (a == b) := by
  simp [same, sameInt]

end Value

end Errand
