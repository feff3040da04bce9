import Errand.Host.Duration
import Errand.Fault

/-! # How long a party waits

A limit of waiting is a value, and what it means depends on how the party waits. A party that
blocks tells the system how long, and the system cannot be told everything; a party that can be
cancelled keeps the time itself. A limit that is not above zero is over before anything is looked
at. -/

namespace Errand.Host

/-- How long a party waits: for ever, not at all, for a time, or not even that. -/
inductive Limit where
  | never
  | atOnce
  | after (time : Nat)
  | refused (f : Fault)

namespace Limit

/-- The number of seconds that a value is, if it is a number. -/
def seconds (v : Value) : Except Fault (Option Float) :=
  match v with
  | .float x => .ok (some x)
  | .bool b => .ok (some (if b then 1.0 else 0.0))
  | .int n => match doubleOfInt? n with
    | some x => .ok (some x)
    | none => .error .intTooLarge
  | _ => .ok none

/-- The most milliseconds that a blocking wait can be told. -/
def waitLimit : Float := 2147483647.0

/-- The most milliseconds that a time can have. -/
def timeLimit : Float := 9223372036854.0

/-- What a value means to a blocking wait. -/
def ofBlocking (v : Value) : Limit :=
  match v, seconds v with
  | .null, _ => .never
  | _, .error f => .refused f
  | v, .ok none => .refused (.badOperands "+" "float" v.kindName)
  | _, .ok (some x) =>
    let milliseconds := (x * 1000.0).ceil
    if x.isNaN then .refused .notNumberTimeout
    else if x ≤ 0.0 then .atOnce
    else if x.isInf then .refused .infiniteTimeout
    else if timeLimit < milliseconds then .refused .timestampTooLarge
    else if waitLimit < milliseconds then .refused .timeoutTooLarge
    else .after (nanoseconds x)

/-- Whether a limit of a wait that can be cancelled is over before the wait begins: it is not above
zero. A value that cannot be compared is no limit. -/
def isSpent (v : Value) : Except Fault Bool :=
  match v, seconds v with
  | .null, _ => .ok false
  | .int n, .error f => if n ≤ 0 then .ok true else .error f
  | _, .error f => .error f
  | v, .ok none => .error (.badComparison "<=" v.kindName "int")
  | _, .ok (some x) => .ok (x ≤ 0.0)

/-- What a value means to a wait that can be cancelled. -/
def ofCooperative (v : Value) : Limit :=
  match isSpent v, seconds v with
  | .error f, _ => .refused f
  | .ok true, _ => .atOnce
  | .ok false, .ok (some x) =>
    if x.isNaN then .atOnce else if x.isInf then .never else .after (nanoseconds x)
  | .ok false, _ => .never

/-- The time after which a wait is over in any case. -/
def time? : Limit → Option Nat
  | after t => some t
  | atOnce => some 0
  | never | refused _ => none

end Limit

end Errand.Host
