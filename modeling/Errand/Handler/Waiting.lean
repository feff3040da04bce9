import Errand.Handler
import Errand.Log
import Errand.Metrics
import Errand.Settings

/-! # Waiting for a result

A party that waits for a result looks for it again and again, and sleeps for the same interval
between two looks. While it sleeps the clock goes on, and the callbacks fire whose time has come.
Two kinds of waiting differ in when they give up: a blocking one goes on *while the clock is before
the deadline*, a cooperative one gives up *when the deadline is not after the clock*. On a clock
whose times are ordered these are the same; a deadline that is no number tells them apart.

The clock may have times of any type with an addition and an order: doubles when a program waits,
exact numbers when one reasons about it. Callbacks may be scheduled for times of another type, if
it is known which of them a clock has reached (`Schedule`). Looking again is bounded by the number
of sleeps that are left.

The clock can be moved by any interval. The clock of a system ends, at about nine thousand million
seconds, and does not let a party sleep past its end; here an interval of that length is slept like
any other. -/

namespace Errand.Waiting

/-- Times of type `δ` as a clock with times of type `τ` meets them: whether it has reached one, and
which of two does not come after the other. -/
class Schedule (δ τ : Type) where
  reached : δ → τ → Bool
  notAfter : δ → δ → Bool

/-- The times of an ordered clock itself. -/
instance {τ : Type} [LE τ] [DecidableLE τ] : Schedule τ τ where
  reached time clock := time ≤ clock
  notAfter a b := a ≤ b

/-- A callback and the time at which it fires. -/
structure Delivery (δ : Type) where
  time : δ
  call : Callback

/-- The clock, the handler that is waited for, the callbacks to come in the order in which they
were scheduled, those that it was told in order, and the number of sleeps so far. -/
structure World (τ : Type) (δ : Type := τ) where
  clock : τ
  handler : Handler := {}
  due : List (Delivery δ) := []
  told : List Callback := []
  sleeps : Nat := 0

/-- How a wait ends: with a result or without one, or not within the sleeps it had. -/
inductive Verdict where
  | result
  | noResult
  | outOfSleeps
  | fault (f : Fault)

variable {τ δ : Type} [Add τ] [LE τ] [DecidableLE τ] [LT τ] [DecidableLT τ] [Schedule δ τ]

/-- Tells the handler. -/
def World.tell (w : World τ δ) (c : Callback) : World τ δ :=
  { w with handler := w.handler.tell c, told := w.told ++ [c] }

/-- Whether the time of a callback has come. -/
def World.reached (w : World τ δ) (d : Delivery δ) : Bool := Schedule.reached d.time w.clock

/-- Fires the callbacks whose time has come, by time and then in the order of scheduling. -/
def World.fire (w : World τ δ) : World τ δ :=
  let ready := (w.due.filter w.reached).mergeSort fun a b => Schedule.notAfter τ a.time b.time
  ready.foldl (fun w d => w.tell d.call) { w with due := w.due.filter fun d => !w.reached d }

/-- Lets time pass. -/
def World.advance (w : World τ δ) (t : τ) : World τ δ :=
  { w with clock := w.clock + t }.fire

/-- Sleeps once; only a positive sleep lets time pass. -/
def World.sleep (zero interval : τ) (w : World τ δ) : World τ δ :=
  let w := { w with sleeps := w.sleeps + 1 }
  if zero < interval then w.advance interval else w

/-- The two kinds of waiting. -/
inductive Kind where
  | blocking
  | cooperative
  deriving DecidableEq, Repr

/-- Whether a wait gives up at this time. -/
def Kind.expired (k : Kind) (deadline : Option τ) (clock : τ) : Bool :=
  match deadline with
  | none => false
  | some d => match k with
    | .blocking => ¬ clock < d
    | .cooperative => d ≤ clock

/-- A wait is over when there is a result or when it gives up. -/
def Kind.over (k : Kind) (deadline : Option τ) (w : World τ δ) : Bool :=
  w.handler.hasResult || k.expired deadline w.clock

/-- Waits, with so many sleeps left. A blocking sleep of a negative length is refused. -/
def poll (k : Kind) (zero interval : τ) (deadline : Option τ) :
    Nat → World τ δ → Verdict × World τ δ
  | fuel, w =>
    if k.over deadline w then (if w.handler.hasResult then .result else .noResult, w)
    else if k = .blocking ∧ interval < zero then (.fault .negativeSleep, w)
    else match fuel with
      | 0 => (.outOfSleeps, w)
      | fuel + 1 => poll k zero interval deadline fuel (w.sleep zero interval)

/-- Waits from now on, at most so long. -/
def wait (k : Kind) (zero interval : τ) (timeout : Option τ) (sleeps : Nat) (w : World τ δ) :
    Verdict × World τ δ :=
  poll k zero interval (timeout.map (w.clock + ·)) sleeps w

/-! ## Waiting on a clock of doubles -/

/-- A time for which a callback is scheduled: a whole number of any size, or a double. -/
inductive Moment where
  | whole (n : Int)
  | double (x : Float)
  deriving Repr

/-- Moments compare by their exact value, with each other as with the clock. -/
def Moment.notAfter : Moment → Moment → Bool
  | .whole m, .whole n => m ≤ n
  | .whole m, .double y =>
    match (Dyadic.ofDouble y).compareInt? m with
    | some o => o != .lt
    | none => false
  | .double x, .whole n =>
    match (Dyadic.ofDouble x).compareInt? n with
    | some o => o != .gt
    | none => false
  | .double x, .double y => x ≤ y

instance : Schedule Moment Float where
  reached m clock := m.notAfter (.double clock)
  notAfter := Moment.notAfter

/-- The milliseconds between two looks of a handler: those it was made with, or those of the
settings. -/
def milliseconds (settings : Except Fault Settings) : Value → Except Fault Value
  | .null => settings.map fun s => .int s.sleepTimeMs
  | v => .ok v

/-- The time between two looks, in seconds, from a number of milliseconds. -/
def interval (milliseconds : Value) : Except Fault Float :=
  match milliseconds with
  | .float x => .ok (x / 1000.0)
  | .bool b => .ok ((if b then 1.0 else 0.0) / 1000.0)
  | .int n => match doubleOfInt? n with
    | some x => .ok (x / 1000.0)
    | none => .error .intTooLarge
  | v => .error (.badOperands "/" v.kindName "float")

/-- The seconds that are added to a time of the clock; they may be no number. -/
def seconds (v : Value) : Except Fault Float :=
  match v with
  | .float x => .ok x
  | .bool b => .ok (if b then 1.0 else 0.0)
  | .int n => match doubleOfInt? n with
    | some x => .ok x
    | none => .error .intTooLarge
  | v => .error (.badOperands "+" "float" v.kindName)

/-- The time of the clock after some seconds. -/
def later (clock : Float) (v : Value) : Except Fault Float := (seconds v).map (clock + ·)

/-- How long a wait may take; null is for ever. -/
def timeoutOf : Value → Except Fault (Option Float)
  | .null => .ok none
  | v => (seconds v).map some

/-- What a blocking wait logs when it gives up. -/
def giveUpLine (timeout : Value) : Log.Line where
  level := .debug
  text := "No result after waiting " ++ timeout.display ++ " seconds"
  origin := .handler

/-- Waits for a result, at most so long; null waits for ever. The interval is looked at first, then
the timeout, whether or not a result is there. -/
def await [Schedule δ Float] (k : Kind) (sleepLimit : Nat) (milliseconds timeout : Value)
    (w : World Float δ) : Verdict × World Float δ × List Log.Line :=
  match interval milliseconds with
  | .error f => (.fault f, w, [])
  | .ok i =>
    match timeoutOf timeout with
    | .error f => (.fault f, w, [])
    | .ok t =>
      let (verdict, w) := wait k 0.0 i t sleepLimit w
      match k, verdict, t with
      | .blocking, .noResult, some _ => (verdict, w, [giveUpLine timeout])
      | _, _, _ => (verdict, w, [])

/-- A wait without a limit for a result that is there ends at the first look. -/
theorem await_of_hasResult [Schedule δ Float] (k : Kind) (sleepLimit : Nat) {milliseconds : Value}
    {i : Float} (hi : interval milliseconds = .ok i) {w : World Float δ}
    (hw : w.handler.hasResult = true) :
    await k sleepLimit milliseconds .null w = (.result, w, []) := by
  unfold await wait poll
  simp [hi, timeoutOf, Kind.over, hw]

end Errand.Waiting
