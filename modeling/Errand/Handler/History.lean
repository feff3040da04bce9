import Errand.Handler.Publication
import Errand.Handler.Waiting

/-! # The history of a handler

What happens to a handler over time: it is told things, at once or when their time comes, the clock
goes on, and parties look at it and wait for a result. -/

namespace Errand.Waiting

/-- Something that happens around a handler. -/
inductive Event where
  | told (c : Callback)
  | scheduled (d : Delivery Moment)
  | advanced (time : Value)
  | awaited (k : Kind) (timeout : Value)
  | looked (l : Handler.Look)

/-- What an event leads to: how a wait ended if it was one, what a look showed if it was one, the
world afterwards, and the log lines. -/
structure Effect where
  verdict : Option Verdict := none
  sight : Option Handler.Sight := none
  world : World Float Moment
  lines : List Log.Line := []

/-- The effect of an event on a handler that is looked at every so many milliseconds. -/
def World.meet (sleepLimit : Nat) (milliseconds : Value) (w : World Float Moment) :
    Event → Effect
  | .told c => { world := w.tell c }
  | .scheduled d => { world := { w with due := w.due ++ [d] } }
  | .advanced t => match later w.clock t with
    | .ok clock => { world := { w with clock }.fire }
    | .error f => { verdict := some (.fault f), world := w }
  | .awaited k timeout =>
    let (verdict, w, lines) := await k sleepLimit milliseconds timeout w
    { verdict := some verdict, world := w, lines }
  | .looked l => { sight := some (w.handler.see l []), world := w }

/-- The world after a history. -/
def World.after (sleepLimit : Nat) (milliseconds : Value) (w : World Float Moment)
    (events : List Event) : World Float Moment :=
  events.foldl (fun w e => (w.meet sleepLimit milliseconds e).world) w

end Errand.Waiting
