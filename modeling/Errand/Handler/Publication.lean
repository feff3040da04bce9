import Errand.Handler

/-! # Looking at a handler while it is told

The party that tells a handler writes its fields one after the other, and another party may look at
it between any two writes. An `Act` is one write, one look or one wait; a list of acts is a way in
which the two parties take turns, and it is one of `Publishes` when its writes are the first ones of
a report, in order. A look at the exit value or at the failure takes two steps, the mark first and
the field after it, and there may be writes between the two. A wait looks at the mark again and
again, and there may be writes in each of its pauses. -/

namespace Errand.Handler

/-- What a party may look at. -/
inductive Look where
  | mark
  | exitValue
  | failure
  | stdout
  | stderr
  deriving DecidableEq, Repr

/-- What a look shows, or a wait when it is over. -/
inductive Sight where
  | mark (hasResult : Bool)
  | exitValue (v : Except Fault Value)
  | failure (f : Except Fault (Option Failure))
  | stdout (s : String)
  | stderr (s : String)
  | waited (hasResult : Bool)

/-- One write, one look with the writes that come between its two steps, or one wait with the
writes in each of its pauses. -/
inductive Act where
  | write (w : Write)
  | look (l : Look) (meanwhile : List Write)
  | wait (pauses : List (List Write))

/-- The writes of an act. -/
def Act.writes : Act → List Write
  | write w => [w]
  | look _ ws => ws
  | wait pauses => pauses.flatten

/-- The handler after an act. -/
def act (h : Handler) (a : Act) : Handler := a.writes.foldl Handler.write h

/-- What a look shows: the mark as it is at first, the field as it is in the end. -/
def see (h : Handler) (l : Look) (meanwhile : List Write) : Sight :=
  let later := meanwhile.foldl Handler.write h
  match l with
  | .mark => .mark h.hasResult
  | .exitValue => .exitValue (if h.hasResult then .ok later.storedExitValue else .error .noResult)
  | .failure => .failure (if h.hasResult then .ok later.storedFailure else .error .noResult)
  | .stdout => .stdout later.stdout
  | .stderr => .stderr later.stderr

/-- What an act shows; a wait answers with the mark as it was at its last look. -/
def sight? (h : Handler) : Act → Option Sight
  | .write _ => none
  | .look l ws => some (h.see l ws)
  | .wait pauses => some (.waited (h.act (.wait pauses)).hasResult)

/-- What a list of acts shows, in order. -/
def sights (h : Handler) : List Act → List Sight
  | [] => []
  | a :: rest => (h.sight? a).toList ++ (h.act a).sights rest

/-- The writes of a report: the output, then the result. -/
def report (stdout stderr : String) (result : Callback) : List Write :=
  writes true (.output stdout stderr) ++ writes true result

/-- The writes of the acts are the first ones of the report, in order. -/
def Publishes (stdout stderr : String) (result : Callback) (acts : List Act) : Prop :=
  acts.flatMap Act.writes <+: report stdout stderr result

/-- Without writes between its steps a look shows what the handler holds. -/
theorem see_nil (h : Handler) (l : Look) :
    h.see l [] = match l with
      | .mark => .mark h.hasResult
      | .exitValue => .exitValue h.exitValue
      | .failure => .failure h.failure
      | .stdout => .stdout h.stdout
      | .stderr => .stderr h.stderr := by
  cases l <;> rfl

end Errand.Handler
