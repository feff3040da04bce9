import Errand.Outcome

/-! # Handlers of results

A handler is told what became of an execution: what it wrote, and then either the exit value or the
failure. It stores what it is told, one field at a time and the mark of a result last, so that
whoever sees the mark also sees the rest. Before the first result there is nothing to read. -/

namespace Errand

/-- What a handler is told. -/
inductive Callback where
  | output (stdout stderr : String)
  | complete (exitValue : Value)
  | failed (failure : Failure)

/-- Whether a handler is told a result. -/
def Callback.isResult : Callback → Bool
  | output _ _ => false
  | complete _ => true
  | failed _ => true

/-- One field of a handler and what is written to it. -/
inductive Write where
  | stdout (s : String)
  | stderr (s : String)
  | exitValue (v : Value)
  | failure (f : Option Failure)
  | result

/-- What a handler holds. A capturing one also keeps the output. -/
structure Handler where
  capturing : Bool := false
  stdout : String := ""
  stderr : String := ""
  storedExitValue : Value := .int invalidExitValue
  storedFailure : Option Failure := none
  hasResult : Bool := false

namespace Handler

/-- The writes of a callback, in order. -/
def writes (capturing : Bool) : Callback → List Write
  | .output out err => if capturing then [.stdout out, .stderr err] else []
  | .complete v => [.exitValue v, .failure none, .result]
  | .failed f => [.exitValue f.exitValue, .failure (some f), .result]

/-- The handler after one write. -/
def write (h : Handler) : Write → Handler
  | .stdout s => { h with stdout := s }
  | .stderr s => { h with stderr := s }
  | .exitValue v => { h with storedExitValue := v }
  | .failure f => { h with storedFailure := f }
  | .result => { h with hasResult := true }

/-- The handler after a callback. -/
def tell (h : Handler) (c : Callback) : Handler :=
  (writes h.capturing c).foldl write h

/-- The exit value of the result. -/
def exitValue (h : Handler) : Except Fault Value :=
  if h.hasResult then .ok h.storedExitValue else .error .noResult

/-- The failure of the result, if it is one. -/
def failure (h : Handler) : Except Fault (Option Failure) :=
  if h.hasResult then .ok h.storedFailure else .error .noResult

/-- The callbacks of a handler, and those that every handler must have. -/
def requiredCallbacks : List String := ["on_process_complete", "on_process_failed"]

/-- A handler of a caller's own with these callbacks can be made. -/
def checkCallbacks (owner : String) (defined : List String) : Except Fault Unit :=
  let missing := requiredCallbacks.filter fun c => !defined.contains c
  if missing.isEmpty then .ok () else .error (.missingCallbacks owner missing)

@[simp] theorem tell_complete (h : Handler) (v : Value) :
    h.tell (.complete v) =
      { h with storedExitValue := v, storedFailure := none, hasResult := true } := rfl

@[simp] theorem tell_failed (h : Handler) (f : Failure) :
    h.tell (.failed f) =
      { h with storedExitValue := f.exitValue, storedFailure := some f, hasResult := true } := rfl

/-- Output is no result. -/
theorem hasResult_tell_output (h : Handler) (out err : String) :
    (h.tell (.output out err)).hasResult = h.hasResult := by
  cases hc : h.capturing <;> simp [tell, writes, hc, write]

end Handler

end Errand
