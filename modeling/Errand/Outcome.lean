import Errand.Fault

/-! # Outcomes and failures

An `Outcome` is all that is known of an execution that has ended: what ran, how it ended and what it
wrote. A `Failure` is what is told of an execution that did not succeed: a message, an exit value
and the fault behind it. A process that never ended by itself has no exit value of its own;
`invalidExitValue` stands for it. -/

namespace Errand

/-- The exit value of a process that has none. -/
def invalidExitValue : Int := 3735928559

/-- What is told of an execution that did not succeed. -/
structure Failure where
  message : Value
  exitValue : Value
  cause : Option Fault := none

/-- The text of a failure. -/
def Failure.text (f : Failure) : String :=
  f.message.display ++ " (Exit value: " ++ f.exitValue.display ++ ")"

/-- The message of a failure that has none of its own. -/
def exitMessage : String := "Process exited with an error"

/-- What is known of an execution that has ended. -/
structure Outcome where
  command : List String
  exitValue : Int
  status : Status
  stdout : String := ""
  stderr : String := ""
  durationSeconds : Float := 0.0
  timedOut : Bool := false
  errorMessage : Option String := none
  cause : Option Fault := none

namespace Outcome

/-- Whether the execution succeeded. -/
def success (o : Outcome) : Bool := o.status == .succeeded

/-- The failure that an outcome is; an empty message is no message. -/
def toFailure (o : Outcome) : Failure where
  message := .text (match o.errorMessage with
    | some m => if m.isEmpty then exitMessage else m
    | none => exitMessage)
  exitValue := .int o.exitValue
  cause := o.cause

end Outcome

end Errand
