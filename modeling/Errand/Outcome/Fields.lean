import Errand.Outcome

/-! # Outcomes given field by field

A caller may put an outcome together from values of any kind, by the names of its fields. The
command, the exit value and the status are required. -/

namespace Errand

/-- An outcome whose fields are values of any kind. -/
structure OutcomeFields where
  command : Value
  exitValue : Value
  status : Value
  stdout : Value
  stderr : Value
  durationSeconds : Value
  timedOut : Value
  errorMessage : Value
  cause : Value := .null

namespace OutcomeFields

/-- The names of the fields, and the values of those that need not be given. -/
def names : List (String × Option Value) :=
  [("command", none), ("exit_value", none), ("status", none), ("stdout", some (.text "")),
    ("stderr", some (.text "")), ("duration_seconds", some (.float 0.0)),
    ("timed_out", some (.bool false)), ("error_message", some .null), ("cause", some .null)]

/-- What an outcome is called where its fields are wrong. -/
def owner : String := "ExecutionResult"

/-- The value of a field. -/
def fieldOf (given : List (String × Value)) (name : String) : Value :=
  (given.lookup name).getD (((names.lookup name).join).getD .null)

/-- The outcome with these fields. An unknown name is refused before a missing one. -/
def ofEntries (given : List (String × Value)) : Except Fault OutcomeFields :=
  match given.find? fun e => !(names.any (·.1 == e.1)) with
  | some e => .error (.unknownField owner e.1)
  | none =>
    let missing := names.filter fun n => n.2.isNone && (given.lookup n.1).isNone
    if missing.isEmpty then
      let get := fieldOf given
      .ok ⟨get "command", get "exit_value", get "status", get "stdout", get "stderr",
        get "duration_seconds", get "timed_out", get "error_message", get "cause"⟩
    else .error (.missingFields owner (missing.map (·.1)))

/-- The fields that are shown, as values by name; the cause is not. -/
def entries (o : OutcomeFields) : List (String × Value) :=
  [("command", o.command), ("exit_value", o.exitValue), ("status", o.status),
    ("stdout", o.stdout), ("stderr", o.stderr), ("duration_seconds", o.durationSeconds),
    ("timed_out", o.timedOut), ("error_message", o.errorMessage)]

/-- Whether the status is that of a success. -/
def success (o : OutcomeFields) : Bool := o.status.same (.status .succeeded)

/-- Whether the exit value stands for none. -/
def invalid (o : OutcomeFields) : Bool := o.exitValue.same (.int invalidExitValue)

/-- Whether two outcomes are equal field by field, the cause among them. -/
def same (o p : OutcomeFields) : Bool :=
  ((o.entries.zip p.entries).all fun (x, y) => x.2.same y.2) && o.cause.same p.cause

/-- The failure that an outcome is; a message that counts as false is no message. The cause is the
fault behind the outcome if there is one; a value is none. -/
def toFailure (o : OutcomeFields) (cause : Option Fault) : Except Fault Failure :=
  match cause, o.cause with
  | none, .null | some _, _ => .ok {
      message := if o.errorMessage.truthy then o.errorMessage else .text exitMessage
      exitValue := o.exitValue
      cause := cause }
  | none, _ => .error .badCause

end OutcomeFields

namespace Outcome

/-- The fields of an outcome. -/
def fields (o : Outcome) : OutcomeFields where
  command := .list (o.command.map .text)
  exitValue := .int o.exitValue
  status := .status o.status
  stdout := .text o.stdout
  stderr := .text o.stderr
  durationSeconds := .float o.durationSeconds
  timedOut := .bool o.timedOut
  errorMessage := (o.errorMessage.map Value.text).getD .null

/-- An outcome succeeds when its fields do. -/
theorem success_fields (o : Outcome) : o.fields.success = o.success := by
  simp only [OutcomeFields.success, fields, success, Value.same]

end Outcome

end Errand
