import Errand.Fault
import Errand.Metrics.Client
import Errand.Metrics.Labelled

/-! # Metrics of executions

How many executions were started, how many succeeded, how many failed and why, and how long they
took. Every change is one `Update` of one metric, which is a call of the client that keeps it
(`Update.call`): an execution that ends counts its end first and its duration after that.

`Metrics` is what is kept here of such calls. Durations are kept by outcome, as their sum and as the
number of them in each bucket; a duration belongs to the first bucket whose bound it does not
exceed. -/

namespace Errand

/-! ### The metrics that are declared -/

namespace Metrics

/-- The number of starts. -/
def startedCounter : Counter where
  name := "procexec_executions_started_total"
  help := "Total number of processes started"

/-- The number of successes. -/
def succeededCounter : Counter where
  name := "procexec_executions_succeeded_total"
  help := "Total number of processes that exited successfully"

/-- The numbers of failures by reason. -/
def failedCounter : Counter where
  name := "procexec_executions_failed_total"
  help := "Total number of failed process executions"
  labelNames := ["reason"]

/-- The durations by outcome. -/
def durationHistogram : Histogram where
  name := "procexec_execution_duration_seconds"
  help := "Process execution duration in seconds"
  labelNames := ["status"]
  bounds := [0.01, 0.05, 0.1, 0.5, 1.0, 2.5, 5.0, 10.0, 30.0, 60.0, 300.0]

/-- What program this is. -/
def systemInfo : Info where
  name := "procexec_system"
  help := "procexec library information"

/-- Every counter. -/
def counters : List Counter := [startedCounter, succeededCounter, failedCounter]

/-- Every histogram. -/
def histograms : List Histogram := [durationHistogram]

end Metrics

/-! ### What is kept -/

/-- Durations of one outcome. -/
structure Durations where
  sum : Float
  counts : List Nat

namespace Durations

/-- The bounds of the buckets. -/
def bounds : List Float := Metrics.durationHistogram.buckets

/-- No duration yet. -/
def empty : Durations := ⟨0.0, bounds.map fun _ => 0⟩

/-- One more in the first bucket whose bound is at least the duration, if there is one. -/
def countIn (x : Float) : List Float → List Nat → List Nat
  | b :: bs, n :: ns => if x ≤ b then (n + 1) :: ns else n :: countIn x bs ns
  | _, ns => ns

/-- One more duration. -/
def observe (d : Durations) (x : Float) : Durations :=
  ⟨d.sum + x, countIn x bounds d.counts⟩

/-- For each bucket the number of durations in it and in those before it. -/
def cumulative (d : Durations) : List Nat :=
  go 0 d.counts
where
  /-- The sums from the left, starting with a number. -/
  go (before : Nat) : List Nat → List Nat
    | [] => []
    | n :: ns => (before + n) :: go (before + n) ns

/-- The number of durations that are in a bucket. -/
def count (d : Durations) : Nat := d.counts.foldr (· + ·) 0

end Durations

/-- The metrics of a program. -/
structure Metrics where
  started : Nat := 0
  succeeded : Nat := 0
  /-- Failures by reason. -/
  failed : Labelled Nat := []
  /-- Durations by outcome. -/
  durations : Labelled Durations := []
  /-- The version and the name of the program, once they are known. -/
  program : Option (Value × Value) := none

namespace Metrics

/-- Why an execution failed. -/
inductive Reason where
  | exitValue
  | timeout
  | launchError
  | cancelled
  deriving DecidableEq, Repr

/-- The label of a reason. -/
def Reason.label : Reason → String
  | exitValue => "exit_value"
  | timeout => "timeout"
  | launchError => "launch_error"
  | cancelled => "cancelled"

/-- The label of the durations of successes. -/
def succeededLabel : String := "succeeded"

/-- The label of the durations of failures. -/
def failedLabel : String := "failed"

/-- A change of one metric. -/
inductive Update where
  | started
  | succeeded
  | failed (reason : String)
  | lasted (outcome : String) (duration : Float)
  /-- The version and the name of the program are told. -/
  | named (version name : String)
  deriving DecidableEq, Repr

/-- The labels that say what program this is. -/
def programLabels (version name : Value) : List (String × Value) :=
  [("name", name), ("version", version)]

/-- The call that makes a change. -/
def Update.call : Update → Call
  | started => .inc startedCounter []
  | succeeded => .inc succeededCounter []
  | failed reason => .inc failedCounter [reason]
  | lasted outcome x => .observe durationHistogram [outcome] x
  | named version name => .tell systemInfo (programLabels (.text version) (.text name))

/-- The metrics after a change. -/
def apply (m : Metrics) : Update → Metrics
  | .started => { m with started := m.started + 1 }
  | .succeeded => { m with succeeded := m.succeeded + 1 }
  | .failed reason => { m with failed := Labelled.adjust reason 0 (· + 1) m.failed }
  | .lasted outcome x =>
    { m with durations := Labelled.adjust outcome .empty (·.observe x) m.durations }
  | .named version name => { m with program := some (.text version, .text name) }

/-- The metrics after changes in order. -/
def applyAll (m : Metrics) (updates : List Update) : Metrics :=
  updates.foldl apply m

/-- What is recorded of an execution. -/
inductive Record where
  | started
  | succeeded (duration : Float)
  | failed (reason : String) (duration : Float)
  deriving DecidableEq, Repr

/-- The changes that record something. -/
def Record.updates : Record → List Update
  | started => [.started]
  | succeeded x => [.succeeded, .lasted succeededLabel x]
  | failed reason x => [.failed reason, .lasted failedLabel x]

/-- The metrics after something was recorded. -/
def record (m : Metrics) (r : Record) : Metrics := m.applyAll r.updates

/-- The calls that record something. -/
def Record.calls (r : Record) : List Call := r.updates.map Update.call

/-- The number of failures of a reason. -/
def failures (m : Metrics) (reason : String) : Nat :=
  (m.failed.lookup reason).getD 0

/-- The number of failures of all reasons. -/
def failureTotal (m : Metrics) : Nat :=
  (m.failed.map (·.2)).foldr (· + ·) 0

/-- The number that a value is when it is added to a sum of doubles. -/
def addend (v : Value) : Except Fault Float :=
  match v with
  | .float x => .ok x
  | .bool b => .ok (if b then 1.0 else 0.0)
  | .int n => match doubleOfInt? n with
    | some x => .ok x
    | none => .error .intTooLarge
  | _ => .error (.badOperands "+=" "float" v.kindName)

/-- Records a duration that may be no number: the entry of the outcome is there in any case. -/
def recordDuration (m : Metrics) (outcome : String) (duration : Value) : Metrics × Option Fault :=
  match addend duration with
  | .ok x => (m.apply (.lasted outcome x), none)
  | .error f => ({ m with durations := Labelled.touch outcome .empty m.durations }, some f)

/-- Records a success; the count grows before the duration is looked at. -/
def recordSuccess (m : Metrics) (duration : Value) : Metrics × Option Fault :=
  (m.apply .succeeded).recordDuration succeededLabel duration

/-- Records a failure; the count grows before the duration is looked at. -/
def recordFailure (m : Metrics) (reason duration : Value) : Metrics × Option Fault :=
  (m.apply (.failed reason.display)).recordDuration failedLabel duration

/-- Records what program this is; a null is no version and no name. -/
def recordProgram (m : Metrics) (version name : Value) : Metrics × Option Fault :=
  match version, name with
  | .null, _ | _, .null => (m, some .nullLabel)
  | _, _ => ({ m with program := some (version, name) }, none)

end Metrics

end Errand
