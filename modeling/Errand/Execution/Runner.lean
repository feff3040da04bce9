import Errand.Execution.Course
import Errand.Status.Walk
import Errand.Settings
import Errand.Path
import Errand.Words

/-! # Running commands

A `Runner` holds what the commands of a caller have in common: where they run, which exit values
are successes, how long they may take and what is added to their environment. It runs a command in
three ways, and each is a course of questions to the world:

* `Runner.run` launches the command and waits for its end;
* `Runner.runInBackground` does that on behalf of a caller who is told by a handler;
* `Runner.runCooperatively` waits in a way that can be cancelled, and kills the process then.

All three end in the same place: `exited`, `timedOut` and `notStarted` are the three outcomes of an
execution, and each of them records one end of it in the metrics. A command is refused before
anything else happens. -/

namespace Errand

/-- What the commands of a caller have in common. -/
structure Runner where
  /-- The directory that commands run in, if it is not that of this program. -/
  directory : Option String := none
  /-- The exit values that are successes; with none of them every exit value is one. -/
  successExitValues : List Value
  /-- How many seconds a command may take; null is no limit. -/
  timeout : Value := .null
  /-- What is added to the environment of a command; null is nothing. -/
  extraEnvironment : Value := .null
  metricsEnabled : Bool := true
  /-- The environment of this program. -/
  surroundings : List (String × String) := []

namespace Runner

/-! ## Making a runner -/

/-- What a runner is called where its configuration is wrong. -/
def owner : String := "CommandExecutor"

/-- The names of a configuration. -/
def configNames : List String :=
  ["working_directory", "success_exit_values", "timeout_seconds", "env"]

/-- The directory of a configuration: a value that counts as false is none. -/
def directoryOf (v : Value) : Except Fault (Option String) :=
  if v.truthy then
    match v, v.text? with
    | _, some s => .ok (some (Path.normalize s))
    | .bytes _, _ => .error (.notTextPath v)
    | _, _ => .error (.notPath v)
  else .ok none

/-- The exit values of a configuration; null stands for those of the settings. -/
def exitValuesOf (settings : Settings) (v : Value) : Except Fault (List Value) :=
  match v with
  | .null => .ok (settings.successExitValues.map .int)
  | _ => match v.parts? with
    | some vs => .ok vs
    | none => .error (.notIterable v)

/-- The name of a configuration that is none, if there is one. -/
def unknownConfig? (config : List (String × Value)) : Option String :=
  (config.find? fun e => !configNames.contains e.1).map (·.1)

/-- The value of a name in a configuration. -/
def configValue (config : List (String × Value)) (name : String) : Value :=
  (config.lookup name).getD .null

/-- The runner of a configuration. A name that is none is refused before the settings are looked
at. -/
def configure (load : Except Fault Settings) (surroundings : List (String × String))
    (config : List (String × Value)) : Except Fault Runner := do
  if let some name := unknownConfig? config then throw (.unknownField owner name)
  let settings ← load
  let directory ← directoryOf (configValue config "working_directory")
  let exits ← exitValuesOf settings (configValue config "success_exit_values")
  let timeout := match configValue config "timeout_seconds" with
    | .null => (settings.defaultTimeoutSeconds.map Value.float).getD .null
    | v => v
  return {
    directory := directory
    successExitValues := exits
    timeout := timeout
    extraEnvironment := configValue config "env"
    metricsEnabled := settings.metricsEnabled
    surroundings := surroundings }

/-! ## Commands and environments -/

/-- Whether an exit value is a failure. -/
def isFailure (r : Runner) (exitValue : Value) : Bool :=
  !r.successExitValues.isEmpty && !exitValue.memberOf r.successExitValues

/-- If no exit values are successes, no exit is a failure; else each one is that equals none of
them. -/
theorem isFailure_iff (r : Runner) (exitValue : Value) :
    r.isFailure exitValue = true ↔
      r.successExitValues ≠ [] ∧ ∀ v ∈ r.successExitValues, exitValue.same v = false := by
  simp [isFailure, Value.memberOf]

/-- The words of a command: a text is split, any other value gives the texts of its parts. A
command without words is refused. -/
def words (command : Value) : Except Fault (List String) := do
  let ws ← match command.text? with
    | some s => Words.split s
    | none => match command.parts? with
      | some parts => .ok (parts.map Value.display)
      | none => .error (.notIterable command)
  if ws.isEmpty then throw .emptyCommand else pure ws

/-- A pair of a sequence that should hold named values; a name may be any value that can be looked
up. -/
def pairOf (place : Nat) (v : Value) : Except Fault (Value × Value) :=
  match v.parts? with
  | none => .error (.notPair place)
  | some [key, value] =>
    if key.hashable then .ok (key, value) else .error (.unhashable key)
  | some parts => .error (.badPair place parts.length)

/-- The named values that a value holds: those of an object, or pairs in a sequence. -/
def namedValues (v : Value) : Except Fault (List (Value × Value)) :=
  match v with
  | .dict es => .ok (es.map fun e => (.text e.1, e.2))
  | _ => match v.parts? with
    | none => .error (.notIterable v)
    | some parts => go 0 parts
where
  /-- The pairs from a place on. -/
  go (place : Nat) : List Value → Except Fault (List (Value × Value))
    | [] => .ok []
    | v :: vs => do return (← pairOf place v) :: (← go (place + 1) vs)

/-- Named values with one more; it replaces the value of an equal name. -/
def withValue (env : List (Value × Value)) (e : Value × Value) : List (Value × Value) :=
  if env.any fun x => x.1.same e.1 then
    env.map fun x => if x.1.same e.1 then (x.1, e.2) else x
  else env ++ [e]

/-- The whole environment of a command, if it differs from that of this program: what is added
replaces what is there. -/
def environment (r : Runner) : Except Fault (Option (List (Value × Value))) :=
  match r.extraEnvironment with
  | .null => .ok none
  | v => do
    let added ← namedValues v
    let base := r.surroundings.map fun e => (Value.text e.1, Value.text e.2)
    return some (added.foldl withValue base)

/-! ## The outcomes of an execution -/

/-- Records something in the metrics, if they are kept. -/
def record (r : Runner) (x : Metrics.Record) : Course Unit :=
  if r.metricsEnabled then Course.update x.updates else pure ()

/-- The first word of a command. -/
def program (args : List String) : String := args.headD ""

/-- The moves of an execution; every one of them is among those that a status allows. -/
def advance (current next : Status) : Course Status := do
  let _ ← Course.ofExcept (Status.move (.status current) (.status next))
  Course.move current next
  return next

/-- The process has ended by itself. -/
def exited (r : Runner) (args : List String) (status : Status) (started : Float)
    (exitValue : Int) (stdout stderr : String) : Course Outcome := do
  let duration := (← Course.clock) - started
  let text := "Process " ++ program args ++ " exited with " ++ toString exitValue
  let outcome : Outcome :=
    { command := args, exitValue, status, stdout, stderr, durationSeconds := duration }
  if r.isFailure (.int exitValue) then
    let status ← advance status .failed
    Course.log .warning text
    r.record (.failed Metrics.Reason.exitValue.label duration)
    return { outcome with status, errorMessage := some exitMessage }
  else
    let status ← advance status .succeeded
    Course.log .debug text
    r.record (.succeeded duration)
    return { outcome with status }

/-- The process took too long. -/
def timedOut (r : Runner) (args : List String) (status : Status) (started : Float)
    (stdout stderr : Capture) : Course Outcome := do
  let duration := (← Course.clock) - started
  let status ← advance status .failed
  let text := "timed out after " ++ r.timeout.display ++ " seconds"
  Course.log .warning ("Process " ++ program args ++ " " ++ text)
  r.record (.failed Metrics.Reason.timeout.label duration)
  return {
    command := args
    exitValue := invalidExitValue
    status := status
    stdout := stdout.toText
    stderr := stderr.toText
    durationSeconds := duration
    timedOut := true
    errorMessage := some ("Process " ++ text) }

/-- The process could not be started. -/
def notStarted (r : Runner) (args : List String) (status : Status) (started : Float)
    (fault : Fault) : Course Outcome := do
  let duration := (← Course.clock) - started
  let status ← advance status .failed
  Course.log .error ("Could not start " ++ program args ++ ": " ++ fault.message)
  r.record (.failed Metrics.Reason.launchError.label duration)
  return {
    command := args
    exitValue := invalidExitValue
    status := status
    durationSeconds := duration
    errorMessage := some ("Execution failed: " ++ fault.message)
    cause := some fault }

/-- A fault of launching is an outcome; any other one breaks the execution off. -/
def faulted (r : Runner) (args : List String) (status : Status) (started : Float)
    (fault : Fault) : Course Outcome :=
  if fault.isLaunchFault then r.notStarted args status started fault else .broken fault

/-! ## Three ways to run a command -/

/-- What is launched for the words of a command. -/
def request (r : Runner) (args : List String) (environment : Option (List (Value × Value))) :
    Request :=
  ⟨args, r.directory, environment⟩

/-- The beginning of every execution: it runs from here on, and its start is recorded. -/
def enter (r : Runner) (heading : String) (args : List String) : Course (Float × Status) := do
  let started ← Course.clock
  Course.log .info (heading ++ Words.join args)
  let status ← advance .pending .running
  r.record .started
  return (started, status)

/-- Launches the words of a command and waits for the end. -/
def runWords (r : Runner) (args : List String) : Course Outcome := do
  let (started, status) ← r.enter "Executing: " args
  match r.environment with
  | .error f => r.faulted args status started f
  | .ok env =>
    match ← Course.run (r.request args env) r.timeout with
    | .exited code out err => r.exited args status started code out.toText err.toText
    | .timedOut out err => r.timedOut args status started out err
    | .raised f => r.faulted args status started f

/-- Refuses a command, or goes on with its words. -/
def withWords {α : Type} (command : Value) (next : List String → Course α) : Course α := do
  next (← Course.ofExcept (words command))

/-- Runs a command and waits for its end. -/
def run (r : Runner) (command : Value) : Course Outcome :=
  withWords command r.runWords

/-- How a blocking call ends: with the exit value of a success, or with a failure. -/
def blockingResult (o : Outcome) : Except Failure Int :=
  if o.success then .ok o.exitValue else .error o.toFailure

/-- Runs a command and comes to its exit value, or to the failure. -/
def execute (r : Runner) (command : Value) : Course (Except Failure Int) := do
  return blockingResult (← r.run command)

/-- Tells a handler of an outcome: first the output, then the result. -/
def notify (o : Outcome) : Course Unit := do
  Course.call (.output o.stdout o.stderr)
  Course.call (match blockingResult o with
    | .ok v => .complete (.int v)
    | .error f => .failed f)

/-- The failure that stands for a fault which broke an execution off. -/
def brokenFailure (f : Fault) : Failure :=
  ⟨.text "Execution failed", .int invalidExitValue, some f⟩

/-- Runs words on behalf of a caller who is told by a handler. They are a command of their own. -/
def runAndNotify (r : Runner) (args : List String) : Course Unit := do
  match ← (r.run (.list (args.map .text))).attempt with
  | .ok o => notify o
  | .error f =>
    if f.isInterruption then .broken f
    else
      Course.query (.log ⟨.error, "Error executing " ++ program args ++ ": " ++ f.message,
        .executor, true⟩)
      Course.call (.failed (brokenFailure f))

/-- The name of the party that runs words in the background. -/
def threadName (args : List String) : String :=
  "procexec-" ++ Path.base (program args)

/-- Runs a command in the background: the caller is refused or gets the name of the party that
runs it, and that party goes the second course. -/
def runInBackground (r : Runner) (command : Value) : Except Fault (String × Course Unit) := do
  let args ← words command
  return (threadName args, r.runAndNotify args)

/-- Kills the process and waits for its end; a fault of killing and a cancellation while waiting
break off. -/
def killAndReap {α : Type} (next : Course α) : Course α := do
  match ← Course.kill with
  | .error f => .broken f
  | .ok () =>
    match ← Course.reap with
    | .exited => next
    | .cancelled => .broken .cancelled

/-- The cancellation of the waiting party is recorded and goes on. -/
def passOn (r : Runner) (args : List String) (started : Float) (pid : Nat) : Course Outcome := do
  Course.log .warning
    ("Process " ++ program args ++ " cancelled, killed pid " ++ toString pid)
  if r.metricsEnabled then
    let duration := (← Course.clock) - started
    r.record (.failed Metrics.Reason.cancelled.label duration)
  .broken .cancelled

/-- Waits for a process that was started, and reads its outputs, which have to be there. If the
waiting party is cancelled, a process that still runs is killed first. -/
def supervise (r : Runner) (args : List String) (status : Status) (started : Float) (pid : Nat) :
    Course Outcome := do
  match ← Course.output r.timeout with
  | .exited code (some out) (some err) =>
    r.exited args status started code (Text.Utf8.decodeLossy out) (Text.Utf8.decodeLossy err)
  | .exited _ _ _ => .broken .notCaptured
  | .timedOut => killAndReap (r.timedOut args status started .nothing .nothing)
  | .cancelled none => killAndReap (r.passOn args started pid)
  | .cancelled (some _) => r.passOn args started pid
  | .raised f => .broken f

/-- Launches the words of a command and waits in a way that can be cancelled. -/
def runWordsCooperatively (r : Runner) (args : List String) : Course Outcome := do
  let (started, status) ← r.enter "Executing (async): " args
  match r.environment with
  | .error f => r.faulted args status started f
  | .ok env =>
    match ← Course.start (r.request args env) with
    | .error f => r.faulted args status started f
    | .ok pid => r.supervise args status started pid

/-- Runs a command in a way that can be cancelled; a handler is told, if there is one. -/
def runCooperatively (r : Runner) (command : Value) (handled : Bool) : Course Outcome :=
  withWords command fun args => do
    let o ← r.runWordsCooperatively args
    if handled then notify o
    return o

end Runner

end Errand
