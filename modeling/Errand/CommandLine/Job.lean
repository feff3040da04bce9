import Errand.CommandLine.Help
import Errand.Execution.Runner
import Errand.Execution.Scene
import Errand.Handler.Waiting

/-! # What the program does

The arguments of the program lead to a `Plan`: the help text, a complaint about the arguments, or a
`Job`, which is a command with the runner that runs it. A job is run in the foreground, or in the
background by a party that tells a handler; either way its output is written, a failure is logged,
and the program ends with the exit value of the command, or with 1 if the command has none. An
interruption ends a job as well, but not the courses of others. -/

namespace Errand.CommandLine

/-- A command and how it is run. -/
structure Job where
  command : List String
  runner : Runner
  background : Bool := false
  /-- The least weight of the log lines that are written. -/
  leastWeight : Nat
  version : String
  name : String
  /-- How many milliseconds there are between two looks for a result. -/
  sleepTimeMs : Int

/-- What the arguments lead to. -/
inductive Plan where
  | help
  | complaint (e : UsageError)
  | job (j : Job)

/-- How the program ends: after its work, or before it, each with a code. -/
inductive Exit where
  | returned (code : Value)
  | refused (code : Nat)

/-- The command of the options, without the mark that may stand before it. -/
def commandOf (o : Options) : List String :=
  match o.command with
  | "--" :: words => words
  | words => words

/-- The least weight of the log lines that are written. -/
def leastWeight (verbose : Bool) (settings : Settings) : Except Fault Nat :=
  if verbose || settings.debug then .ok Log.Level.debug.weight
  else match Log.threshold? settings.logLevel with
    | some n => .ok n
    | none => .error (.unknownLevel settings.logLevel)

/-- The configuration of the runner. -/
def configuration (o : Options) : List (String × Value) :=
  [("success_exit_values", (o.successExitValues.map Value.list).getD .null),
    ("timeout_seconds", o.timeout)]

/-- The job of a command. -/
def jobOf (settings : Settings) (surroundings : List (String × String)) (o : Options)
    (command : List String) : Except Fault Job := do
  let least ← leastWeight o.verbose settings
  let runner ← Runner.configure (.ok settings) surroundings (configuration o)
  return ⟨command, runner, o.background, least, settings.appVersion, settings.appName,
    settings.sleepTimeMs⟩

/-- What the arguments lead to. The settings are looked at only for a job. -/
def plan (settings : Except Fault Settings) (surroundings : List (String × String))
    (arguments : List String) : Except Fault Plan :=
  match Options.parse arguments with
  | .error e => .ok (.complaint e)
  | .ok .help => .ok .help
  | .ok (.options o) =>
    match commandOf o with
    | [] => .ok (.complaint .noCommand)
    | command => do return .job (← jobOf (← settings) surroundings o command)

/-- The exit value of the program; a process without one makes it 1. -/
def exitCode (exitValue : Value) : Value :=
  if exitValue.same (.int invalidExitValue) then .int 1 else exitValue

/-- Logs a failure. -/
def logFailure (f : Failure) : Course Unit :=
  Course.query (.log ⟨.error, f.text, .commandLine, false⟩)

namespace Job

/-- The command as a runner takes it. -/
def commandValue (j : Job) : Value := .list (j.command.map .text)

/-- Runs the command and waits for its end. -/
def runInForeground (j : Job) : Course Value := do
  let o ← j.runner.run j.commandValue
  Course.write o.stdout o.stderr
  if !o.success then
    logFailure {
      message := (o.errorMessage.map Value.text).getD .null
      exitValue := .int o.exitValue }
  return exitCode (.int o.exitValue)

/-- Waits for the result of a handler that nobody tells anything any more, as long as it takes. If
there is none, the wait has no end, and what comes after it is broken off. -/
def awaitResult (j : Job) (handler : Handler) : Course Unit :=
  let world : Waiting.World Float := { clock := 0.0, handler }
  match (Waiting.await .blocking 0 (.int j.sleepTimeMs) .null world).1 with
  | .result => .done ()
  | .fault f => .broken f
  | .noResult | .outOfSleeps => .broken .noResult

/-- Lets another party run the command, waits for it as long as it takes, and reads what the handler
was told. Nothing can be waited for with an interval that is no time. -/
def runInBackground (j : Job) : Course Value := do
  let (_, course) ← Course.ofExcept (j.runner.runInBackground j.commandValue)
  let _ ← course.attempt
  let handler ← Course.handler
  j.awaitResult handler
  let failure ← Course.ofExcept handler.failure
  Course.write handler.stdout handler.stderr
  if let some f := failure then logFailure f
  return exitCode (← Course.ofExcept handler.exitValue)

/-- Runs the command. -/
def run (j : Job) : Course Value :=
  if j.background then j.runInBackground else j.runInForeground

/-- The code of a program that was interrupted. -/
def interruptedCode : Value := .int 130

/-- The whole job: the program is named in the metrics, and an interruption ends the job. -/
def course (j : Job) : Course Exit := do
  Course.query (.update (.named j.version j.name))
  match ← j.run.attempt with
  | .ok code => return .returned code
  | .error f =>
    if f.kind = .interrupted then
      Course.query (.log ⟨.info, "Interrupted", .commandLine, false⟩)
      return .returned interruptedCode
    else .broken f

end Job

namespace Plan

/-- What is done about a plan, on a screen of so many columns. -/
def course (columns : Int) : Plan → Course Exit
  | help => do
    Course.write (Help.text columns) ""
    return .refused 0
  | complaint e => do
    Course.write "" (Help.complaint columns e)
    return .refused 2
  | job j => j.course

/-- The least weight of the log lines that are written. -/
def leastWeight : Plan → Nat
  | job j => j.leastWeight
  | _ => 0

end Plan

/-- The course of the program. -/
def program (settings : Except Fault Settings) (surroundings : List (String × String))
    (arguments : List String) : Course Exit := do
  (← Course.ofExcept (plan settings surroundings arguments)).course (Help.columns surroundings)

/-- What is written to the error output: the log lines that matter enough, each with its time, and
what was written there, in order. -/
def errorOutput {σ : Type} (least : Nat) (time trace : String) (s : Scene σ) : String :=
  String.join (s.shown.reverse.map fun
    | .line l => if l.passes least then l.render time trace else ""
    | .written _ err => err)

end Errand.CommandLine
