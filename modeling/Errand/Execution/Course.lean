import Errand.Handler
import Errand.Log
import Errand.Metrics

/-! # The course of an execution

An execution is a tree of questions to the world around it: it writes a log line, changes a metric,
moves from one status to the next, reads the clock, launches a process, waits for it. Each question
has a type of answers, and the execution goes on with the answer it gets; in the end it comes to a
result or breaks off with a fault. Nothing in it decides how the world answers: a world may be a
script, a model of a host, or many executions that take turns.

* `Course` is the tree, a monad in its result;
* `Course.attempt` turns a break-off into a result, `Course.ofExcept` a fault into a break-off. -/

namespace Errand

/-- What is to be launched: the words of the command, the directory it runs in and its whole
environment, each if they differ from those of the launching program. The names and the values of
an environment should be texts, and may be anything. -/
structure Request where
  args : List String
  directory : Option String := none
  environment : Option (List (Value × Value)) := none

/-- Output of a process that may be missing, a text, or bytes not yet read as text. -/
inductive Capture where
  | nothing
  | text (s : String)
  | bytes (bs : Bytes)
  deriving DecidableEq, Repr

namespace Capture

/-- The bytes of output, if it was captured. -/
def bytes? : Capture → Option Bytes
  | nothing => none
  | text s => some (Text.Utf8.encode s)
  | bytes bs => some bs

/-- The bytes of output; there are none if it was not captured. -/
def toBytes (c : Capture) : Bytes := c.bytes?.getD []

/-- The output of a pipe: where there is none, it is empty. -/
def piped : Capture → Capture
  | nothing => .bytes []
  | c => c

/-- The text of captured output: bytes that are no text are replaced. -/
def toText : Capture → String
  | nothing => ""
  | text s => s
  | bytes bs => Text.Utf8.decodeLossy bs

end Capture

/-- How launching a process and waiting for its end goes, when it is one call. -/
inductive RunAnswer where
  | exited (exitValue : Int) (stdout stderr : Capture)
  | timedOut (stdout stderr : Capture)
  | raised (f : Fault)

/-- How waiting for the output and the end of a running process goes. Output that was not captured
is missing. -/
inductive OutputAnswer where
  | exited (exitValue : Int) (stdout stderr : Option Bytes)
  | timedOut
  /-- The waiting party was cancelled; the process may have ended by then. -/
  | cancelled (exitValue : Option Int)
  | raised (f : Fault)

/-- How waiting for the end of a killed process goes. -/
inductive ReapAnswer where
  | exited
  | cancelled
  deriving DecidableEq, Repr

/-- What an execution asks of the world. -/
inductive Query where
  | log (line : Log.Line)
  | update (u : Metrics.Update)
  /-- Go from one status to the next. -/
  | move (current next : Status)
  | clock
  /-- Launch a process and wait for its end, at most so long. -/
  | run (r : Request) (timeout : Value)
  /-- Launch a process; the answer is its number, or the fault if it could not be. -/
  | start (r : Request)
  /-- Wait for the output and the end of the process, at most so long. -/
  | output (timeout : Value)
  /-- Kill the process; the answer is the fault if that failed. -/
  | kill
  /-- Wait for the end of the killed process. -/
  | reap
  /-- Tell the handler. -/
  | call (c : Callback)
  /-- Ask for what the handler holds. -/
  | handler
  /-- Write to the output and to the error output. -/
  | write (stdout stderr : String)

/-- The answers to a question. -/
def Query.Answer : Query → Type
  | log _ => Unit
  | update _ => Unit
  | move _ _ => Unit
  | clock => Float
  | run _ _ => RunAnswer
  | start _ => Except Fault Nat
  | output _ => OutputAnswer
  | kill => Except Fault Unit
  | reap => ReapAnswer
  | call _ => Unit
  | handler => Handler
  | write _ _ => Unit

/-- The course of an execution with results of a type. -/
inductive Course (α : Type) where
  | done (a : α)
  | broken (f : Fault)
  | ask (q : Query) (next : q.Answer → Course α)

namespace Course

variable {α β : Type}

/-- Goes on after the result. -/
def bind (c : Course α) (k : α → Course β) : Course β :=
  match c with
  | done a => k a
  | broken f => broken f
  | ask q next => ask q fun answer => (next answer).bind k

instance : Monad Course where
  pure := done
  bind := bind

/-- A break-off becomes a result. -/
def attempt : Course α → Course (Except Fault α)
  | done a => done (.ok a)
  | broken f => done (.error f)
  | ask q next => ask q fun answer => (next answer).attempt

/-- A result, or a break-off with a fault. -/
def ofExcept : Except Fault α → Course α
  | .ok a => done a
  | .error f => broken f

/-- Asks one question. -/
def query (q : Query) : Course q.Answer := ask q done

/-- Writes a log line. -/
def log (level : Log.Level) (text : String) : Course Unit :=
  query (.log ⟨level, text, .executor, false⟩)

/-- Changes metrics, one after the other. -/
def update : List Metrics.Update → Course Unit
  | [] => done ()
  | u :: us => ask (.update u) fun _ => update us

/-- Goes from one status to the next. -/
def move (current next : Status) : Course Unit := query (.move current next)

/-- Reads the clock. -/
def clock : Course Float := query .clock

/-- Launches a process and waits for its end, at most so long. -/
def run (r : Request) (timeout : Value) : Course RunAnswer := query (.run r timeout)

/-- Launches a process. -/
def start (r : Request) : Course (Except Fault Nat) := query (.start r)

/-- Waits for the output and the end of the process, at most so long. -/
def output (timeout : Value) : Course OutputAnswer := query (.output timeout)

/-- Kills the process. -/
def kill : Course (Except Fault Unit) := query .kill

/-- Waits for the end of the killed process. -/
def reap : Course ReapAnswer := query .reap

/-- Tells the handler. -/
def call (c : Callback) : Course Unit := query (.call c)

/-- What the handler holds. -/
def handler : Course Handler := query .handler

/-- Writes to the output and to the error output. -/
def write (stdout stderr : String) : Course Unit := query (.write stdout stderr)

@[simp] theorem bind_eq (c : Course α) (k : α → Course β) : c >>= k = c.bind k := rfl

@[simp] theorem pure_eq (a : α) : (pure a : Course α) = done a := rfl

@[simp] theorem bind_done (a : α) (k : α → Course β) : (done a).bind k = k a := rfl

@[simp] theorem bind_broken (f : Fault) (k : α → Course β) : (broken f).bind k = broken f := rfl

@[simp] theorem bind_ask (q : Query) (next : q.Answer → Course α) (k : α → Course β) :
    (ask q next).bind k = ask q fun answer => (next answer).bind k := rfl

/-- Going on twice is going on with both. -/
theorem bind_assoc {γ : Type} (c : Course α) (k : α → Course β) (l : β → Course γ) :
    (c.bind k).bind l = c.bind fun a => (k a).bind l := by
  induction c with
  | done a => rfl
  | broken f => rfl
  | ask q next ih => simp [ih]

end Course

end Errand
