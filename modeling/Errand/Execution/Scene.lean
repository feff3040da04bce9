import Errand.Execution.Course

/-! # Performing an execution

A `Scene` holds what executions leave behind: a clock, metrics, the moves from status to status, log
lines, launches and what a handler was told. A `World` answers what only the outside can answer: how
a launched process fares. `Course.perform` lets an execution take its course in a scene, and
`Script` is the world in which the fate of the one process is known beforehand. -/

namespace Errand

/-- What is done to a launched process. -/
inductive ChildEvent where
  | kill
  | wait
  deriving DecidableEq, Repr

/-- A launch: what was launched, how long it might take if launching waits for the end, and what
was done to the process. -/
structure Launch where
  request : Request
  timeout : Option Value := none
  events : List ChildEvent := []

/-- A call of the handler, and whether it had a result afterwards. -/
structure HandlerCall where
  call : Callback
  hasResult : Bool

/-- What is shown to whoever watches: a log line, or what is written to the two outputs. -/
inductive Shown where
  | line (l : Log.Line)
  | written (stdout stderr : String)

/-- What executions leave behind, with the state of the world. Lists have the last member first. -/
structure Scene (σ : Type) where
  world : σ
  clock : Float := 0.0
  metrics : Metrics := {}
  /-- Each move as the status moved from and the status moved to. -/
  moves : List (Status × Status) := []
  shown : List Shown := []
  launches : List Launch := []
  handler : Handler := {}
  calls : List HandlerCall := []

/-- An answer of the world, how long it took if it took any time, and the world afterwards. -/
structure Reply (α σ : Type) where
  answer : α
  elapsed : Option Float := none
  world : σ

/-- How processes fare. -/
structure World (σ : Type) where
  run : Request → Value → σ → Reply RunAnswer σ
  start : Request → σ → Reply (Except Fault Nat) σ
  output : Value → σ → Reply OutputAnswer σ
  kill : σ → Reply (Except Fault Unit) σ
  reap : σ → Reply ReapAnswer σ

namespace Scene

variable {σ : Type}

/-- Something is done to the process that was launched last. -/
def mark (s : Scene σ) (e : ChildEvent) : Scene σ :=
  match s.launches with
  | [] => s
  | l :: rest => { s with launches := { l with events := l.events ++ [e] } :: rest }

/-- An answer of the world, after the time it took. -/
def take {α : Type} (s : Scene σ) (r : Reply α σ) : α × Scene σ :=
  (r.answer, { s with clock := (r.elapsed.map (s.clock + ·)).getD s.clock, world := r.world })

/-- The answer to a question, and the scene after it. -/
def answer (w : World σ) (s : Scene σ) : (q : Query) → q.Answer × Scene σ
  | .log line => ((), { s with shown := .line line :: s.shown })
  | .update u => ((), { s with metrics := s.metrics.apply u })
  | .move current next => ((), { s with moves := (current, next) :: s.moves })
  | .clock => (s.clock, s)
  | .run r timeout =>
    { s with launches := ⟨r, some timeout, []⟩ :: s.launches }.take (w.run r timeout s.world)
  | .start r => { s with launches := ⟨r, none, []⟩ :: s.launches }.take (w.start r s.world)
  | .output timeout => s.take (w.output timeout s.world)
  | .kill => (s.mark .kill).take (w.kill s.world)
  | .reap => (s.mark .wait).take (w.reap s.world)
  | .call c =>
    let handler := s.handler.tell c
    ((), { s with handler := handler, calls := ⟨c, handler.hasResult⟩ :: s.calls })
  | .handler => (s.handler, s)
  | .write out err => ((), { s with shown := .written out err :: s.shown })

/-- The log lines, in order. -/
def logs (s : Scene σ) : List Log.Line :=
  s.shown.reverse.filterMap fun
    | .line l => some l
    | .written _ _ => none

/-- What was written to the output, in order. -/
def stdout (s : Scene σ) : String :=
  String.join (s.shown.reverse.filterMap fun
    | .line _ => none
    | .written out _ => some out)

end Scene

/-- Lets an execution take its course. -/
def Course.perform {α σ : Type} (w : World σ) : Course α → Scene σ → Except Fault α × Scene σ
  | .done a, s => (.ok a, s)
  | .broken f, s => (.error f, s)
  | .ask q next, s =>
    let (a, s) := s.answer w q
    (next a).perform w s

/-- How the one process of a script ends. -/
inductive Ending where
  | exits (exitValue : Int) (stdout stderr : Capture)
  | timesOut (stdout stderr : Capture)
  /-- It cannot be launched. -/
  | raises (f : Fault)
  /-- The waiting party is cancelled; the process may have ended by then. -/
  | cancelled (exitValue : Option Int)

/-- The ending of a process whose outputs are captured. -/
def Ending.piped : Ending → Ending
  | exits n out err => .exits n out.piped err.piped
  | e => e

/-- The fate of one process: how it ends, and after what time. -/
structure Script where
  after : Float := 0.0
  ending : Ending

namespace Script

/-- The number of every process in a script. -/
def pid : Nat := 4242

/-- How launching and waiting goes. -/
def runAnswer : Ending → RunAnswer
  | .exits n out err => .exited n out err
  | .timesOut out err => .timedOut out err
  | .raises f => .raised f
  | .cancelled _ => .raised .cancelled

/-- How waiting for the output goes. -/
def outputAnswer : Ending → OutputAnswer
  | .exits n out err => .exited n out.bytes? err.bytes?
  | .timesOut _ _ => .timedOut
  | .raises f => .raised f
  | .cancelled n => .cancelled n

/-- The world of a script. -/
def world (s : Script) : World Unit where
  run _ _ _ := ⟨runAnswer s.ending, some s.after, ()⟩
  start _ _ := match s.ending with
    | .raises f => ⟨.error f, some s.after, ()⟩
    | _ => ⟨.ok pid, none, ()⟩
  output _ _ := ⟨outputAnswer s.ending, some s.after, ()⟩
  kill _ := ⟨.ok (), none, ()⟩
  reap _ := ⟨.exited, none, ()⟩

/-- The script of a process whose outputs are captured: where there is none, it is empty. -/
def piped (s : Script) : Script := { s with ending := s.ending.piped }

end Script

end Errand
