import Errand.Execution.Runner

/-! # Executions that take turns

Several executions share the metrics of a program. Each of them asks its questions in its own order;
which of them asks next is open, and so are the answers. A *party* is an execution on its way: what
it asked and was answered so far, and what it will ask. In a step one party asks one question. -/

namespace Errand

/-- The ways to run a command. -/
inductive Way where
  | run
  | execute
  | background
  | cooperative (handled : Bool)
  deriving DecidableEq, Repr

/-- A command, the runner that runs it and the way to run it. -/
structure Task where
  runner : Runner
  command : Value
  way : Way

/-- The course of a task, without its result. In the background it is that of the other party. -/
def Task.course (t : Task) : Course Unit :=
  match t.way with
  | .run => (t.runner.run t.command).bind fun _ => .done ()
  | .execute => (t.runner.execute t.command).bind fun _ => .done ()
  | .background => match t.runner.runInBackground t.command with
    | .ok (_, course) => course
    | .error f => .broken f
  | .cooperative handled => (t.runner.runCooperatively t.command handled).bind fun _ => .done ()

/-- A question and its answer. -/
abbrev Exchange := (q : Query) × q.Answer

/-- The change of the metrics that an exchange is, if it is one. -/
def Exchange.update? : Exchange → Option Metrics.Update
  | ⟨.update u, _⟩ => some u
  | _ => none

/-- An execution on its way. -/
structure Party where
  task : Task
  /-- What was asked and answered so far, in order. -/
  transcript : List Exchange := []
  rest : Course Unit

namespace Party

/-- A task of which nothing was done. -/
def fresh (t : Task) : Party := { task := t, rest := t.course }

/-- The changes of the metrics so far. -/
def updates (p : Party) : List Metrics.Update := p.transcript.filterMap Exchange.update?

/-- Whether the start was recorded. -/
def hasStarted (p : Party) : Bool := p.updates.contains .started

/-- Whether a change of the metrics counts the end of an execution. -/
def isEnd : Metrics.Update → Bool
  | .succeeded => true
  | .failed _ => true
  | _ => false

/-- Whether an end was recorded. -/
def hasEnded (p : Party) : Bool := p.updates.any isEnd

/-- Whether there is nothing left to ask. -/
def isOver (p : Party) : Bool :=
  match p.rest with
  | .ask _ _ => false
  | _ => true

/-- The party after a question was answered. -/
def hear (p : Party) (q : Query) (next : q.Answer → Course Unit) (a : q.Answer) : Party :=
  { p with transcript := p.transcript ++ [⟨q, a⟩], rest := next a }

end Party

/-- Executions and the metrics that they share. -/
structure Company where
  metrics : Metrics := {}
  parties : List Party

namespace Company

/-- The metrics after an exchange. -/
def change (m : Metrics) (e : Exchange) : Metrics :=
  match e.update? with
  | some u => m.apply u
  | none => m

/-- Whether an answer may be given where nothing goes wrong but what an execution takes care of or
what launching brings along: waiting for output does not fail and gives both outputs, a process can
be killed, and a party that was not cancelled while it waited for output is not cancelled later. -/
def Admits (q : Query) (a : q.Answer) : Prop :=
  match q, a with
  | .output _, .raised _ => False
  | .output _, .exited _ out err => out.isSome = true ∧ err.isSome = true
  | .kill, .error _ => False
  | .reap, .cancelled => False
  | _, _ => True

/-- One party asks one question. -/
inductive Step : Company → Company → Prop where
  | turn {m : Metrics} {before after : List Party} {p : Party} {q : Query}
      {next : q.Answer → Course Unit} (a : q.Answer) :
      p.rest = .ask q next → Admits q a →
      Step ⟨m, before ++ p :: after⟩ ⟨change m ⟨q, a⟩, before ++ p.hear q next a :: after⟩

/-- What can become of tasks of which nothing was done. -/
inductive Reachable (tasks : List Task) : Company → Prop where
  | start : Reachable tasks { parties := tasks.map Party.fresh }
  | step {c d : Company} : Reachable tasks c → Step c d → Reachable tasks d

end Company

end Errand
