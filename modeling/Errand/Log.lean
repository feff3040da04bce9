/-! # Log lines

A log line has a level, a text and the part of the program that wrote it; a line about a fault may
carry a trace of it. A threshold lets the lines through whose level it does not exceed. -/

namespace Errand

namespace Log

/-- How much a line matters. -/
inductive Level where
  | debug
  | info
  | warning
  | error
  deriving DecidableEq, Repr

/-- The name of a level. -/
def Level.name : Level → String
  | debug => "DEBUG"
  | info => "INFO"
  | warning => "WARNING"
  | error => "ERROR"

/-- The weight of a level. -/
def Level.weight : Level → Nat
  | debug => 10
  | info => 20
  | warning => 30
  | error => 40

/-- The least weight of the lines that are let through, by its name. -/
def threshold? (name : String) : Option Nat :=
  [("CRITICAL", 50), ("FATAL", 50), ("ERROR", 40), ("WARN", 30), ("WARNING", 30), ("INFO", 20),
    ("DEBUG", 10), ("NOTSET", 0)].lookup name

/-- The parts of the program that write log lines. -/
inductive Origin where
  | executor
  | handler
  | commandLine
  deriving DecidableEq, Repr

/-- The name of a part in a log line. -/
def Origin.name : Origin → String
  | executor => "procexec.executor.command_executor"
  | handler => "procexec.executor.result_handler"
  | commandLine => "procexec.cli.run_cli"

/-- A log line. -/
structure Line where
  level : Level
  text : String
  origin : Origin := .executor
  traced : Bool := false
  deriving DecidableEq, Repr

/-- The text of a line that is written at a time, with the trace of its fault if it has one. -/
def Line.render (l : Line) (time trace : String) : String :=
  time ++ " - " ++ l.origin.name ++ " - " ++ l.level.name ++ " - " ++ l.text ++ "\n" ++
    if l.traced then trace ++ "\n" else ""

/-- Whether a threshold lets a line through. -/
def Line.passes (l : Line) (least : Nat) : Bool :=
  least ≤ l.level.weight

end Log

end Errand
