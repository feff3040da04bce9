import Errand.Shell.Caller
import Errand.Shell.Evaluation
import Errand.Shell.Startup

/-! # Processes from their start on

What is started in place of a process is a shell, a program that calls programs, or a program that
is a function of its call. Shells carry out commands, and commands start processes; how deep they
may do so is bounded.

`Interpreter.ofDepth` is the interpreter of commands and programs for a depth. -/

namespace Errand.Shell.Interpreter

open Errand.Host

/-- Carries out what is started in place of the process. -/
def start (i : Interpreter) (image : Image) : Run Nat := do
  match image.program with
  | "sh" | "dash" => i.shell image.arguments
  | name =>
    match i.caller? name, Program.named? name with
    | some program, _ => program (← Run.callOf name image.arguments).1
    | none, some program => Run.call name program image.arguments
    | none, none =>
      Run.write 2 (name ++ ": not available\n")
      return 127

/-- The interpreter for a depth; below it nothing is carried out. -/
def ofDepth : Nat → Interpreter
  | 0 => ⟨fun _ _ => return 0, fun _ => return 0⟩
  | depth + 1 =>
    ⟨fun m c => Evaluation.command (ofDepth depth) m c, fun image => start (ofDepth depth) image⟩

end Errand.Shell.Interpreter
