import Errand.Shell.Caller.Finding
import Errand.Shell.Caller.InPlace
import Errand.Shell.Caller.Limited
import Errand.Shell.Caller.Words

/-! # Programs that call programs

`Interpreter.caller?` knows by name the programs that call other programs: in place of themselves,
with a limit of time, for the words of the input, or for files that fit a condition. -/

namespace Errand.Shell

open Errand.Host

/-- A program that calls programs, by its name. -/
def Interpreter.caller? (i : Interpreter) (name : String) : Option (Call → Run Nat) :=
  match name with
  | "env" => some (Caller.env i)
  | "find" => some (Caller.finding i)
  | "nice" => some (Caller.nice i)
  | "nohup" => some (Caller.nohup i)
  | "setsid" => some (Caller.setsid i)
  | "stdbuf" => some (Caller.stdbuf i)
  | "timeout" => some (Caller.timeout i)
  | "xargs" => some (Caller.xargs i)
  | _ => none

end Errand.Shell
