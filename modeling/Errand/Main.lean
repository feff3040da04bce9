import Errand.CommandLine.Job
import Errand.Host
import Errand.Settings.Loading

/-! # The program

The program runs one command on a host of its own: the files there are those that every host has,
and the environment is what the program finds of the variables that it knows. -/

namespace Errand.Main

/-- The variables that the program looks for. -/
def variableNames : List String :=
  ["PATH", "HOME", "COLUMNS"] ++ Settings.Field.all.map Settings.Field.name

/-- The variables that are there. -/
def environment : IO (List (String × String)) := do
  let found ← variableNames.mapM fun name => do return (← IO.getEnv name).map (name, ·)
  return found.filterMap id

/-- The content of the file of variables, if there is one. -/
def variableFile : IO (Option String) := do
  try
    return some (← IO.FS.readFile ".env")
  catch _ => return none

/-- The directory that the command runs in. -/
def directory : Host.Location := ["tmp"]

/-- What is written in place of the trace of a fault. -/
def trace : String := "(no trace)"

/-- The code of a program that ends with a value. -/
def codeOf (v : Value) : UInt32 :=
  match v.int? with
  | some n => (n.emod 256).toNat.toUInt32
  | none => 1

/-- Runs the program and shows what it shows; its code is what it ends with. -/
def run (arguments : List String) : IO UInt32 := do
  let environment ← environment
  let settings := Settings.load { environment := environment, file := ← variableFile }
  let host : Host := { files := Host.Files.base, directory, environment }
  let scene : Scene Host := { world := host, handler := { capturing := true } }
  let (exit, scene) := (CommandLine.program settings environment arguments).perform Host.world scene
  let least := match CommandLine.plan settings environment arguments with
    | .ok plan => plan.leastWeight
    | .error _ => 0
  let time := toString (← IO.monoMsNow)
  IO.print scene.stdout
  IO.eprint (CommandLine.errorOutput least time trace scene)
  match exit with
  | .ok (.returned code) => return codeOf code
  | .ok (.refused code) => return code.toUInt32
  | .error f =>
    IO.eprintln f.message
    return 1

end Errand.Main

/-- The program. -/
def main (arguments : List String) : IO UInt32 := Errand.Main.run arguments
