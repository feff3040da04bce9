import Errand.Shell.Builtin.Names
import Errand.Shell.Redirection

/-! # How a shell starts

A shell that starts in place of a process looks at its arguments: options, and then a script, a file
of one, or nothing, where the script is its input. It takes over the variables of the environment
that it can name and gives values to some of its own.

`Interpreter.shell` is a shell from its start to its end. -/

namespace Errand.Shell

open Errand.Host Builtin

namespace Startup

/-- The variables of a shell that has no environment. -/
def ownBindings : List (String × String) :=
  [("IFS", " \t\n"), ("PATH", defaultPath), ("PS1", "# "), ("PS2", "> "), ("PS4", "+ "),
    (Run.optionIndex, "1")]

/-- The variables that do not get their values from the environment. -/
def fixedNames : List String := ["IFS", Run.optionIndex, "PPID"]

/-- Takes over an environment. -/
def imported (parent : Nat) (environment : List (String × String)) : List (String × Variable) :=
  let own := ownBindings.map fun e => (e.1, ({ value := some e.2 } : Variable))
  let all := (environment.filter fun e => isName e.1.toList).foldl (fun bs e =>
    let kept := (bs.lookup e.1).bind (·.value)
    let value := if fixedNames.contains e.1 then kept.or (some "") else some e.2
    Run.bind bs e.1 { value, exported := true }) own
  let exported := ((all.lookup "PPID").map (·.exported)).getD false
  Run.bind all "PPID" { value := some (toString parent), exported }

/-- The name of the directory that a shell starts in: the one that the environment tells, if it is
one for the same place. -/
def directoryName (files : Files) (place : Location) (told : Option String) : String :=
  let isRight := fun (path : String) => path.startsWith "/" &&
    (files.directory? [] path).toOption == some place
  (told.filter isRight).getD (Files.text place)

/-- The process becomes a shell. -/
def prepare (name : String) : Run Unit := do
  let p ← Run.process
  let files := (← Run.machine).files
  let parent := p.ancestors.headD 1
  let told := (p.bindings.lookup "PWD").bind (·.value)
  let spelled := directoryName files p.directory told
  let environment := p.bindings.filterMap fun e => e.2.value.map (e.1, ·)
  let bindings := Run.bind (imported parent environment) "PWD"
    { value := some spelled, exported := true }
  Run.onProcess fun p => { p with
    name, bindings, spelled, parent
    shell := p.id
    parameters := []
    optionPlace := {}
    frames := []
    functions := []
    aliases := []
    options := []
    line := 0
    functionLine := 0
    speaker := none
    known := []
    interrupted := none
    status := 0
    isReplaced := false
    loops := 0
    traps := p.traps.filter fun t => t.2.isEmpty
    jobs := []
    lastJob := none
    documents := #[] }

/-- Reads options; whether a script is an argument, and the other arguments. The number bounds the
arguments. -/
def readArguments : Nat → Bool → List String → Run (Bool × List String)
  | 0, hasScript, rest => return (hasScript, rest)
  | _ + 1, hasScript, [] => return (hasScript, [])
  | fuel + 1, hasScript, a :: rest => do
    let letters := fun (value : Bool) (cs : List Char) => do
      let rest ← setLetters value (cs.filter (· != 'c')) rest
      readArguments fuel (hasScript || cs.contains 'c') rest
    match a.toList with
    | ['-'] | ['-', '-'] => return (hasScript, rest)
    | '-' :: cs => letters true cs
    | '+' :: cs => letters false cs
    | _ => return (hasScript, a :: rest)

/-- The content of a file of a script. -/
def contentAt (path : String) : Run String := do
  let p ← Run.process
  match (← Run.machine).files.find? p.directory path with
  | .ok (_, .file content _) => return .ofList (Text.Octets.ofBytes content)
  | .ok _ => return ""
  | .error r => Run.fail ("cannot open " ++ path ++ ": " ++ Redirection.openReason r)

end Startup

open Startup

/-- A shell in place of the process. -/
def Interpreter.shell (i : Interpreter) (arguments : List String) : Run Nat := do
  prepare (arguments.headD "sh")
  i.finish do
    let (hasScript, operands) ←
      readArguments (arguments.length + 1) false (arguments.drop 1)
    if hasScript && operands.isEmpty then Run.fail "-c requires an argument"
    if operands.isEmpty then setOption 's' true
    let readsInput ← Run.hasOption 's'
    let operands' := if hasScript then operands.drop 1 else operands
    let path ← if hasScript || readsInput then pure none else pure operands.head?
    let named := (hasScript || !readsInput) && !operands'.isEmpty
    let text ← path.mapM contentAt
    if named then Run.onProcess fun p => { p with name := operands'.headD p.name }
    Run.onProcess fun p => { p with
      parameters := if named then operands'.drop 1 else operands' }
    let monitored := (← Run.process).options.any fun o => o == 'i' || o == 'm'
    if monitored then
      Run.complain "can't access tty; job control turned off"
      Run.onProcess fun p => { p with options := p.options.filter (· != 'm') }
    Run.onProcess fun p => { p with line := 1 }
    let status ← match text with
      | some text => i.script text false true
      | none =>
        if hasScript then i.script (operands.headD "") (!readsInput) else pure 0
    if readsInput then
      let bytes ← Run.readAll 0
      i.script (.ofList (Text.Octets.ofBytes bytes)) false true
    else return status

end Errand.Shell
