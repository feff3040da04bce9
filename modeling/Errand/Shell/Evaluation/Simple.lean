import Errand.Shell.Builtin.Input
import Errand.Shell.Builtin.Jobs
import Errand.Shell.Builtin.Names

/-! # Commands of words

A command of words names a function, a command of the shell or a program. Its words are expanded
first, then its redirections take place, and last its assignments, which hold for as long as the
command, unless there is none or it is one whose assignments stay.

`Evaluation.simple` carries out such a command. -/

namespace Errand.Shell.Evaluation

open Errand.Host Builtin

/-- What the name of a command stands for. -/
inductive Found where
  | nothing
  | function (f : Function)
  | builtin (name : String)
  | program

/-- Words that are expanded so far, and those that are left. -/
structure Arguments where
  texts : List String := []
  rest : List Word
  /-- What was dropped in front of the command. -/
  before : List String := []
  searchPath : Option String := none
  /-- Whether functions do not count. -/
  isPlain : Bool := false
  /-- Whether the command is called by a command that is no special one. -/
  isTame : Bool := false

/-- Expands words until there is a text. -/
def expandSome (i : Interpreter) : List Word → Run (List String × List Word)
  | [] => return ([], [])
  | w :: ws => do
    match ← Expansion.field i.substitute w with
    | [] => expandSome i ws
    | ts => return (ts, ws)

/-- What a name stands for. -/
def find (name : String) (isPlain : Bool) : Run Found := do
  if name.contains '/' then return .program
  let functions := (← Run.process).functions
  match if isPlain then none else functions.lookup name with
  | some f => return .function f
  | none => return if isBuiltin name then .builtin name else .program

/-- The arguments with one text more at their end, if there is one. -/
def Arguments.more (i : Interpreter) (a : Arguments) : Run Arguments := do
  let (ts, rest) ← expandSome i a.rest
  return { a with texts := a.texts ++ ts, rest }

/-- Drops the options of a command that calls another one; none if it calls none. The number bounds
the options. -/
def dropCaller (i : Interpreter) : Nat → Arguments → Nat → Run (Option Arguments)
  | 0, _, _ => return none
  | fuel + 1, a, n => do
    let a ← if a.texts.length ≤ n then a.more i else pure a
    match a.texts[n]? with
    | none => return none
    | some t =>
      let dropped := fun (a : Arguments) (n : Nat) =>
        { a with texts := a.texts.drop n, before := a.before ++ a.texts.take n, isPlain := true,
                 isTame := true }
      match t.toList with
      | ['-', '-'] =>
        let a ← if a.texts.length ≤ n + 1 then a.more i else pure a
        return if a.texts.length ≤ n + 1 then none else some (dropped a (n + 1))
      | '-' :: c :: cs =>
        if (c :: cs).all (· == 'p') then
          dropCaller i fuel { a with searchPath := some defaultPath } (n + 1)
        else return none
      | _ => return some (dropped a n)

/-- Finds the command of arguments, past the commands that call it; the number bounds them. -/
def resolve (i : Interpreter) : Nat → Arguments → Run (Arguments × Found)
  | 0, a => return (a, .nothing)
  | fuel + 1, a => do
    match a.texts with
    | [] => return (a, .nothing)
    | name :: _ =>
      let found ← find name a.isPlain
      match found with
      | .builtin "command" =>
        match ← dropCaller i (a.rest.length + a.texts.length + 2) a 1 with
        | some a => resolve i fuel a
        | none => return (a, found)
      | _ => return (a, found)

/-- The commands whose arguments may be assignments. -/
def assigningNames : List String := ["alias", "export", "local", "readonly"]

/-- Expands an argument; one that is an assignment is not taken apart. -/
def expandArgument (i : Interpreter) (assigns : Bool) (w : Word) : Run (List String) := do
  match if assigns then Word.assignment? w else none with
  | some (name, value) => return [name ++ "=" ++ (← Expansion.assigned i.substitute value)]
  | none => Expansion.field i.substitute w

/-- A refusal of a program as a shell tells it. -/
def refusalText : Refusal → String
  | .noEntry | .notDirectory => "not found"
  | r => r.reason

/-- The status after a refusal of a program. -/
def refusalStatus : Refusal → Nat
  | .noEntry | .notDirectory | .tooManyLinks | .nameTooLong => 127
  | _ => 126

/-- Carries out a program in place of the process. A file that is no program is read by a shell. -/
def execute (i : Interpreter) (searchPath : Option String) (texts : List String) : Run Nat := do
  let name := texts.headD ""
  let p ← Run.process
  let files := (← Run.machine).files
  let located ← if name.contains '/' then pure (Except.ok name) else locateProgram searchPath name
  let environment ← Run.environment
  Run.onProcess fun p => { p with
    bindings := environment.map fun e => (e.1, { value := some e.2, exported := true })
    traps := p.traps.filter fun t => t.2.isEmpty
    functions := []
    aliases := [] }
  let replace := fun (image : Image) => do
    try i.image image
    finally Run.onProcess fun p => { p with isReplaced := true }
  let refused := fun (r : Refusal) => do
    Run.complain (name ++ ": " ++ refusalText r)
    throw (.ended (refusalStatus r))
  match located with
  | .error r => refused r
  | .ok path =>
    match imageAt files p.directory chainLimit path texts with
    | .ok image =>
      if isTooMuch (texts ++ environment.map fun e => e.1 ++ "=" ++ e.2) then
        refused .tooManyArguments
      else replace image
    | .error .badFormat => replace ⟨"sh", "/bin/sh" :: path :: texts.drop 1⟩
    | .error r => refused r

/-- The commands of a file, carried out by the shell itself. -/
def source (i : Interpreter) (arguments : List String) : Run Nat := do
  let (_, operands) ← options "" "" arguments
  match operands with
  | [] => return 0
  | name :: _ =>
    let p ← Run.process
    let files := (← Run.machine).files
    let isFile := fun (path : String) => match files.find? p.directory path with
      | .ok (_, .file _ _) | .ok (_, .program _) => true
      | _ => false
    let path ← if name.contains '/' then pure name else do
      let entries := ((← Run.valueOf "PATH").map fun s => s.splitOn ":").getD []
      match (entries.map fun e => entryPath e name).find? isFile with
      | some path => pure path
      | none => Run.fail (name ++ ": not found")
    match files.find? p.directory path with
    | .ok (_, node) =>
      let content := match node with
        | .file content _ => content
        | _ => []
      Run.onProcess fun p => { p with speaker := some path }
      try i.script (.ofList (Text.Octets.ofBytes content)) false true
      catch
        | .returns n => return n
        | stop => throw stop
    | .error r => Run.fail ("cannot open " ++ path ++ ": " ++ Redirection.openReason r)

/-- Puts a program in the place of the shell. -/
def replace (i : Interpreter) (arguments : List String) : Run Nat := do
  let (_, operands) ← options "" "" arguments
  if operands.isEmpty then return 0
  Run.holdSinks
  throw (.ended (← execute i (← Run.valueOf "PATH") operands))

/-- A command of the shell by its name. -/
def builtin (i : Interpreter) (name : String) (arguments : List String) : Run Nat :=
  match name with
  | ":" | "true" => return 0
  | "false" => return 1
  | "." => source i arguments
  | "[" => test true arguments
  | "alias" => giveAlias arguments
  | "bg" | "fg" => resume arguments
  | "break" => leave false arguments
  | "cd" | "chdir" => cd arguments
  | "command" => command arguments
  | "continue" => leave true arguments
  | "echo" => echo arguments
  | "eval" => if arguments.isEmpty then return 0 else i.script (" ".intercalate arguments)
  | "exec" => replace i arguments
  | "exit" => exit arguments
  | "export" => exportAll arguments
  | "getopts" => getOption arguments
  | "hash" => hash arguments
  | "jobs" => jobs arguments
  | "kill" => kill arguments
  | "local" => localAll arguments
  | "printf" => printf arguments
  | "pwd" => pwd arguments
  | "read" => read arguments
  | "readonly" => readOnly arguments
  | "return" => leaveFunction arguments
  | "set" => set arguments
  | "shift" => shift arguments
  | "test" => test false arguments
  | "times" => times arguments
  | "trap" => trap arguments
  | "type" => type arguments
  | "ulimit" => ulimit arguments
  | "umask" => umask arguments
  | "unalias" => unalias arguments
  | "unset" => unset arguments
  | "wait" => wait arguments
  | _ => return 0

/-- Calls a command of the shell, which speaks for itself meanwhile. What it could not write fails
it. -/
def callBuiltin (i : Interpreter) (name : String) (arguments : List String) : Run Nat := do
  let speaker := (← Run.process).speaker
  Run.onProcess fun p => { p with speaker := some name, outputFailed := false }
  try
    let status ← builtin i name arguments
    if (← Run.process).outputFailed then
      Run.complain (name ++ ": I/O error")
      return status ||| 1
    return status
  finally Run.onProcess fun p => { p with speaker, outputFailed := false }

/-- Calls a function. -/
def callFunction (i : Interpreter) (m : Manner) (f : Function) (arguments : List String) :
    Run Nat := do
  let saved ← Run.process
  Run.onProcess fun p => { p with
    parameters := arguments, optionPlace := {}, functionLine := f.line, loops := 0 }
  try i.command ⟨false, m.tested⟩ f.body
  catch
    | .returns n => return n
    | stop => throw stop
  finally Run.onProcess fun p => { p with
    parameters := saved.parameters
    optionPlace := saved.optionPlace
    functionLine := saved.functionLine
    loops := saved.loops }

/-- Carries out a program in a process of its own, or in place of the shell if that ends with it. -/
def callProgram (i : Interpreter) (m : Manner) (searchPath : Option String)
    (texts : List String) : Run Nat := do
  let name := texts.headD ""
  let located ← if name.contains '/' then pure (Except.ok name) else locateProgram searchPath name
  match located with
  | .error r =>
    Run.complain (name ++ ": " ++ refusalText r)
    return 127
  | .ok path =>
    if !name.contains '/' then remember name path
    if m.last && !(← Run.hasTraps) then
      throw (.ended (← execute i searchPath texts))
    let ending ← Run.child do
      Interpreter.forget
      execute i searchPath texts
    Run.notice
    Run.report ending

/-- What a command is told as before it is carried out. -/
def traceText (i : Interpreter) (assigned texts : List String) : Run String := do
  let p ← Run.process
  let mark := (← Run.valueOf "PS4").getD ""
  let w := Reader.quotedWord
    { Interpreter.readerOf mark with aliases := p.aliases, documents := p.documents }
  return (← Expansion.document i.substitute w) ++ " ".intercalate (assigned ++ texts) ++ "\n"

/-- Gives variables the values of assignments; what was assigned, as it is told. -/
def assignAll (i : Interpreter) (isLocal exported : Bool) : List Word → Run (List String)
  | [] => return []
  | w :: ws => do
    match Word.assignment? w with
    | none => assignAll i isLocal exported ws
    | some (name, value) =>
      let text ← Expansion.assigned i.substitute value
      if isLocal then
        Run.checkWritable name
        Run.localize name
      Run.assign name text (isLocal || exported)
      return (name ++ "=" ++ text) :: (← assignAll i isLocal exported ws)

/-- Whether the failure of a command is one of the shell, which ends by it. -/
def isSpecial (a : Arguments) : Found → Bool
  | .builtin name => specialNames.contains name && !a.isTame
  | _ => false

/-- Does something in a call of its own if the assignments are to end with it. -/
def framed (isLocal : Bool) (body : Run Nat) : Run Nat :=
  if isLocal then Run.withFrame body else body

/-- Carries out a command when its words are known. -/
def perform (i : Interpreter) (m : Manner) (a : Arguments) (found : Found) : Run Nat := do
  match found with
  | .nothing => return (← Run.process).substituted
  | .function f => callFunction i m f (a.texts.drop 1)
  | .builtin name =>
    try callBuiltin i name (a.texts.drop 1)
    catch
      | .failed =>
        if isSpecial a found then throw .failed else return (← Run.process).status
      | stop => throw stop
  | .program =>
    let searchPath ← match a.searchPath with
      | some path => pure (some path)
      | none => Run.valueOf "PATH"
    callProgram i m searchPath a.texts

/-- Whether a command is one that puts a program in the place of the shell. -/
def isReplacing : Found → Bool
  | .builtin "exec" => true
  | _ => false

/-- Carries out a command of words. -/
def simple (i : Interpreter) (m : Manner) (line : Nat) (assignments words : List Word)
    (rs : List Redirect) : Run Nat := do
  Run.onProcess fun p => { p with line, substituted := 0 }
  let (texts, rest) ← expandSome i words
  let (a, found) ← resolve i (words.length + 2) { texts, rest }
  let assigns := match found with
    | .builtin name => assigningNames.contains name
    | _ => false
  let more ← a.rest.mapM (expandArgument i assigns)
  let a := { a with texts := a.texts ++ more.flatten, rest := [] }
  let special := isSpecial a found
  let isLocal := !special && !a.texts.isEmpty
  let replaces := isReplacing found
  framed isLocal do
    let ss ← Redirection.settle i rs
    let saved := (← Run.process).descriptors
    let restore := if replaces then pure () else Redirection.restore ss saved
    try
      if !(← Redirection.applyAll i ss) then
        Run.onProcess fun p => { p with status := Redirection.refusedStatus }
        if special then throw .failed
        return Redirection.refusedStatus
      let assigned ← assignAll i isLocal (replaces && 1 < a.texts.length) assignments
      if ← Run.hasOption 'x' then
        let text ← traceText i assigned (a.before ++ a.texts)
        match saved.lookup 2 with
        | some index => let _ ← Run.writeOpened index (Text.Octets.bytesOf text)
        | none => pure ()
      perform i m a found
    finally restore

end Errand.Shell.Evaluation
