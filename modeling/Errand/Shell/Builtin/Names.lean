import Errand.Shell.Builtin.Basic

/-! # What names stand for

A name in front of a command stands for a keyword, a text, a command of the shell, a function or a
program. These commands tell what a name stands for, and change the texts. -/

namespace Errand.Shell.Builtin

open Errand.Host

/-- The commands of the shell whose failure ends it and whose assignments stay. -/
def specialNames : List String := Reader.protectedNames

/-- The other commands of the shell. -/
def regularNames : List String :=
  ["[", "alias", "bg", "cd", "chdir", "command", "echo", "false", "fg", "getopts", "hash", "jobs",
    "kill", "printf", "pwd", "read", "test", "true", "type", "ulimit", "umask", "unalias", "wait"]

/-- Whether a name is that of a command of the shell. -/
def isBuiltin (name : String) : Bool := specialNames.contains name || regularNames.contains name

/-- Whether a path is one of a file that can be started. -/
def isProgram (files : Files) (directory : Location) (path : String) : Bool :=
  match files.find? directory path with
  | .ok (_, node) => node.isExecutable
  | .error _ => false

/-- Where the program of a name is, or the refusal. -/
def locateProgram (searchPath : Option String) (name : String) : Run (Except Refusal String) := do
  let files := (← Run.machine).files
  let here := (← Run.process).directory
  match searchPath with
  | none => return .error .noEntry
  | some entries =>
    let paths := (entries.splitOn ":").map fun e => entryPath e name
    match paths.find? (isProgram files here) with
    | some path => return .ok path
    | none =>
      let refusals := paths.filterMap fun path => match files.find? here path with
        | .ok _ => some Refusal.denied
        | .error .noEntry | .error .notDirectory => none
        | .error r => some r
      return .error (refusals.getLastD .noEntry)

/-- Where a shell looks for programs if its environment does not say so. -/
def defaultPath : String :=
  "/usr/local/sbin:/usr/local/bin:/usr/sbin:/usr/bin:/sbin:/bin"

/-- Remembers where a program was found. -/
def remember (name path : String) : Run Unit :=
  Run.onProcess fun p =>
    if p.known.any (·.1 == name) then p else { p with known := p.known ++ [(name, path)] }

/-- What is told about a name: in a word, or in a sentence. -/
structure Telling where
  word : String
  sentence : String

/-- A text that a name stands for, as a script would write it. -/
def aliasText (name text : String) : String := name ++ "=" ++ quoted text

/-- What a name stands for. -/
def describe (searchPath : Option String) (name : String) : Run (Option Telling) := do
  let p ← Run.process
  if Reader.keywords.contains name then return some ⟨name, name ++ " is a shell keyword"⟩
  match p.aliases.lookup name with
  | some text =>
    return some ⟨"alias " ++ aliasText name text, name ++ " is an alias for " ++ text⟩
  | none => pure ()
  if name.contains '/' then
    match (← Run.machine).files.find? p.directory name with
    | .ok _ => return some ⟨name, name ++ " is " ++ name⟩
    | .error _ => return none
  if (p.functions.lookup name).isSome then
    return some ⟨name, name ++ " is a shell function"⟩
  if specialNames.contains name then
    return some ⟨name, name ++ " is a special shell builtin"⟩
  if regularNames.contains name then return some ⟨name, name ++ " is a shell builtin"⟩
  match p.known.lookup name with
  | some path => return some ⟨path, name ++ " is a tracked alias for " ++ path⟩
  | none =>
    match ← locateProgram searchPath name with
    | .ok path =>
      remember name path
      return some ⟨path, name ++ " is " ++ path⟩
    | .error _ => return none

/-- Tells what names stand for, in sentences. -/
def type (arguments : List String) : Run Nat := do
  let mut status := 0
  let searchPath ← Run.valueOf "PATH"
  for name in arguments do
    match ← describe searchPath name with
    | some t => Run.print (t.sentence ++ "\n")
    | none =>
      Run.print (name ++ ": not found\n")
      status := 127
  return status

/-- Tells what a name stands for, if that is asked for. -/
def command (arguments : List String) : Run Nat := do
  let (given, operands) ← options "pvV" "" arguments
  let searchPath ← if given.any fun g => g.1 == 'p' then pure (some defaultPath)
    else Run.valueOf "PATH"
  let asks := given.filter fun g => g.1 != 'p'
  match operands, asks with
  | name :: _, _ :: _ =>
    let inSentence := asks.any fun g => g.1 == 'V'
    match ← describe searchPath name with
    | some t =>
      Run.print ((if inSentence then t.sentence else t.word) ++ "\n")
      return 0
    | none =>
      if inSentence then Run.print (name ++ ": not found\n")
      return 127
  | _, _ => return 0

/-- The texts that names stand for, in their order. -/
def orderedAliases (aliases : List (String × String)) : List (String × String) :=
  aliases.mergeSort fun a b => Run.order a.1 ≤ Run.order b.1

/-- Puts texts in the place of names, or lists them. -/
def giveAlias (arguments : List String) : Run Nat := do
  if arguments.isEmpty then
    Run.print (String.join ((orderedAliases (← Run.process).aliases).map fun e =>
      aliasText e.1 e.2 ++ "\n"))
    return 0
  let mut status := 0
  for a in arguments do
    let head := a.toList.take 1
    let name := String.ofList (head ++ (a.toList.drop 1).takeWhile (· != '='))
    match a.toList.drop name.length with
    | _ :: text =>
      Run.onProcess fun p => { p with
        aliases := if p.aliases.any (·.1 == name) then
            p.aliases.map fun e => if e.1 == name then (name, .ofList text) else e
          else p.aliases ++ [(name, .ofList text)] }
    | [] =>
      match (← Run.process).aliases.lookup name with
      | some text => Run.print (aliasText name text ++ "\n")
      | none =>
        Run.write 2 ("alias: " ++ name ++ " not found\n")
        status := 1
  return status

/-- Drops the texts that names stand for. -/
def unalias (arguments : List String) : Run Nat := do
  let (given, operands) ← options "a" "" arguments
  if !given.isEmpty then
    Run.onProcess fun p => { p with aliases := [] }
    return 0
  let mut status := 0
  for name in operands do
    if ((← Run.process).aliases.lookup name).isSome then
      Run.onProcess fun p => { p with aliases := p.aliases.filter fun e => e.1 != name }
    else
      Run.write 2 ("unalias: " ++ name ++ " not found\n")
      status := 1
  return status

/-- Lists the programs that were found, looks for some, or forgets them. -/
def hash (arguments : List String) : Run Nat := do
  let (given, operands) ← options "r" "" arguments
  if !given.isEmpty then
    Run.onProcess fun p => { p with known := [] }
    return 0
  if operands.isEmpty then
    Run.print (String.join ((← Run.process).known.map fun e => e.2 ++ "\n"))
    return 0
  let mut status := 0
  for name in operands do
    if !isBuiltin name && ((← Run.process).functions.lookup name).isNone then
      match ← locateProgram (← Run.valueOf "PATH") name with
      | .ok path => remember name path
      | .error r =>
        Run.complain (name ++ ": " ++ (if r = .noEntry then "not found" else r.reason))
        status := 1
  return status

end Errand.Shell.Builtin
