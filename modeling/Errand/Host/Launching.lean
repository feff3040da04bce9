import Errand.Host.Files
import Errand.Execution.Course

/-! # How a host launches a command

The words of a command name a program, and its other words are what the program gets. A name with
a slash in it is a path; any other name is looked for in the directories of a variable of the
environment, one after the other. What a path leads to must be executable, and it is a program or a
script, whose first line names the program that reads it.

* `imageAt` is what a path starts, `search` what a name starts;
* `launch` checks a request and gives the image to start, or the fault that refuses it.

Everything that a program gets is a text of octets; a request has texts and bytes. -/

namespace Errand.Host

/-- What is started: a program and its arguments, of which the first one is its own name. -/
structure Image where
  program : String
  arguments : List String
  deriving DecidableEq, Repr

/-- How many bytes of a script are looked at for its first line. -/
def firstLineLimit : Nat := 256

/-- How long a chain of scripts and the program that reads the last of them may be. -/
def chainLimit : Nat := 6

/-- The program that reads a script, and the one argument that it gets first. -/
def interpreterOf? (content : Bytes) : Option (String × Option String) :=
  match Text.Octets.ofBytes (content.take firstLineLimit) with
  | '#' :: '!' :: rest =>
    let isGap := fun c => c == ' ' || c == '\t'
    let line := rest.takeWhile (· != '\n')
    let line := ((line.dropWhile isGap).reverse.dropWhile isGap).reverse
    let name := line.takeWhile fun c => !isGap c
    let argument := (line.drop name.length).dropWhile isGap
    if name.isEmpty then none
    else some (.ofList name, if argument.isEmpty then none else some (.ofList argument))
  | _ => none

/-- What a path starts from a directory. -/
def imageAt (files : Files) (directory : Location) :
    Nat → String → List String → Except Refusal Image
  | 0, _, _ => .error .tooManyLinks
  | scripts + 1, path, arguments => do
    match (← files.find? directory path).2 with
    | .program name => pure ⟨name, arguments⟩
    | .file content mode =>
      if mode &&& executableBits = 0 then throw .denied
      else match interpreterOf? content with
        | none => throw .badFormat
        | some (reader, argument) =>
          imageAt files directory scripts reader
            (reader :: argument.toList ++ path :: arguments.drop 1)
    | _ => throw .denied

/-- The path of a name in a directory of the search; an empty one is the current directory. -/
def entryPath (entry name : String) : String :=
  if entry.isEmpty then name else Path.append entry name

/-- What the first path starts that starts anything. If none does, a refusal other than a missing
entry is what counts, and the first of those; else the last one. -/
def firstImage (start : String → Except Refusal Image) :
    Option Refusal → Refusal → List String → Except Refusal Image
  | serious, last, [] => .error (serious.getD last)
  | serious, _, path :: rest =>
    match start path with
    | .ok image => .ok image
    | .error r =>
      if r = .noEntry ∨ r = .notDirectory then firstImage start serious r rest
      else firstImage start (some (serious.getD r)) r rest

/-- The paths that a name may stand for. -/
def candidatePaths (searchPath : Option String) (name : String) : List String :=
  if Path.hasDirectory name then [name]
  else ((searchPath.getD "/bin:/usr/bin").splitOn ":").map fun entry => entryPath entry name

/-- How many bytes one argument may have. -/
def argumentLimit : Nat := 131072

/-- How many bytes all arguments and the environment may have together. -/
def argumentsLimit : Nat := 2097152

/-- Whether there is more in the words and the environment than a program can get. -/
def isTooMuch (strings : List String) : Bool :=
  strings.any (fun s => argumentLimit ≤ s.length) ||
    argumentsLimit < (strings.map fun s => s.length + 9).foldr (· + ·) 0

/-- What the words of a command start, by the variable that tells where to look. -/
def search (files : Files) (directory : Location) (searchPath : Option String)
    (environment : List (String × String)) (arguments : List String) : Except Refusal Image :=
  let strings := arguments ++ environment.map fun e => e.1 ++ "=" ++ e.2
  let start := fun path => match imageAt files directory chainLimit path arguments with
    | .ok image => if isTooMuch strings then .error .tooManyArguments else .ok image
    | .error .badFormat => .error (if isTooMuch strings then .tooManyArguments else .badFormat)
    | .error r => .error r
  firstImage start none .noEntry (candidatePaths searchPath (arguments.headD ""))

/-- The name of the variable that tells where to look for programs. -/
def searchName : String := "PATH"

/-- The octets of a value that may stand in an environment. -/
def octets? (v : Value) : Except Fault String :=
  match v with
  | .bytes bs => .ok (.ofList (Text.Octets.ofBytes bs))
  | _ => match v.text? with
    | some s => .ok (Text.Octets.ofText s)
    | none => .error (.notPath v)

/-- A variable of an environment. The name is looked at before the value. -/
def binding? (e : Value × Value) : Except Fault (String × String) := do
  let name ← octets? e.1
  if name.contains '=' then throw .badVariableName
  return (name, ← octets? e.2)

/-- Where to look for programs, by an environment whose names are texts or bytes; one of each is
too many. -/
def searchPath? (es : List (Value × Value)) : Except Fault (Option String) := do
  let byText := es.find? fun e => e.1.same (.text searchName)
  let byBytes := es.find? fun e => e.1.same (.bytes (Text.Utf8.encode searchName))
  match byText, byBytes with
  | some _, some _ => throw .doubledSearchPath
  | some e, none | none, some e => return some (← octets? e.2)
  | none, none => return none

/-- The variables of an environment, and where to look for a program of that name. -/
def environmentOf (own : List (String × String)) (name : String) (r : Request) :
    Except Fault (List (String × String) × Option String) := do
  match r.environment with
  | none =>
    let own := own.map fun e => (Text.Octets.ofText e.1, Text.Octets.ofText e.2)
    return (own, own.lookup searchName)
  | some es =>
    let named ← es.mapM binding?
    let path ← if Path.hasDirectory name then pure none else searchPath? es
    return (named, path)

/-- A refusal about a file as a fault. -/
def refused (r : Refusal) (file : String) : Fault :=
  .system ⟨some r.number, r.reason, some file⟩

/-- What is started, where, and with which environment. -/
structure Start where
  image : Image
  directory : Location
  environment : List (String × String)

/-- What a request starts. The environment is looked at first, then what no program can get, then
the directory, and the words last. -/
def launch (files : Files) (directory : Location) (own : List (String × String)) (r : Request) :
    Except Fault Start := do
  let (environment, searchPath) ← environmentOf own (r.args.headD "") r
  let octets := Text.Octets.ofText
  let arguments := r.args.map octets
  let texts := arguments ++ (r.directory.map octets).toList ++
    environment.flatMap fun e => [e.1, e.2]
  if texts.any fun s => s.contains '\x00' then throw .nullByte
  let directory ← match r.directory with
    | none => pure directory
    | some path => match files.directory? directory (octets path) with
      | .ok place => pure place
      | .error e => throw (refused e path)
  match search files directory searchPath environment arguments with
  | .ok image => pure ⟨image, directory, environment⟩
  | .error e => throw (refused e (r.args.headD ""))

end Errand.Host
