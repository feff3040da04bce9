import Errand.Host.Files
import Errand.Host.Quoting

/-! # Calls of programs

Each program other than the shell is a function from a `Call`, its arguments, its input and the
files, to an `Effect`: what it writes in order, how it ends, how long it takes, what it leaves of
its input and what it changes. -/

namespace Errand.Host

/-- What a program reads: bytes, after which a row of bytes may come again and again for ever. The
reader of a file can go back to what it has not used. -/
structure Input where
  bytes : Bytes := []
  period : Bytes := []
  seekable : Bool := false
  deriving DecidableEq, Repr

/-- Whether there is no end of an input. -/
def Input.isEndless (i : Input) : Bool := !i.period.isEmpty

/-- The first bytes of an input. -/
def Input.take (i : Input) (n : Nat) : Bytes :=
  let here := i.bytes.take n
  let missing := n - here.length
  if missing = 0 || i.period.isEmpty then here
  else here ++ ((List.replicate (missing / i.period.length + 1) i.period).flatten.take missing)

/-- An input after its first bytes. -/
def Input.drop (i : Input) (n : Nat) : Input := { i with bytes := i.bytes.drop n }

/-- What a program is called with. -/
structure Call where
  /-- The name under which it is called. -/
  name : String
  arguments : List String
  input : Input := {}
  /-- Why there is no input, if there is none. -/
  unreadable : Option Refusal := none
  files : Files
  directory : Location
  environment : List (String × String) := []
  /-- The bits that new files do not get. -/
  mask : Nat := 0o022

/-- The number under which a program knows its output. -/
def outputNumber : Nat := 1

/-- The number under which a program knows the output for complaints. -/
def errorNumber : Nat := 2

/-- What a call leads to. Times are in nanoseconds. -/
structure Effect where
  /-- What is written, in order, and the number of the output. -/
  writes : List (Nat × Bytes) := []
  /-- What is written to the output again and again after that. -/
  period : Bytes := []
  status : Nat := 0
  lasts : Nat := 0
  isEndless : Bool := false
  /-- What is left of the input, if something was read. -/
  left : Option Input := none
  /-- How many bytes of the input are waited for, if not all of them. -/
  awaits : Option Nat := none
  /-- Whether what is left of the input is written to the output as it comes. -/
  copies : Bool := false
  /-- The files afterwards, if something was changed. -/
  files : Option Files := none

namespace Effect

/-- Writing octets to the output. -/
def print (cs : List Char) : Effect := { writes := [(outputNumber, Text.Octets.toBytes cs)] }

/-- Writing bytes to the output. -/
def write (bs : Bytes) : Effect := { writes := [(outputNumber, bs)] }

/-- The bytes that go to an output. -/
def written (e : Effect) (number : Nat) : Bytes :=
  (e.writes.filter fun w => w.1 == number).flatMap (·.2)

/-- One effect after another one; the worse status counts. -/
def andThen (a b : Effect) : Effect where
  writes := a.writes ++ b.writes
  period := if b.period.isEmpty then a.period else b.period
  status := max a.status b.status
  lasts := a.lasts + b.lasts
  isEndless := a.isEndless || b.isEndless
  left := b.left.or a.left
  awaits := b.awaits.or a.awaits
  copies := a.copies || b.copies
  files := b.files.or a.files

/-- An effect whose output is kept back until the end, after all complaints. -/
def buffered (e : Effect) : Effect :=
  let (out, err) := e.writes.partition fun w => w.1 == outputNumber
  { e with writes := err ++ out }

/-- All effects, one after the other. -/
def all (es : List Effect) : Effect := es.foldr andThen {}

end Effect

namespace Call

/-- The values of the variables that tell which characters the surroundings know. -/
def locale (environment : List (String × String)) : String :=
  (["LC_ALL", "LC_CTYPE", "LANG"].findSome? fun n =>
    (environment.lookup n).filter fun v => !v.isEmpty).getD ""

/-- Whether the surroundings know more characters than those of ASCII. -/
def isUnicode (c : Call) : Bool :=
  match (locale c.environment).splitOn "." with
  | ["C", set] => (set.toList.filter (· != '-')).map Char.toLower == "utf8".toList
  | _ => false

/-- A name in the quotes of the surroundings. -/
def quoted (c : Call) (name : String) : String := Quoting.spoken c.isUnicode name

/-- A name in the quotes of a shell. -/
def quotedAlways (c : Call) (name : String) : String := Quoting.always c.isUnicode name

/-- A name in quotes where a shell needs them. -/
def shown (c : Call) (name : String) : String := Quoting.whereNeeded c.isUnicode name

/-- A complaint, and an end with a status. -/
def complain (c : Call) (text : String) (status : Nat := 1) : Effect where
  writes := [(errorNumber, Text.Octets.bytesOf (c.name ++ ": " ++ text ++ "\n"))]
  status := status

/-- The line after a complaint about the arguments. -/
def hint (c : Call) : String := "Try '" ++ c.name ++ " --help' for more information."

/-- A complaint about the arguments. -/
def misuse (c : Call) (text : String) (status : Nat := 1) : Effect :=
  c.complain (text ++ "\n" ++ c.hint) status

/-- What a path can be read for: its content, or the refusal. -/
def open? (c : Call) (path : String) : Except Refusal Input := do
  if path == "/dev/stdin" || path == "/dev/fd/0" || path == "/proc/self/fd/0" then
    match c.unreadable with
    | some r => throw r
    | none => return c.input
  match (← c.files.find? c.directory path).2 with
  | .file content _ => return { bytes := content, seekable := true }
  | .program _ | .device .null => return {}
  | .device .terminal => throw .noDevice
  | .device _ => return { period := [0] }
  | .directory _ => throw .isDirectory
  | .link _ => throw .tooManyLinks

/-- Where something new can be put, or why it cannot. -/
def placeFor (c : Call) (path : String) (final : Bool := true) : Except Refusal Location := do
  let place ← c.files.locate c.directory path final
  if (c.files.at? place).isSome then return place
  if !(c.files.at? place.dropLast).any Node.isDirectory then throw .noEntry
  return place

/-- The mode of a new file. -/
def newMode (c : Call) : Nat := 0o666 - (0o666 &&& c.mask)

/-- The files with a content in a file, which is made if it is not there. -/
def withContent (c : Call) (path : String) (content : Bytes) (appends : Bool := false) :
    Except Refusal Files := do
  let place ← c.placeFor path
  match c.files.at? place with
  | some (.directory _) => throw .isDirectory
  | some (.file old mode) =>
    return c.files.put place (.file (if appends then old ++ content else content) mode)
  | some (.device .full) => throw .noSpace
  | some _ => return c.files
  | none =>
    if path.endsWith "/" then throw .isDirectory
    return c.files.put place (.file content c.newMode)

end Call

end Errand.Host
