import Errand.Host.Duration
import Errand.Host.Launching
import Errand.Shell.Command
import Errand.Shell.Signal

/-! # Processes

What a shell and the programs it starts have in common is a `Machine`: the files, what is open, what
was written, and how long the outputs were held open. What each of them has for itself is a
`Process`: a directory, variables, descriptors, and a time of its own, because processes run side by
side. A process is carried out as a `Run`, which changes both and may stop early.

A process may be given a deadline. What would go on after it is not carried out: the run is
*struck*.

Names, values and everything that is written are texts of octets. -/

namespace Errand.Shell

open Errand.Host

/-- Where something is written that others read: the outputs of the first process, and pipes. -/
inductive Sink where
  | output
  | errors
  | pipe (n : Nat)
  deriving DecidableEq, Repr

/-- Bytes that were written: when, and by which job. -/
structure Emission where
  time : Nat
  bytes : Bytes
  job : Nat

/-- A sink that was held open by a job until a time. -/
structure Hold where
  time : Nat
  sink : Sink
  job : Nat

/-- What is still to be read from a pipe or a document: bytes and the times at which they come,
and what comes again and again after that. -/
structure Stream where
  chunks : List (Nat × Bytes) := []
  period : Bytes := []
  endsAt : Nat := 0

/-- What an open file leads to. -/
inductive Channel where
  | sink (s : Sink)
  | stream (s : Stream)
  | file (place : Location)
  | device (d : Device)
  | directory

/-- An open file: where it goes on, and what can be done with it. -/
structure Opened where
  channel : Channel
  offset : Nat := 0
  reads : Bool := false
  writes : Bool := false
  appends : Bool := false

/-- What was written to a sink, the last bytes first. -/
structure Written where
  emissions : List Emission := []
  period : Bytes := []

/-- A signal on its way to a process, or to what that process has started as well. -/
structure Sent where
  target : Nat
  signal : Nat
  time : Nat
  toGroup : Bool := false

/-- What processes have in common. -/
structure Machine where
  files : Files
  output : Written := {}
  errors : Written := {}
  pipes : Array Written := #[]
  held : List Hold := []
  opened : Array Opened := #[]
  sent : List Sent := []
  /-- The number that the next process gets. -/
  fresh : Nat

/-- A variable; without a value it is only known by name. An exported one belongs to the environment
of programs. -/
structure Variable where
  value : Option String := none
  exported : Bool := false
  readOnly : Bool := false

/-- A function: where it is defined, and its body. -/
structure Function where
  line : Nat
  body : Command

/-- A job in the background: its number, when it ends and with which status, and by which signal if
it ends by one. -/
structure Job where
  number : Nat
  endsAt : Nat
  status : Nat
  signal : Option Nat := none
  /-- Whether its end was noticed. -/
  isNoticed : Bool := false

/-- Where the options of a function or script are being read: the number of the next argument, and
the place inside it. -/
structure OptionPlace where
  index : Nat := 1
  offset : Option Nat := none

/-- What a function call changes and its end restores. -/
abbrev Frame := List (String × Option Variable)

/-- What a process has for itself. Times are in nanoseconds. -/
structure Process where
  now : Nat := 0
  deadline : Option Nat := none
  /-- The number of the process, and that of the shell that it belongs to. -/
  id : Nat
  shell : Nat
  parent : Nat := 1
  /-- The processes that wait for it, directly or not. -/
  ancestors : List Nat := []
  /-- The job that the process belongs to. -/
  job : Nat := 0
  name : String := "sh"
  parameters : List String := []
  optionPlace : OptionPlace := {}
  bindings : List (String × Variable) := []
  /-- What is to be restored of variables, and of option letters, the last call first. -/
  frames : List Frame := []
  functions : List (String × Function) := []
  aliases : List (String × String) := []
  /-- The letters of the options that are set. -/
  options : List Char := []
  directory : Location
  /-- The name of the directory as it was gone to. -/
  spelled : String := "/"
  descriptors : List (Nat × Nat) := []
  line : Nat := 1
  /-- The line on which the function is defined that is being carried out. -/
  functionLine : Nat := 0
  /-- The command of the shell that speaks in complaints. -/
  speaker : Option String := none
  /-- Whether something could not be written to the output. -/
  outputFailed : Bool := false
  /-- Whether a program was put in the place of the shell, which does not come back. -/
  isReplaced : Bool := false
  /-- The programs that were found, by name, and where. -/
  known : List (String × String) := []
  /-- The status before the action that is being carried out for a signal. -/
  interrupted : Option Nat := none
  status : Nat := 0
  /-- The status of the last command whose output was taken in. -/
  substituted : Nat := 0
  /-- In how many loops it is. -/
  loops : Nat := 0
  traps : List (String × String) := []
  jobs : List Job := []
  lastJob : Option Nat := none
  documents : Array Word := #[]
  mask : Nat := 0o022
  /-- How much the process minds when others want to run. -/
  niceness : Int := 0

/-- A process on a machine. -/
structure State where
  machine : Machine
  process : Process

/-- Why a run stops before its end. -/
inductive Stop where
  /-- The process ends. -/
  | ended (status : Nat)
  /-- The command cannot go on; the status is that of the process. -/
  | failed
  | signalled (signal : Nat)
  | struck
  /-- So many loops are left; the last one is gone on with, or is left too. -/
  | leaves (levels : Nat) (goesOn : Bool)
  /-- A function or a script is left. -/
  | returns (status : Nat)
  deriving DecidableEq, Repr

/-- Something that a process does. -/
abbrev Run := ExceptT Stop (StateM State)

namespace Run

/-- Looks at the process. -/
def process : Run Process := do return (← get).process

/-- Looks at what processes have in common. -/
def machine : Run Machine := do return (← get).machine

/-- Changes the process. -/
def onProcess (f : Process → Process) : Run Unit :=
  modify fun s => { s with process := f s.process }

/-- Changes what processes have in common. -/
def onMachine (f : Machine → Machine) : Run Unit :=
  modify fun s => { s with machine := f s.machine }

/-- Changes the files. -/
def onFiles (f : Files → Files) : Run Unit := onMachine fun m => { m with files := f m.files }

/-- Waits until a time. -/
def waitUntil (time : Nat) : Run Unit := do
  let p ← process
  let time := max p.now time
  match p.deadline with
  | some d =>
    if d ≤ time then
      onProcess fun p => { p with now := d }
      throw .struck
    else onProcess fun p => { p with now := time }
  | none => onProcess fun p => { p with now := time }

/-- Whether an option is set. -/
def hasOption (letter : Char) : Run Bool := do return (← process).options.contains letter

/-! ## Signals -/

/-- Whether a process takes care of a signal, and how. -/
def trapOf (p : Process) (signal : Nat) : Option String :=
  if Signal.canBeHandled signal then p.traps.lookup (Signal.name signal) else none

/-- Whether a signal goes to a process. -/
def reaches (s : Sent) (p : Process) : Bool :=
  s.target == p.id || s.toGroup && p.ancestors.contains s.target

/-- Whether a signal ends a process. -/
def isFatal (p : Process) (s : Sent) : Bool :=
  reaches s p && (trapOf p s.signal).isNone && Signal.default s.signal == .ends

/-- The first signal that ends the process. -/
def lastSignal? : Run (Option Sent) := do
  let p ← process
  return ((← machine).sent.filter (isFatal p)).foldl (fun (first : Option Sent) s =>
    match first with
    | some f => some (if s.time < f.time then s else f)
    | none => some s) none

/-- Ends the process by a signal if that comes until a time. -/
def meetSignals (time : Nat) : Run Unit := do
  let p ← process
  if let some s ← lastSignal? then
    if s.time ≤ max p.now time then
      if p.now < s.time then waitUntil s.time else onProcess fun p => { p with now := s.time }
      throw (.signalled s.signal)

/-- Waits until a time, or until a signal ends the process. -/
def pause (time : Nat) : Run Unit := do
  meetSignals time
  waitUntil time

/-! ## Writing -/

/-- Bytes come to what was written. -/
def Written.add (w : Written) (e : Emission) : Written := { w with emissions := e :: w.emissions }

/-- Changes what was written to a sink. -/
def onSink (s : Sink) (f : Written → Written) : Run Unit :=
  onMachine fun m => match s with
    | .output => { m with output := f m.output }
    | .errors => { m with errors := f m.errors }
    | .pipe n => { m with pipes := m.pipes.modify n f }

/-- A content with bytes written over it at a place. -/
def overwritten (content bytes : Bytes) (offset : Nat) : Bytes :=
  content.take offset ++ List.replicate (offset - content.length) 0 ++ bytes ++
    content.drop (offset + bytes.length)

/-- Writes bytes to an open file; a refusal says why that cannot be done. -/
def writeOpened (index : Nat) (bytes : Bytes) : Run (Option Refusal) := do
  match (← machine).opened[index]? with
  | none => return some .badDescriptor
  | some o =>
    if !o.writes then return some .badDescriptor
    if bytes.isEmpty then return none
    let p ← process
    match o.channel with
    | .sink s =>
      onSink s fun w => Written.add w ⟨p.now, bytes, p.job⟩
      return none
    | .device .full => return some .noSpace
    | .file place =>
      let files := (← machine).files
      match files.at? place with
      | some (.file content mode) =>
        let offset := if o.appends then content.length else o.offset
        onFiles fun fs => fs.put place (.file (overwritten content bytes offset) mode)
        onMachine fun m => { m with
          opened := m.opened.modify index fun o => { o with offset := offset + bytes.length } }
      | _ => pure ()
      return none
    | _ => return none

/-- Writes bytes to a descriptor; a refusal says why that cannot be done. -/
def tryWrite (number : Nat) (bytes : Bytes) : Run (Option Refusal) := do
  if bytes.isEmpty then return none
  match (← process).descriptors.lookup number with
  | some index => writeOpened index bytes
  | none => return some .badDescriptor

/-- Writes octets to a descriptor if that can be done. -/
def write (number : Nat) (text : String) : Run Unit := do
  let _ ← tryWrite number (Text.Octets.bytesOf text)

/-- What a descriptor leads to. -/
def channel? (number : Nat) : Run (Option Channel) := do
  let opened := (← machine).opened
  return ((← process).descriptors.lookup number).bind fun i => (opened[i]?).map Opened.channel

/-- Writes octets to the output of a command of the shell. -/
def print (text : String) : Run Unit := do
  if (← tryWrite 1 (Text.Octets.bytesOf text)).isSome then
    onProcess fun p => { p with outputFailed := true }

/-- Writes octets again and again to a descriptor, without an end. -/
def writePeriod (number : Nat) (bytes : Bytes) : Run Unit := do
  match ← channel? number with
  | some (.sink s) => onSink s fun w => { w with period := bytes }
  | _ => pure ()

/-- Goes on without an end. What writes to a pipe without an end is ended when nobody reads the
pipe. -/
def forever {α : Type} : Run α := do
  if let some s ← lastSignal? then
    waitUntil s.time
    throw (.signalled s.signal)
  match ← channel? 1 with
  | some (.sink (.pipe n)) =>
    let w := ((← machine).pipes[n]?).getD {}
    if !w.period.isEmpty || !w.emissions.isEmpty then throw (.signalled 13)
  | _ => pure ()
  match (← process).deadline with
  | some d => onProcess fun p => { p with now := d }
  | none => pure ()
  throw .struck

/-! ## Complaints -/

/-- What stands before a complaint: the name of the shell, the line, and who complains. -/
def prelude : Run String := do
  let p ← process
  return p.name ++ ": " ++ toString p.line ++ ": " ++
    match p.speaker with
    | some s => s ++ ": "
    | none => ""

/-- Tells what is wrong. -/
def complain (text : String) : Run Unit := do write 2 ((← prelude) ++ text ++ "\n")

/-- Tells what is wrong; the command cannot go on. -/
def fail {α : Type} (text : String) (status : Nat := 2) : Run α := do
  complain text
  onProcess fun p => { p with status }
  throw .failed

/-- Tells what is wrong and ends. -/
def quit {α : Type} (text : String) (status : Nat) : Run α := do
  complain text
  throw (.ended status)

/-! ## Open files -/

/-- Opens a file; its number is that of the open file. -/
def addOpened (o : Opened) : Run Nat := do
  let n := (← machine).opened.size
  onMachine fun m => { m with opened := m.opened.push o }
  return n

/-- An open file in the place of a descriptor, or nothing. -/
def setDescriptor (number : Nat) (index : Option Nat) : Run Unit :=
  onProcess fun p =>
    let others := p.descriptors.filter fun d => d.1 != number
    { p with descriptors := match index with
      | some i => (number, i) :: others
      | none => others }

/-- The outputs of the process are held open until now. -/
def holdSinks : Run Unit := do
  let p ← process
  let m ← machine
  let sinks := p.descriptors.filterMap fun d => match (m.opened[d.2]?).map Opened.channel with
    | some (.sink s) => some s
    | _ => none
  onMachine fun m => { m with held := sinks.map (fun s => ⟨p.now, s, p.job⟩) ++ m.held }

/-- What can be read from an open file. -/
def streamOf (index : Nat) : Run (Except Refusal Stream) := do
  let m ← machine
  match m.opened[index]? with
  | none => return .error .badDescriptor
  | some o =>
    if !o.reads then return .error .badDescriptor
    match o.channel with
    | .stream s => return .ok s
    | .file place =>
      match m.files.at? place with
      | some (.file content _) => return .ok { chunks := [(0, content.drop o.offset)] }
      | _ => return .ok {}
    | .device .null | .device .terminal => return .ok {}
    | .device _ => return .ok { period := [0] }
    | .directory => return .error .isDirectory
    | .sink _ => return .error .badDescriptor

/-- What can be read from a descriptor. -/
def stream (number : Nat) : Run (Except Refusal Stream) := do
  match (← process).descriptors.lookup number with
  | some index => streamOf index
  | none => return .error .badDescriptor

/-- A stream without its first bytes. -/
def dropBytes : Nat → List (Nat × Bytes) → List (Nat × Bytes)
  | _, [] => []
  | n, (t, bs) :: rest =>
    if n < bs.length then (t, bs.drop n) :: rest else dropBytes (n - bs.length) rest

/-- The first bytes of what a descriptor reads are gone. -/
def consume (number count : Nat) : Run Unit := do
  match (← process).descriptors.lookup number with
  | some index => onMachine fun m => { m with
      opened := m.opened.modify index fun o => match o.channel with
        | .stream s => { o with
            channel := .stream { s with chunks := dropBytes count s.chunks } }
        | _ => { o with offset := o.offset + count } }
  | none => pure ()

/-- The bytes of a stream. -/
def bytesOfStream (s : Stream) : Bytes := s.chunks.flatMap (·.2)

/-- Reads all that comes from a descriptor: waits for its end. -/
def readAll (number : Nat) : Run Bytes := do
  match ← stream number with
  | .error _ => return []
  | .ok s =>
    if !s.period.isEmpty then forever
    let bytes := bytesOfStream s
    consume number bytes.length
    waitUntil s.endsAt
    return bytes

/-- The bytes up to an end of a line, with the time at which they are there; the last part tells
whether the line has an end. -/
def lineOf (endsAt : Nat) : List (Nat × Bytes) → Bytes × Nat × Bool
  | [] => ([], endsAt, false)
  | (t, bs) :: rest =>
    let line := bs.takeWhile (· != 10)
    if line.length < bs.length then (line, t, true)
    else
      let (more, t', ends) := lineOf endsAt rest
      (line ++ more, max t t', ends)

/-! ## Children -/

/-- A number that no process has. -/
def freshNumber : Run Nat := do
  let n := (← machine).fresh
  onMachine fun m => { m with fresh := n + 1 }
  return n

/-- How a child ends. -/
inductive Ending where
  | status (n : Nat)
  | signal (n : Nat)
  deriving DecidableEq, Repr

/-- The status that a shell gives an ending. -/
def Ending.toStatus : Ending → Nat
  | status n => n % 256
  | signal n => 128 + n

/-- How a run ends that is over: its own status, or why it stopped. -/
def endingOf (r : Except Stop Nat) (status : Nat) : Ending :=
  match r with
  | .ok n | .error (.ended n) => .status (n % 256)
  | .error .failed => .status (status % 256)
  | .error (.signalled n) => .signal n
  | .error (.returns n) => .status (n % 256)
  | .error _ => .status 0

/-- Lets a child run from now on, to its end. The child has a process of its own, and time goes on
with it. A child that is struck strikes its parent. -/
def child (body : Run Nat) : Run Ending := do
  let parent ← process
  let id ← freshNumber
  onProcess fun p => { p with id, ancestors := parent.id :: p.ancestors }
  let (r, s) := body.run (← get)
  let ended := s.process.now
  set s
  holdSinks
  onProcess fun _ => { parent with now := ended }
  match r with
  | .error .struck => throw .struck
  | r => return endingOf r s.process.status

/-- The jobs that have ended are noticed. -/
def notice : Run Unit :=
  onProcess fun p => { p with
    jobs := p.jobs.map fun j => { j with isNoticed := j.isNoticed || j.endsAt ≤ p.now } }

/-- A new pipe; its number. -/
def addPipe : Run Nat := do
  let n := (← machine).pipes.size
  onMachine fun m => { m with pipes := m.pipes.push {} }
  return n

/-- The process writes to a pipe from now on. -/
def writeToPipe (n : Nat) : Run Unit := do
  let index ← addOpened { channel := .sink (.pipe n), writes := true }
  setDescriptor 1 (some index)

/-- What was written to a pipe, as something to be read. It ends when nobody holds the pipe any
more. -/
def pipeStream (n : Nat) : Run Stream := do
  let m ← machine
  let w := (m.pipes[n]?).getD {}
  let emissions := w.emissions.reverse.mergeSort fun a b => a.time ≤ b.time
  let endsAt := (m.held.filter fun h => h.sink == .pipe n).foldl (fun t h => max t h.time) 0
  return { chunks := emissions.map fun e => (e.time, e.bytes), period := w.period, endsAt }

/-- Ends a job in the background now: nothing of what it does later happens. -/
def endJob (job signal : Nat) : Run Unit := do
  let now := (← process).now
  let cut := fun (w : Written) =>
    { w with emissions := w.emissions.filter fun e => e.job != job || e.time ≤ now }
  onMachine fun m => { m with
    output := cut m.output
    errors := cut m.errors
    pipes := m.pipes.map cut
    held := m.held.map fun h => if h.job == job then { h with time := min h.time now } else h }
  onProcess fun p => { p with
    jobs := p.jobs.map fun j =>
      if j.number = job && now < j.endsAt then ⟨job, now, 128 + signal, some signal, false⟩ else j }

end Run

end Errand.Shell
