import Errand.Shell.Image

/-! # The fate of a launched process

What becomes of a process is known as soon as it is launched and one knows when it will be killed:
what it writes and when, how it ends, and when the last holder of its outputs is gone. A waiting
party has what it waits for when the process has ended *and* both outputs are closed, whoever held
them. -/

namespace Errand.Host

open Errand.Shell (Emission Opened Run Sink Written)

/-- What becomes of a process. Times are in nanoseconds from the launch. -/
structure Fate where
  /-- The exit value, unless the process is still there when it is killed. -/
  exit : Option Int
  endsAt : Nat
  /-- When both outputs are closed. -/
  closesAt : Nat
  /-- What is written to the two outputs, by time. -/
  output : List Emission
  errors : List Emission
  files : Files

namespace Fate

/-- The number that the first process knows itself by. -/
def firstNumber : Nat := 4242

/-- How deep commands may stand in commands. -/
def depth : Nat := 2000

/-- The exit value of an ending: that of a process ended by a signal is below zero. -/
def exitValue : Run.Ending → Int
  | .status n => n
  | .signal n => -n

/-- The open files of a first process: an input that is empty, and two outputs. -/
def opened : Array Opened :=
  #[{ channel := .device .null, reads := true }, { channel := .sink .output, writes := true },
    { channel := .sink .errors, writes := true }]

/-- The state in which a process starts. -/
def initial (files : Files) (s : Start) (killedAt : Option Nat) : Shell.State where
  machine := { files, opened, fresh := firstNumber + 1 }
  process := {
    deadline := killedAt
    id := firstNumber
    shell := firstNumber
    directory := s.directory
    descriptors := [(0, 0), (1, 1), (2, 2)]
    bindings := s.environment.map fun e => (e.1, { value := some e.2, exported := true }) }

/-- Whether something holds one of the two outputs open. -/
def isOutput (s : Sink) : Bool := s == .output || s == .errors

/-- What was written, by time. -/
def inOrder (w : Written) : List Emission :=
  w.emissions.reverse.mergeSort fun a b => a.time ≤ b.time

/-- The fate of a process that is killed at a time, if it is still there. -/
def of (files : Files) (s : Start) (killedAt : Option Nat) : Fate :=
  let start := initial files s killedAt
  let (r, state) := ((Shell.Interpreter.ofDepth depth).image s.image).run start
  let (_, state) := Run.holdSinks.run state
  let m := state.machine
  { exit := match r with
      | .error .struck => none
      | r => some (exitValue (Run.endingOf r state.process.status))
    endsAt := state.process.now
    closesAt := (m.held.filter fun h => isOutput h.sink).foldl (fun t h => max t h.time) 0
    output := inOrder m.output
    errors := inOrder m.errors
    files := m.files }

/-- When the process has ended and both outputs are closed. -/
def doneAt (f : Fate) : Nat := max f.endsAt f.closesAt

/-- The bytes that are written before a time, or at any time. -/
def bytes (emissions : List Emission) (before : Option Nat) : Bytes :=
  (emissions.filter fun e => match before with
    | some t => e.time < t
    | none => true).flatMap (·.bytes)

end Fate

end Errand.Host
