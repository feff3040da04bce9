import Errand.Host.Program
import Errand.Shell.Interpreter

/-! # Calling programs

A program that is a function of its call runs in place of a process: the call is made of what the
process has, and the effect takes place in it.

`Run.call` calls a program. -/

namespace Errand.Shell.Run

open Errand.Host

/-- The environment of the program that runs in a process. -/
def surroundings : Run (List (String × String)) := do
  return (← process).bindings.filterMap fun e => e.2.value.map (e.1, ·)

/-- Gives the process an environment. -/
def surround (environment : List (String × String)) : Run Unit :=
  onProcess fun p => { p with
    bindings := environment.map fun e => (e.1, { value := some e.2, exported := true }) }

/-- When the first bytes of a stream are there. -/
def arrival : Nat → Nat → List (Nat × Bytes) → Nat
  | _, latest, [] => latest
  | n, latest, (t, bs) :: rest =>
    if n = 0 then latest
    else arrival (n - bs.length) (max latest t) rest

/-- What a program complains about if something cannot be written. -/
def writeComplaint (c : Call) (program : String) (r : Refusal) : Effect :=
  let what := match program with
    | "head" | "tail" => "error writing 'standard output': "
    | "yes" => "standard output: "
    | _ => "write error: "
  c.complain (what ++ r.reason)

/-- Writes what an effect writes; the refusal of the output, if there is one. -/
def writeAll : List (Nat × Bytes) → Run (Option Refusal)
  | [] => return none
  | (n, bs) :: rest => do
    let r ← tryWrite n bs
    let later ← writeAll rest
    return if n = outputNumber then r.or later else later

/-- Writes what comes from a stream as it comes. -/
def copyStream (chunks : List (Nat × Bytes)) : Run (Option Refusal) := do
  match chunks with
  | [] => return none
  | (t, bs) :: rest =>
    pause t
    match ← tryWrite outputNumber bs with
    | some r => return some r
    | none => copyStream rest

/-- Makes an effect take place, of a call that reads a stream. -/
def apply (c : Call) (program : String) (s : Stream) (e : Effect) : Run Nat := do
  match e.left with
  | some rest =>
    consume 0 (c.input.bytes.length - rest.bytes.length)
    if !e.copies then
      pause (match e.awaits with
        | some n => arrival n 0 s.chunks
        | none => if e.isEndless then 0 else s.endsAt)
  | none => pure ()
  if let some files := e.files then onMachine fun m => { m with files }
  let mut refusal ← writeAll e.writes
  if e.copies then
    refusal := refusal.or (← copyStream s.chunks)
    if refusal.isNone && !s.period.isEmpty then
      refusal ← tryWrite outputNumber s.period
      if refusal.isNone then
        writePeriod outputNumber s.period
        forever
    if refusal.isNone then pause s.endsAt
  if refusal.isNone && !e.period.isEmpty then
    refusal ← tryWrite outputNumber e.period
    if refusal.isNone then
      writePeriod outputNumber e.period
      forever
  match refusal with
  | some r =>
    let _ ← writeAll (writeComplaint c program r).writes
    return 1
  | none =>
    if e.isEndless then forever
    if e.lasts ≠ 0 then pause ((← process).now + e.lasts)
    return e.status

/-- The call that arguments make, and the stream that it reads. -/
def callOf (program : String) (arguments : List String) : Run (Call × Stream) := do
  let p ← process
  let read ← stream 0
  let seekable := match ← channel? 0 with
    | some (.file _) => true
    | _ => false
  let s : Stream := read.toOption.getD {}
  return ({
    name := arguments.headD program
    arguments := arguments.drop 1
    input := { bytes := bytesOfStream s, period := s.period, seekable }
    unreadable := match read with
      | .ok _ => none
      | .error r => some r
    files := (← machine).files
    directory := p.directory
    environment := ← surroundings
    mask := p.mask }, s)

/-- Calls a program that is known by a name. -/
def call (name : String) (program : Call → Effect) (arguments : List String) : Run Nat := do
  let (c, s) ← callOf name arguments
  apply c name s (program c)

end Errand.Shell.Run
