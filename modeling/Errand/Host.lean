import Errand.Execution.Scene
import Errand.Host.Fate
import Errand.Host.Limit
import Errand.Text.Newlines

/-! # Hosts

A host launches processes and lets parties wait for them. It has files, which processes change, and
an environment; when waiting parties are cancelled is known beforehand. `Host.world` is the world in
which a host answers. -/

namespace Errand

/-- A host: its files, where this program runs on it and in which environment, when waiting parties
are cancelled, and what was started last. -/
structure Host where
  files : Host.Files
  directory : Host.Location
  environment : List (String × String) := []
  /-- The number of seconds after which a waiting party is cancelled. -/
  cancelAfter : Option Float := none
  started : Option Host.Start := none

namespace Host

/-- What a process wrote to its output as a text: it must be one, and every line ends the same
way. -/
def textOf (bs : Bytes) : Except Fault Capture :=
  match Text.Utf8.decode? bs with
  | .ok s => .ok (.text (Text.unifyNewlines s))
  | .error m => .error (.undecodable m)

/-- What launching answers with when the process has ended by itself: both outputs are texts, or
the first one that is none is complained about. -/
def ended (exitValue : Int) (stdout stderr : Bytes) : RunAnswer :=
  match textOf stdout, textOf stderr with
  | .ok out, .ok err => .exited exitValue out err
  | .error f, _ => .raised f
  | _, .error f => .raised f

/-- What launching answers with at the end of a fate. -/
def exitedWith (f : Fate) : RunAnswer :=
  ended (f.exit.getD (-9)) (Fate.bytes f.output none) (Fate.bytes f.errors none)

/-- The bytes that were read before time was up. -/
def partialOutput (bs : Bytes) : Capture := if bs.isEmpty then .nothing else .bytes bs

/-- Launching a process and waiting for its end. What was read when time is up is known only if the
process still had its outputs open then. -/
def run (r : Request) (timeout : Value) (h : Host) : Reply RunAnswer Host :=
  match launch h.files h.directory h.environment r with
  | .error f => ⟨.raised f, none, h⟩
  | .ok s =>
    match Limit.ofBlocking timeout with
    | .refused f => ⟨.raised f, none, h⟩
    | .atOnce => ⟨.timedOut .nothing .nothing, none, h⟩
    | limit =>
      let fate := Fate.of h.files s limit.time?
      let after := { h with files := fate.files }
      match limit.time? with
      | some t =>
        if fate.exit.isSome && fate.doneAt < t then
          ⟨exitedWith fate, some (inSeconds fate.doneAt), after⟩
        else if t ≤ fate.closesAt then
          ⟨.timedOut (partialOutput (Fate.bytes fate.output (some t)))
            (partialOutput (Fate.bytes fate.errors (some t))), some (inSeconds t), after⟩
        else ⟨.timedOut .nothing .nothing, some (inSeconds t), after⟩
      | none => ⟨exitedWith fate, some (inSeconds fate.doneAt), after⟩

/-- Launching a process. -/
def start (r : Request) (h : Host) : Reply (Except Fault Nat) Host :=
  match launch h.files h.directory h.environment r with
  | .error f => ⟨.error f, none, h⟩
  | .ok s => ⟨.ok Fate.firstNumber, none, { h with started := some s }⟩

/-- The earlier of two times. -/
def earlier : Option Nat → Option Nat → Option Nat
  | some a, some b => some (min a b)
  | a, b => a.or b

/-- Whether a time is before another one, which may never come. -/
def isBefore (time : Nat) : Option Nat → Bool
  | some t => time < t
  | none => true

/-- Waiting for the output and the end of the process that was started, in a way that can be
cancelled. -/
def output (timeout : Value) (h : Host) : Reply OutputAnswer Host :=
  match h.started with
  | none => ⟨.exited 0 (some []) (some []), none, h⟩
  | some s =>
    match Limit.ofCooperative timeout with
    | .refused f => ⟨.raised f, none, h⟩
    | limit =>
      let cancelledAt := h.cancelAfter.map nanoseconds
      let fate := Fate.of h.files s (earlier limit.time? cancelledAt)
      let after := { h with files := fate.files }
      let isDone := fate.exit.isSome || (limit.time?.isNone && cancelledAt.isNone)
      if isDone && isBefore fate.doneAt limit.time? && isBefore fate.doneAt cancelledAt then
        ⟨.exited (fate.exit.getD (-9)) (some (Fate.bytes fate.output none))
          (some (Fate.bytes fate.errors none)), some (inSeconds fate.doneAt), after⟩
      else
        match limit.time?, cancelledAt with
        | some t, some c =>
          if t ≤ c then ⟨.timedOut, some (inSeconds t), after⟩
          else ⟨.cancelled fate.exit, some (inSeconds c), after⟩
        | some t, none => ⟨.timedOut, some (inSeconds t), after⟩
        | none, some c => ⟨.cancelled fate.exit, some (inSeconds c), after⟩
        | none, none => ⟨.timedOut, none, after⟩

/-- The world in which a host answers. -/
def world : World Host where
  run := run
  start := start
  output := output
  kill h := ⟨.ok (), none, h⟩
  reap h := ⟨.exited, none, h⟩

end Host

end Errand
