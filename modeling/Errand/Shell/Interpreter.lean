import Errand.Shell.Expansion
import Errand.Shell.Reader.Grammar

/-! # Carrying out scripts

A shell carries out a script one complete command after the other. What carries out a command is an
`Interpreter`; this module holds what a shell does around commands: it takes care of signals, lets
commands run in shells of their own, takes in what they write, and ends.

* `Interpreter.script` carries out a script;
* `Interpreter.subshell` and `Interpreter.substitute` carry out a command in a shell of its own;
* `Interpreter.finish` is the end of a shell. -/

namespace Errand.Shell

open Errand.Host

/-- How a command is carried out: whether the shell ends with it, and whether its status is tested,
so that a failure is none of the shell. -/
structure Manner where
  last : Bool := false
  tested : Bool := false

/-- What carries out commands, and programs in place of a process. -/
structure Interpreter where
  command : Manner → Command → Run Nat
  image : Image → Run Nat

namespace Run

/-- Whether there are actions to be carried out for signals. -/
def hasTraps : Run Bool := do return (← process).traps.any fun t => !t.2.isEmpty

/-- The status of a process that is over in some way. -/
def conclude (status : Nat) : Run Nat := do
  onProcess fun p => { p with status }
  return status

/-- Tells of a child that a signal has ended, and gives the status of the child. -/
def report (ending : Ending) : Run Nat := do
  match ending with
  | .signal n =>
    if n ≠ 2 && n ≠ 13 then write 2 (Signal.description n ++ "\n")
  | .status _ => pure ()
  return ending.toStatus

end Run

namespace Interpreter

/-- The state of a reader of a text. -/
def readerOf (text : String) : Reader.State := { items := Reader.itemsOf text.toList }

/-- The characters of items. -/
def charactersOf (items : List Reader.Item) : List Char :=
  items.filterMap fun
    | .char c => some c
    | .close _ _ => none

/-- Tells the lines that were read, if the option for that is set. -/
def tell (echoes : Bool) (before after : List Reader.Item) : Run Unit := do
  if echoes && (← Run.hasOption 'v') then
    Run.write 2 (.ofList ((charactersOf before).take (before.length - after.length)))

/-- Carries out the complete commands of a script from one on. -/
def commands (i : Interpreter) (last echoes : Bool) :
    Nat → Reader.State → Nat → Run Nat
  | 0, _, status => return status
  | fuel + 1, s, status => do
    let p ← Run.process
    match Reader.complete.run { s with aliases := p.aliases, documents := p.documents } with
    | .error e =>
      tell echoes s.items []
      Run.onProcess fun p => { p with line := e.line }
      Run.fail e.text
    | .ok (none, s') =>
      tell echoes s.items s'.items
      return status
    | .ok (some c, s') =>
      tell echoes s.items s'.items
      Run.onProcess fun p => { p with documents := s'.documents }
      match c with
      | .nothing => commands i last echoes fuel s' status
      | c =>
        let status ← i.command ⟨last && s'.hasEnded, false⟩ c
        commands i last echoes fuel s' status

/-- Carries out a script. -/
def script (i : Interpreter) (text : String) (last : Bool := false) (echoes : Bool := false) :
    Run Nat :=
  i.commands last echoes (text.length + 2) (readerOf text) 0

/-- Carries out the actions for the signals that have come. The status is kept. -/
def meetTraps (i : Interpreter) : Run Unit := do
  Run.meetSignals 0
  let p ← Run.process
  let mine := (← Run.machine).sent.filter fun s => s.target == p.id && s.time ≤ p.now
  if mine.isEmpty then return
  Run.onMachine fun m => { m with
    sent := m.sent.filter fun s => !(s.target == p.id && s.time ≤ p.now) }
  for s in mine.reverse do
    match Run.trapOf p s.signal with
    | some action =>
      if !action.isEmpty then
        let _ ← i.script action
        Run.onProcess fun q => { q with status := p.status }
    | none => if Signal.default s.signal == .stops then Run.forever

/-- The end of a shell: what it does when it ends, whatever it ends by. -/
def finish (i : Interpreter) (body : Run Nat) : Run Nat := do
  let settle := fun (r : Run Nat) => do
    try r
    catch
      | .ended n | .returns n => pure n
      | .failed => do pure (← Run.process).status
      | .leaves _ _ => pure 0
      | stop => throw stop
  let status ← settle body
  match (← Run.process).traps.lookup Signal.exitName with
  | some action =>
    Run.onProcess fun p => { p with
      status := status
      traps := p.traps.filter fun t => t.1 != Signal.exitName }
    settle do
      let _ ← i.script action
      return status
  | none => return status

/-- What a shell forgets that begins as a copy of another one. -/
def forget : Run Unit :=
  Run.onProcess fun p => { p with traps := p.traps.filter fun t => t.2.isEmpty, jobs := [] }

/-- Carries out something in a shell of its own. -/
def subshell (i : Interpreter) (body : Run Nat) : Run Run.Ending :=
  Run.child do
    forget
    i.finish body

/-- What a command writes, without the ends of lines at its end. -/
def substitute (i : Interpreter) (c : Command) : Run (List Char) := do
  match c with
  | .nothing => return []
  | c =>
    let pipe ← Run.addPipe
    let ending ← i.subshell do
      Run.writeToPipe pipe
      i.command ⟨true, false⟩ c
    let s ← Run.pipeStream pipe
    Run.pause s.endsAt
    Run.notice
    let status ← Run.report ending
    Run.onProcess fun p => { p with status := status, substituted := status }
    if !s.period.isEmpty then Run.forever
    let cs := Text.Octets.ofBytes ((Run.bytesOfStream s).filter (· != 0))
    return (cs.reverse.dropWhile (· == '\n')).reverse

end Interpreter

end Errand.Shell
