import Errand.Shell.Caller.Basic

/-! # Programs with a limit of time

A program is started as a child, and a signal is sent to it after a time, and maybe another one that
ends it for sure. -/

namespace Errand.Shell

open Errand.Host

namespace Caller

/-- The signal that an option names. -/
def signalOf? (s : String) : Option Nat :=
  let cs := s.toList
  Signal.ofText? (if "SIG".toList.isPrefixOf cs then .ofList (cs.drop 3) else s)

/-- Runs a program as a child, to which a signal is sent after a time. -/
def limited (i : Interpreter) (c : Call) (r : Host.Options.Read) (time : Nat)
    (killAfter : Option Nat) (signal : Nat) (operands : List String) : Run Nat := do
  let p ← Run.process
  let limit := p.now + time
  let child := (← Run.machine).fresh
  let outer := (← Run.machine).sent
  let second := killAfter.map fun n => (⟨child, 9, limit + n, true⟩ : Sent)
  Run.onMachine fun m => { m with
    sent := ⟨child, signal, limit, true⟩ :: second.toList ++ m.sent }
  let ending ← Run.child (replace i operands
    (tell c "failed to run command " (c.quoted (operands.headD ""))))
  Run.onMachine fun m => { m with sent := outer }
  let timedOut := limit ≤ (← Run.process).now
  if timedOut && r.has 'v' then
    let _ ← complain c ("sending signal " ++ Signal.name signal ++ " to command " ++
      c.quoted (operands.headD ""))
  match ending with
  | .status n => return if timedOut && !r.has 'p' then 124 else n
  | .signal n =>
    if !timedOut || n = 9 then throw (.signalled n)
    return if r.has 'p' then 128 + n else 124

/-- Runs a program that is ended after a time. -/
def timeout (i : Interpreter) (c : Call) : Run Nat :=
  let flags : List Host.Flag := [⟨'k', "kill-after", .value⟩, ⟨'s', "signal", .value⟩,
    ⟨'v', "verbose", .nothing⟩, ⟨'p', "preserve-status", .nothing⟩,
    ⟨'f', "foreground", .nothing⟩]
  withOptions c flags fun r => do
    let wrong := fun (s : String) => misuse c ("invalid time interval " ++ c.quoted s)
    let kill := r.value? 'k'
    if let some s := kill.filter fun s => (Program.interval? s).isNone then return ← wrong s
    let named := r.value? 's'
    if let some s := named.filter fun s => (signalOf? s).isNone then
      return ← misuse c (c.quoted s ++ ": invalid signal")
    match r.operands with
    | [] | [_] =>
      Run.write 2 (c.hint ++ "\n")
      return ownFailure
    | time :: operands =>
      match Program.interval? time with
      | none => wrong time
      | some 0 =>
        replace i operands (tell c "failed to run command " (c.quoted (operands.headD "")))
      | some n =>
        limited i c r n (kill.bind Program.interval?) ((named.bind signalOf?).getD 15) operands

end Caller

end Errand.Shell
