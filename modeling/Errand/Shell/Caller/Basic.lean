import Errand.Shell.Calling

/-! # Calling other programs

What programs share that call other programs: how they complain, how they find what they call, and
what they tell about one that cannot be called. -/

namespace Errand.Shell

open Errand.Host

namespace Caller


/-- The status of a program that cannot do its own part. -/
def ownFailure : Nat := 125

/-- A complaint of a program. -/
def complain (c : Call) (text : String) (status : Nat := ownFailure) : Run Nat := do
  let e := c.complain text status
  let _ ← Run.writeAll e.writes
  return e.status

/-- A complaint about the arguments of a program. -/
def misuse (c : Call) (text : String) (status : Nat := ownFailure) : Run Nat :=
  complain c (text ++ "\n" ++ c.hint) status

/-- Does something with the options and operands of a call, or complains about them. -/
def withOptions (c : Call) (flags : List Host.Flag) (f : Host.Options.Read → Run Nat)
    (status : Nat := ownFailure) : Run Nat :=
  match Host.Options.read flags true c.arguments with
  | .ok r => f r
  | .error e => misuse c e status

/-- The status after a refusal of a program. -/
def refusedStatus (r : Refusal) : Nat := if r = .noEntry then 127 else 126

/-- What arguments start. A file that is no program is read by a shell. -/
def find (environment : List (String × String)) (arguments : List String) :
    Run (Except Refusal Image) := do
  let p ← Run.process
  let files := (← Run.machine).files
  let name := arguments.headD ""
  let strings := arguments ++ environment.map fun e => e.1 ++ "=" ++ e.2
  if name.isEmpty then return .error .noEntry
  if isTooMuch strings then return .error .tooManyArguments
  let start := fun path => match imageAt files p.directory chainLimit path arguments with
    | .error .badFormat => .ok ⟨"sh", "/bin/sh" :: path :: arguments.drop 1⟩
    | r => r
  return firstImage start none .noEntry (candidatePaths (environment.lookup searchName) name)

/-- Runs a program in place of the process; a refusal is told in some way. -/
def replace (i : Interpreter) (arguments : List String) (refused : Refusal → Run Nat) :
    Run Nat := do
  match ← find (← Run.surroundings) arguments with
  | .ok image => i.image image
  | .error r => refused r

/-- How a refusal is told after the name of a program. -/
def tell (c : Call) (head : String) (quoted : String) (r : Refusal) : Run Nat :=
  complain c (head ++ quoted ++ ": " ++ r.reason) (refusedStatus r)

end Caller

end Errand.Shell
