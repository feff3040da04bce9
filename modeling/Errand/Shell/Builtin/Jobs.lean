import Errand.Shell.Builtin.Basic

/-! # Commands about jobs and signals

A shell waits for its jobs, sends signals, and says what it does about those that it gets. -/

namespace Errand.Shell.Builtin

open Errand.Host

/-! ## Jobs -/

/-- Jobs in the order in which they were started. -/
def jobsInOrder : Run (List Job) := do return (← Run.process).jobs.reverse

/-- Waits until a time; a signal that the shell takes care of ends the wait, with its status. -/
def await (time : Nat) : Run (Option Nat) := do
  let p ← Run.process
  let isTaken := fun (s : Sent) => s.target == p.id && s.time ≤ time &&
    ((Run.trapOf p s.signal).map fun a => !a.isEmpty).getD false
  match (← Run.machine).sent.reverse.find? isTaken with
  | some s =>
    Run.pause s.time
    return some (128 + s.signal)
  | none =>
    Run.pause time
    return none

/-- The job that an argument names. -/
def jobOf (a : String) : Run (Option Job) := do
  let jobs ← jobsInOrder
  match a.toList with
  | '%' :: cs =>
    let found := match cs with
      | [] | ['%'] | ['+'] => jobs.getLast?
      | ['-'] => jobs.dropLast.getLast?
      | _ => (Run.digits? (.ofList cs)).bind fun n => if n = 0 then none else jobs[n - 1]?
    match found with
    | some j => return some j
    | none => Run.fail ("No such job: " ++ a)
  | _ =>
    let n ← number a
    return jobs.find? fun j => j.number = n

/-- Waits for jobs. -/
def wait (arguments : List String) : Run Nat := do
  let (_, operands) ← options "" "" arguments
  match operands with
  | [] =>
    let last := ((← Run.process).jobs.map (·.endsAt)).foldl max 0
    let r ← await last
    Run.notice
    return r.getD 0
  | _ =>
    let mut status := 127
    for a in operands do
      match ← jobOf a with
      | some j =>
        match ← await j.endsAt with
        | some s => return s
        | none =>
          match j.signal with
          | some n => if !j.isNoticed then let _ ← Run.report (.signal n)
          | none => pure ()
          Run.notice
          status := j.status
      | none => status := 127
    return status

/-- Lists the jobs. -/
def jobs (_ : List String) : Run Nat := do
  let all ← jobsInOrder
  let now := (← Run.process).now
  let count := all.length
  for (j, n) in all.zipIdx 1 do
    let isRunning := now < j.endsAt
    let state := if isRunning then "Running"
      else if j.status = 0 then "Done"
      else if j.signal.isSome then Signal.description (j.signal.getD 0)
      else "Done(" ++ toString j.status ++ ")"
    let mark := if n = count then "+" else if n + 1 = count then "-" else " "
    let head := "[" ++ toString n ++ "] " ++ mark ++ " " ++ state
    Run.print (head ++ String.ofList (List.replicate (33 - head.length) ' ') ++ "\n")
  Run.onProcess fun p => { p with jobs := p.jobs.filter fun j => now < j.endsAt }
  return 0

/-- A job in front, or going on: there is no control of jobs. -/
def resume (arguments : List String) : Run Nat := do
  match arguments with
  | a :: _ =>
    let _ ← jobOf a
    Run.fail ("job " ++ a ++ " not created under job control")
  | [] => Run.fail "No current job"

/-! ## Signals -/

/-- What a shell does about signals. -/
def trap (arguments : List String) : Run Nat := do
  let (_, operands) ← options "" "" arguments
  match operands with
  | [] =>
    let traps := (← Run.process).traps.filterMap fun t => (Signal.ofText? t.1).map (·, t)
    for (_, t) in traps.mergeSort fun a b => a.1 ≤ b.1 do
      Run.print ("trap -- " ++ quoted t.2 ++ " " ++ t.1 ++ "\n")
    return 0
  | first :: rest =>
    if rest.isEmpty || (Run.digits? first).isSome && (Signal.ofText? first).isSome then
      setAll none operands
    else setAll (if first == "-" then none else some first) rest
where
  /-- Sets what is done about each of some signals. -/
  setAll (action : Option String) : List String → Run Nat
    | [] => return 0
    | s :: rest => do
      match Signal.ofText? s with
      | none =>
        Run.write 2 ("trap: " ++ s ++ ": bad trap\n")
        return 1
      | some n =>
        Run.onProcess fun p =>
          let others := p.traps.filter fun t => t.1 != Signal.name n
          { p with traps := (action.map fun a => (Signal.name n, a)).toList ++ others }
        setAll action rest

/-- How `kill` is used. -/
def killUsage : String :=
  "Usage: kill [-s sigspec | -signum | -sigspec] [pid | job]... or\nkill -l [exitstatus]"

/-- Sends a signal to a process; whether there is one. -/
def send (signal target : Nat) : Run Bool := do
  let p ← Run.process
  if p.jobs.any fun j => j.number = target && p.now < j.endsAt then
    if signal ≠ 0 && Signal.default signal == .ends then Run.endJob target signal
    return true
  if p.jobs.any fun j => j.number = target then return true
  if target = p.id || target = p.shell || target = p.parent || p.ancestors.contains target then
    if signal ≠ 0 then
      Run.onMachine fun m => { m with sent := ⟨target, signal, p.now, false⟩ :: m.sent }
    return true
  return false

/-- Lists the signals, or the name of one. -/
def listSignals (operands : List String) : Run Nat := do
  match operands with
  | [] => Run.print ("0\n" ++ String.join (Signal.names.map (· ++ "\n")))
  | a :: _ =>
    let n ← number a
    let signal := if 128 < n then n - 128 else n
    if signal = 0 || Signal.names.length < signal then
      Run.fail ("invalid signal number or exit status: " ++ a)
    Run.print (Signal.name signal ++ "\n")
  return 0

/-- Sends a signal to processes and jobs. -/
def killAll (signal : Nat) (targets : List String) : Run Nat := do
  if targets.isEmpty then Run.fail killUsage
  let mut status := 0
  for t in targets do
    let isThere ← match t.toList with
      | '%' :: _ => do
        match ← jobOf t with
        | some j => send signal j.number
        | none => pure false
      | '-' :: cs => do
        let n ← number (.ofList cs)
        send signal n
      | _ => do send signal (← number t)
    if !isThere then
      Run.complain "No such process\n"
      status := 1
  return status

/-- Sends signals, or lists them. -/
def kill (arguments : List String) : Run Nat := do
  match arguments with
  | [] => Run.fail killUsage
  | a :: rest =>
    let direct := match a.toList with
      | '-' :: c :: cs => (Signal.ofText? (.ofList (c :: cs))).filter fun n =>
          n ≠ 0 || (c :: cs).all Char.isDigit
      | _ => none
    match direct with
    | some signal => killAll signal rest
    | none =>
      let (given, operands) ← options "l" "s" arguments
      if given.any fun g => g.1 == 'l' then listSignals operands
      else match given.reverse.findSome? (·.2) with
        | none => killAll 15 operands
        | some s =>
          match (Signal.ofText? s).filter fun n => n ≠ 0 || (Run.digits? s).isSome with
          | some signal => killAll signal operands
          | none => Run.fail ("invalid signal number or name: " ++ s)

/-! ## Limits -/

/-- A number in base eight, with at least four digits. -/
def inOctal (n : Nat) : String :=
  let ds := Nat.toDigits 8 n
  .ofList (List.replicate (4 - ds.length) '0' ++ ds)

/-- The letters of what is allowed by three bits. -/
def allowed (bits : Nat) : String :=
  String.join ([(4, "r"), (2, "w"), (1, "x")].map fun b => if bits &&& b.1 != 0 then b.2 else "")

/-- The bits that letters stand for, in each of the groups that are meant. -/
def clauseBits (groups : List Char) (letters : List Char) : Nat :=
  let bits := letters.foldl (fun n c => n ||| (([('r', 4), ('w', 2), ('x', 1)].lookup c).getD 0)) 0
  let means := fun c => groups.isEmpty || groups.contains 'a' || groups.contains c
  (if means 'u' then bits * 64 else 0) + (if means 'g' then bits * 8 else 0) +
    if means 'o' then bits else 0

/-- What is allowed after a clause of a mode, if it is one. -/
def afterClause? (mode : Nat) (clause : List Char) : Option Nat :=
  let groups := clause.takeWhile "ugoa".toList.contains
  match clause.drop groups.length with
  | sign :: letters =>
    if !letters.all "rwx".toList.contains then none
    else
      let bits := clauseBits groups letters
      let all := clauseBits groups "rwx".toList
      match sign with
      | '+' => some (mode ||| bits)
      | '-' => some (mode - (mode &&& bits))
      | '=' => some (mode - (mode &&& all) + bits)
      | _ => none
  | [] => none

/-- The bits that new files do not get. -/
def umask (arguments : List String) : Run Nat := do
  let (given, operands) ← options "S" "" arguments
  let mask := (← Run.process).mask
  match operands with
  | [] =>
    let free := 0o777 - mask
    Run.print (if given.isEmpty then inOctal mask ++ "\n"
      else "u=" ++ allowed (free / 64) ++ ",g=" ++ allowed (free / 8 % 8) ++ ",o=" ++
        allowed (free % 8) ++ "\n")
  | a :: _ =>
    let cs := a.toList
    let new ← if (cs.head?.map Char.isDigit).getD false then
        if cs.all (Numeral.isDigitOf 8) then pure (Numeral.valueOf 8 cs % 512)
        else Run.fail ("Illegal number: " ++ a)
      else
        let clauses := (a.splitOn ",").map String.toList
        match clauses.foldlM afterClause? (0o777 - mask) with
        | some mode => pure (0o777 - mode)
        | none => Run.fail ("Illegal mode: " ++ a)
    Run.onProcess fun p => { p with mask := new }
  return 0

/-- The times that a shell and its children have used. -/
def times (_ : List String) : Run Nat := do
  let line := "0m0.000000s 0m0.000000s\n"
  Run.print (line ++ line)
  return 0

/-- The limits of a shell: there are none on what it uses. -/
def ulimit (arguments : List String) : Run Nat := do
  let (_, operands) ← options "HSatfdscmlpnvwr" "" arguments
  if operands.isEmpty then Run.print "unlimited\n"
  return 0

end Errand.Shell.Builtin
