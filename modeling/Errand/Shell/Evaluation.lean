import Errand.Shell.Evaluation.Simple

/-! # Carrying out commands

A shell carries out commands one after the other. It starts programs as children and waits for
them, runs the commands of a pipeline side by side, and leaves jobs in the background alone.

`Evaluation.command` carries out one command by an interpreter that carries out those inside it. -/

namespace Errand.Shell.Evaluation

open Text (Wildcard)

open Errand.Host

/-! ## Loops -/

/-- The number of rounds that a loop may have where time is limited, and where it is not. -/
def roundLimits : Nat × Nat := (20000, 10000000)

/-- Repeats a step, which gives its status and whether there is another round. -/
def repeated : Nat → Nat → Run (Nat × Bool) → Run Nat
  | 0, _, _ => Run.forever
  | rounds + 1, status, step => do
    match ← step with
    | (new, true) => repeated rounds new step
    | (new, false) => return if new = 0 then status else new

/-- A step for each of some texts. -/
def forTexts (status : Nat) (step : String → Run (Nat × Bool)) : List String → Run Nat
  | [] => return status
  | t :: rest => do
    match ← step t with
    | (new, true) => forTexts new step rest
    | (new, false) => return new

/-- A round of a loop: its status, and whether the loop goes on. -/
def round (body : Run Nat) : Run (Nat × Bool) := do
  let loops := (← Run.process).loops
  Run.onProcess fun p => { p with loops := loops + 1 }
  try return (← body, true)
  catch
    | .leaves (n + 2) goesOn => throw (.leaves (n + 1) goesOn)
    | .leaves _ goesOn => return (0, goesOn)
    | stop => throw stop
  finally Run.onProcess fun p => { p with loops := loops }

/-- A round of a loop with a condition. -/
def loopRound (i : Interpreter) (m : Manner) (untilTrue : Bool) (condition body : Command) :
    Run (Nat × Bool) := do
  match ← round (i.command ⟨false, true⟩ condition) with
  | (status, true) =>
    if (status = 0) = untilTrue then return (0, false)
    round (i.command ⟨false, m.tested⟩ body)
  | r => return r

/-- A loop with a condition. -/
def loop (i : Interpreter) (m : Manner) (untilTrue : Bool) (condition body : Command) :
    Run Nat := do
  let rounds := if (← Run.process).deadline.isSome then roundLimits.1 else roundLimits.2
  repeated rounds 0 (loopRound i m untilTrue condition body)

/-- A loop over texts. -/
def each (i : Interpreter) (m : Manner) (name : String) (words : List Word) (body : Command) :
    Run Nat := do
  let texts ← Expansion.fields i.substitute words
  forTexts 0 (fun t => do
    Run.assign name t
    round (i.command ⟨false, m.tested⟩ body)) texts

/-- The first arm of a choice that fits a text. -/
def firstArm (i : Interpreter) (m : Manner) (text : List Char) :
    List (List Word × Command) → Run Nat
  | [] => return 0
  | (patterns, body) :: rest => do
    if ← fits patterns then
      match body with
      | .nothing => return 0
      | body => i.command m body
    else firstArm i m text rest
where
  /-- Whether the text fits one of some patterns. -/
  fits : List Word → Run Bool
    | [] => return false
    | w :: ws => do
      if Wildcard.isMatch (← Expansion.pattern i.substitute w) text then return true
      else fits ws

/-! ## Processes side by side -/

/-- The commands of a pipeline from one on: they start at the same time, each reads what the one
before it wrote, and the pipeline ends when all of them have ended. -/
def stagesFrom (i : Interpreter) (m : Manner) (start : Nat) :
    Nat → Option Nat → Bool → Nat → List Command → Run Nat
  | latest, _, struck, status, [] => do
    Run.onProcess fun p => { p with now := latest }
    if struck then throw .struck
    return status
  | latest, source, struck, _, c :: rest => do
    let pipe ← Run.addPipe
    let body : Run Nat := do
      if source.isSome then Run.setDescriptor 0 source
      if !rest.isEmpty then Run.writeToPipe pipe
      i.command ⟨true, m.tested⟩ c
    Run.onProcess fun p => { p with now := start }
    let ending ← try
        pure (some (← i.subshell body))
      catch
        | .struck => pure none
        | stop => throw stop
    let ended := (← Run.process).now
    let status ← match ending with
      | some e => Run.report e
      | none => pure 0
    let stream ← Run.pipeStream pipe
    let next ← Run.addOpened { channel := .stream stream, reads := true }
    stagesFrom i m start (max latest ended) (some next) (struck || ending.isNone) status rest

/-- The commands of a pipeline. -/
def pipeline (i : Interpreter) (m : Manner) (stages : List Command) : Run Nat := do
  let start := (← Run.process).now
  let status ← stagesFrom i m start start none false 0 stages
  Run.notice
  return status

/-- How long a job in the background is looked at. -/
def jobSpan : Nat := 3600 * second

/-- Starts a job in the background: it goes on from now, and the shell goes on as well. -/
def background (i : Interpreter) (body : Run Nat) : Run Nat := do
  let start ← Run.process
  let number := (← Run.machine).fresh
  let nothing ← Run.addOpened { channel := .device .null, reads := true }
  let ending ← try
      pure (some (← i.subshell do
        Run.setDescriptor 0 (some nothing)
        Run.onProcess fun p => { p with
          deadline := some (start.now + jobSpan)
          job := if p.job = 0 then number else p.job
          traps := ("INT", "") :: ("QUIT", "") :: p.traps }
        body))
    catch
      | _ => pure none
  let ended := (← Run.process).now
  let status := (ending.map Run.Ending.toStatus).getD 0
  let signal := match ending with
    | some (.signal n) => some n
    | _ => none
  let endsAt := if ending.isSome then ended else start.now + jobSpan
  Run.onProcess fun p => { p with
    now := start.now
    jobs := ⟨number, endsAt, status, signal, false⟩ :: p.jobs
    lastJob := some number }
  return 0

/-- A command in a shell of its own, or in the shell itself if that ends with it. -/
def nested (i : Interpreter) (m : Manner) (rs : List Redirect) (c : Command) : Run Nat := do
  let ss ← Redirection.settle i rs
  let body : Run Nat := do
    if ← Redirection.applyAll i ss then i.command ⟨true, m.tested⟩ c
    else
      Run.onProcess fun p => { p with status := Redirection.refusedStatus }
      throw .failed
  if m.last && !(← Run.hasTraps) then
    Interpreter.forget
    throw (.ended (← i.finish body))
  let ending ← i.subshell body
  Run.notice
  Run.report ending

/-! ## Commands -/

/-- Commands that follow each other, in order. -/
def spine : Command → List Command → List Command
  | .sequence a b, rest => spine a (b :: rest)
  | c, rest => c :: rest

/-- Carries out commands one after the other. -/
def inOrder (i : Interpreter) (m : Manner) : List Command → Run Nat
  | [] => return 0
  | [c] => i.command m c
  | c :: rest => do
    let _ ← i.command ⟨false, m.tested⟩ c
    inOrder i m rest

/-- Whether a failure of a command is one of the shell, if the shell ends at the first one. -/
def endsShell : Command → Bool
  | .simple .. | .subshell .. | .background .. | .pipeline .. => true
  | _ => false

/-- What a command does. -/
def act (i : Interpreter) (m : Manner) (c : Command) : Run Nat := do
  match c with
  | .nothing => return (← Run.process).status
  | .simple line assignments words rs => simple i m line assignments words rs
  | .negated c => return if (← i.command ⟨false, true⟩ c) = 0 then 1 else 0
  | .pipeline stages false => pipeline i m stages
  | .pipeline stages true => background i (pipeline i {} stages)
  | .both a b =>
    let status ← i.command ⟨false, true⟩ a
    if status = 0 then i.command m b else return status
  | .either a b =>
    let status ← i.command ⟨false, true⟩ a
    if status = 0 then return 0 else i.command m b
  | .sequence _ _ => inOrder i m (spine c [])
  | .background _ c rs =>
    background i do
      let ss ← Redirection.settle i rs
      if ← Redirection.applyAll i ss then i.command ⟨true, false⟩ c
      else throw (.ended Redirection.refusedStatus)
  | .subshell line c rs =>
    Run.onProcess fun p => { p with line }
    nested i m rs c
  | .redirected line c rs =>
    Run.onProcess fun p => { p with line }
    Redirection.during i rs (i.command ⟨false, m.tested⟩ c)
  | .branch condition consequence alternative =>
    let status ← i.command ⟨false, true⟩ condition
    if status = 0 then i.command m consequence
    else match alternative with
      | some c => i.command m c
      | none => return 0
  | .loop untilTrue condition body => loop i m untilTrue condition body
  | .each line name words body =>
    Run.onProcess fun p => { p with line }
    each i m name words body
  | .select line subject arms =>
    Run.onProcess fun p => { p with line }
    let text ← Expansion.text i.substitute subject
    firstArm i m text.toList arms
  | .function line name body =>
    Run.onProcess fun p => { p with
      functions := (name, ⟨line, body⟩) :: p.functions.filter fun e => e.1 != name }
    return 0

/-- Carries out a command, unless an option says that commands are only read. -/
def command (i : Interpreter) (m : Manner) (c : Command) : Run Nat := do
  if ← Run.hasOption 'n' then return 0
  i.meetTraps
  let status ← act i m c
  let _ ← Run.conclude status
  i.meetTraps
  if status ≠ 0 && !m.tested && endsShell c && (← Run.hasOption 'e') then throw (.ended status)
  return status

end Errand.Shell.Evaluation
