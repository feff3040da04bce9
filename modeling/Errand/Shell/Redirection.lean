import Errand.Shell.Interpreter

/-! # Redirections

A redirection puts an open file in the place of a descriptor: a file that is opened, a copy of
another descriptor, or a document. What they lead to is expanded first, for all redirections of a
command; then they take place in order, up to the first one that is refused.

* `Redirection.apply` makes redirections take place;
* `Redirection.during` does something with redirections that end with it. -/

namespace Errand.Shell.Redirection

open Errand.Host

/-- A redirection whose target is known. -/
inductive Settled where
  | file (number : Nat) (access : Access) (path : String)
  /-- A copy of a descriptor, or nothing. -/
  | copy (number : Nat) (source : Option Nat)
  | document (number index : Nat)

/-- The number of a descriptor that a redirection changes. -/
def Settled.number : Settled → Nat
  | file n _ _ | copy n _ | document n _ => n

/-- Expands what redirections lead to. -/
def settle (i : Interpreter) : List Redirect → Run (List Settled)
  | [] => return []
  | r :: rest => do
    let s ← match r with
      | .file n access w => do
        let path ← Expansion.text i.substitute w
        pure (Settled.file n access path)
      | .copy n w => do
        match (← Expansion.text i.substitute w).toList with
        | ['-'] => pure (.copy n none)
        | [c] =>
          if c.isDigit then pure (.copy n (some (c.toNat - 48)))
          else Run.fail "Syntax error: Bad fd number"
        | _ => Run.fail "Syntax error: Bad fd number"
      | .document n index => pure (.document n index)
    return s :: (← settle i rest)

/-- The reason of a refusal for a file that is opened. -/
def openReason : Refusal → String
  | .noEntry | .notDirectory => "No such file"
  | r => r.reason

/-- The reason of a refusal for a file that is made. -/
def createReason : Refusal → String
  | .noEntry | .notDirectory => "Directory nonexistent"
  | r => r.reason

/-- The descriptor that a path is another name for. -/
def descriptorOf? (path : String) : Option Nat :=
  match path with
  | "/dev/stdin" => some 0
  | "/dev/stdout" => some 1
  | "/dev/stderr" => some 2
  | _ =>
    (["/dev/fd/", "/proc/self/fd/"].find? fun h => path.startsWith h).bind fun head =>
      Run.digits? (.ofList (path.toList.drop head.length))

/-- The mode of a new file. -/
def newMode (mask : Nat) : Nat := 0o666 - (0o666 &&& mask)

/-- Opens a path; what is refused is told apart by whether the file would have been made. -/
def openPath (access : Access) (path : String) : Run (Except Refusal Nat) := do
  let p ← Run.process
  let m ← Run.machine
  let writes := access != .read
  let opened := fun (channel : Channel) => do
    let reads := access == .read || access == .readWrite
    return .ok (← Run.addOpened { channel, reads, writes, appends := access == .append })
  match descriptorOf? path with
  | some n =>
    match p.descriptors.lookup n with
    | none => return .error .noEntry
    | some index =>
      match (m.opened[index]?).map Opened.channel with
      | some (.file place) => opened (.file place)
      | _ => return .ok index
  | none =>
    match m.files.locate p.directory path with
    | .error r => return .error r
    | .ok place =>
      match m.files.at? place with
      | some (.directory _) => if writes then return .error .isDirectory else opened .directory
      | some (.device .terminal) => return .error .noDevice
      | some (.device d) => opened (.device d)
      | some (.program _) => opened (.device .null)
      | some (.link _) => return .error .tooManyLinks
      | some (.file _ mode) =>
        if access == .write && p.options.contains 'C' then return .error .occupied
        if access == .write || access == .overwrite then
          Run.onFiles fun fs => fs.put place (.file [] mode)
        opened (.file place)
      | none =>
        if !writes then return .error .noEntry
        if !(m.files.at? place.dropLast).any Node.isDirectory || path.endsWith "/" then
          return .error (if path.endsWith "/" then .isDirectory else .noEntry)
        Run.onFiles fun fs => fs.put place (.file [] (newMode p.mask))
        opened (.file place)

/-- Makes a redirection take place. -/
def apply (i : Interpreter) (s : Settled) : Run Unit := do
  match s with
  | .file n access path =>
    match ← openPath access path with
    | .ok index => Run.setDescriptor n (some index)
    | .error r =>
      if access == .read then Run.fail ("cannot open " ++ path ++ ": " ++ openReason r)
      else Run.fail ("cannot create " ++ path ++ ": " ++ createReason r)
  | .copy n none => Run.setDescriptor n none
  | .copy n (some source) =>
    if n ≠ source then
      match (← Run.process).descriptors.lookup source with
      | some index => Run.setDescriptor n (some index)
      | none => Run.fail (toString source ++ ": " ++ Refusal.badDescriptor.reason)
  | .document n index =>
    let word := ((← Run.process).documents[index]?).getD []
    let text ← Expansion.document i.substitute word
    let now := (← Run.process).now
    let stream : Stream := { chunks := [(now, Text.Octets.bytesOf text)], endsAt := now }
    Run.setDescriptor n (some (← Run.addOpened { channel := .stream stream, reads := true }))

/-- Makes redirections take place in order; whether all of them did. -/
def applyAll (i : Interpreter) (ss : List Settled) : Run Bool := do
  try
    for s in ss do apply i s
    return true
  catch
    | .failed => return false
    | stop => throw stop

/-- The status of a command whose redirection was refused. -/
def refusedStatus : Nat := 2

/-- Puts back what the descriptors of redirections led to, unless another program has them now. -/
def restore (ss : List Settled) (saved : List (Nat × Nat)) : Run Unit := do
  if (← Run.process).isReplaced then return
  for s in ss do Run.setDescriptor s.number (saved.lookup s.number)

/-- Does something with redirections, which end with it. -/
def during (i : Interpreter) (rs : List Redirect) (body : Run Nat) : Run Nat := do
  let ss ← settle i rs
  let saved := (← Run.process).descriptors
  try
    if ← applyAll i ss then body else return refusedStatus
  finally restore ss saved

end Errand.Shell.Redirection
