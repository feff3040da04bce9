import Errand.Shell.Process

/-! # The variables of a shell

A shell has variables and parameters. Those that are exported are the environment of the programs
that it starts, in an order that goes by the letters of their names. A function call may make
variables its own: they are restored when it ends.

* `Run.valueOf`, `Run.assign` and `Run.unset` look at variables and change them;
* `Run.localize` makes a variable one of the innermost call, and `Run.withFrame` is such a call;
* `Run.environment` is the environment of programs. -/

namespace Errand.Shell.Run

open Errand.Host

/-- A variable. -/
def binding? (name : String) : Run (Option Variable) := do
  return (← process).bindings.lookup name

/-- The value of a variable. -/
def valueOf (name : String) : Run (Option String) := do
  return (← binding? name).bind (·.value)

/-- Puts a variable in the place of the one of its name, or behind all others. -/
def bind (bindings : List (String × Variable)) (name : String) (v : Variable) :
    List (String × Variable) :=
  if bindings.any (·.1 == name) then bindings.map fun e => if e.1 == name then (name, v) else e
  else bindings ++ [(name, v)]

/-- The number of a name by which it is ordered in an environment. -/
def order (name : String) : Nat :=
  let codes := name.toList.map Char.toNat
  (codes.foldl (· + ·) (codes.headD 0 * 16)) % 39

/-- The variables in the order of environments. -/
def ordered (bindings : List (String × Variable)) : List (String × Variable) :=
  bindings.mergeSort fun a b => order a.1 ≤ order b.1

/-- The environment of programs. -/
def environment : Run (List (String × String)) := do
  return (ordered (← process).bindings).filterMap fun e =>
    match e.2.value with
    | some v => if e.2.exported then some (e.1, v) else none
    | none => none

/-- The number that digits are, if a text is nothing else. -/
def digits? (s : String) : Option Nat :=
  let cs := s.toList
  if cs.isEmpty || !cs.all Char.isDigit then none
  else some (cs.foldl (fun n c => n * 10 + (c.toNat - 48)) 0)

/-- The name of the variable that counts the arguments whose options were read. -/
def optionIndex : String := "OPTIND"

/-- Refuses to change a variable that is only to be read. -/
def checkWritable (name : String) : Run Unit := do
  if ((← binding? name).map (·.readOnly)).getD false then fail (name ++ ": is read only")

/-- What else changes with a variable. -/
def follow (name : String) (value : Option String) : Run Unit := do
  if name == optionIndex then
    let index := match value.bind digits? with
      | some (n + 1) => n + 1
      | _ => 1
    onProcess fun p => { p with optionPlace := ⟨index, none⟩ }

/-- Gives a variable a value; an exported one stays so. -/
def assign (name value : String) (exported : Bool := false) : Run Unit := do
  checkWritable name
  let all := (← process).options.contains 'a'
  onProcess fun p =>
    let old := (p.bindings.lookup name).getD {}
    let new := { old with value := some value, exported := old.exported || exported || all }
    { p with bindings := bind p.bindings name new }
  follow name (some value)

/-- Marks a variable. -/
def mark (name : String) (f : Variable → Variable) : Run Unit :=
  onProcess fun p =>
    { p with bindings := bind p.bindings name (f ((p.bindings.lookup name).getD {})) }

/-- Drops a variable. -/
def unset (name : String) : Run Unit := do
  checkWritable name
  onProcess fun p => { p with bindings := p.bindings.filter fun e => e.1 != name }
  follow name none

/-- The name under which a call keeps the options. -/
def optionsName : String := "-"

/-- Makes a variable, or the options, one of the innermost call. -/
def localize (name : String) : Run Unit :=
  onProcess fun p =>
    match p.frames with
    | frame :: frames =>
      let kept := if name == optionsName then some { value := some (.ofList p.options) }
        else p.bindings.lookup name
      if frame.any (·.1 == name) then p
      else { p with frames := ((name, kept) :: frame) :: frames }
    | [] => p

/-- Restores the variables of the innermost call. -/
def restoreFrame : Run Unit := do
  match (← process).frames with
  | [] => pure ()
  | frame :: frames =>
    let options := (frame.lookup optionsName).bind fun v => v.bind (·.value)
    let kept := frame.filter fun e => e.1 != optionsName
    onProcess fun p => { p with
      frames := frames
      options := (options.map String.toList).getD p.options
      bindings := kept.foldl (fun bs e => match e.2 with
        | some v => bind bs e.1 v
        | none => bs.filter fun b => b.1 != e.1) p.bindings }
    for e in frame do
      if e.1 == optionIndex then follow e.1 (e.2.bind (·.value))

/-- Does something in a call of its own. -/
def withFrame {α : Type} (body : Run α) : Run α := do
  let outer := (← process).frames
  onProcess fun p => { p with frames := [] :: p.frames }
  try body
  finally
    let extra := (← process).frames.length - outer.length
    for _ in List.range extra do restoreFrame

end Errand.Shell.Run
