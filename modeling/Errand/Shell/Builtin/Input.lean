import Errand.Shell.Builtin.Basic

/-! # Commands that read

A shell reads lines into variables, and the options of its parameters one at a time. -/

namespace Errand.Shell.Builtin

open Errand.Host

/-- A line as stretches: what a backslash takes is never taken apart. The last part tells whether a
backslash takes the end of the line. -/
def stretchesOf (raw : Bool) : List Char → List Stretch × Bool
  | [] => ([], false)
  | ['\\'] => if raw then ([⟨.fields, [.char '\\' false]⟩], false) else ([], true)
  | '\\' :: c :: rest =>
    if raw then
      let (more, joins) := stretchesOf raw (c :: rest)
      (Expansion.cons .fields (.char '\\' false) more, joins)
    else
      let (more, joins) := stretchesOf raw rest
      (⟨.none, [.char c true]⟩ :: more, joins)
  | c :: rest =>
    let (more, joins) := stretchesOf raw rest
    (Expansion.cons .fields (.char c false) more, joins)

/-- Reads a line, and the lines that a backslash joins to it; the number bounds the lines. The last
part tells whether the line has an end. -/
def readStretches (raw : Bool) : Nat → Run (List Stretch × Bool)
  | 0 => return ([], false)
  | fuel + 1 => do
    match ← Run.stream 0 with
    | .error _ => return ([], false)
    | .ok s =>
      if !s.period.isEmpty then
        if (Run.bytesOfStream s).contains 10 then pure () else Run.forever
      let (line, time, ends) := Run.lineOf s.endsAt s.chunks
      Run.pause time
      Run.consume 0 (line.length + if ends then 1 else 0)
      let (stretches, joins) := stretchesOf raw (Text.Octets.ofBytes (line.filter (· != 0)))
      if joins && ends then
        let (more, ends) ← readStretches raw fuel
        return (stretches ++ more, ends)
      else return (stretches, ends)

/-- How many lines may be joined. -/
def lineLimit : Nat := 100000

/-- Gives variables the fields of a line; those that are left over are empty. -/
def assignFields : List String → List Field → Run Unit
  | [], _ => return ()
  | name :: names, fields => do
    checkName name
    Run.assign name (.ofList (Field.characters (fields.headD [])))
    assignFields names (fields.drop 1)

/-- Reads a line into variables. -/
def read (arguments : List String) : Run Nat := do
  let (given, names) ← options "r" "p" arguments
  if names.isEmpty then Run.fail "arg count"
  let raw := given.any fun g => g.1 == 'r'
  let (stretches, ends) ← readStretches raw lineLimit
  let fields := Field.split (← Expansion.separators) (some names.length) stretches
  assignFields names fields
  return if ends then 0 else 1

/-- What a letter is among those that are known: unknown, alone, or with a value. -/
def letterKind (letters : List Char) (c : Char) : Option Bool :=
  match letters.dropWhile (· != c) with
  | [] => none
  | _ :: ':' :: _ => if c == ':' then none else some true
  | _ => if c == ':' then none else some false

/-- What reading an option comes to: the letter, the value, where the next one is, and whether there
was none. -/
structure OptionRead where
  letter : String := "?"
  value : Option String := none
  place : OptionPlace
  isOver : Bool := false
  complaint : Option String := none

/-- Reads the next option of arguments. -/
def nextOption (letters : List Char) (arguments : List String) (place : OptionPlace) :
    OptionRead :=
  let isQuiet := letters.head? == some ':'
  let index := if place.index = 0 then 1 else place.index
  let current := (if 1 < index then arguments[index - 2]? else none).getD ""
  let inside := match place.offset with
    | some n => if 1 < index && n ≤ current.length then current.toList.drop n else []
    | none => []
  let word := arguments[index - 1]?
  let start : Except OptionPlace (List Char × Nat) :=
    if !inside.isEmpty then .ok (inside, index)
    else match word.map String.toList with
      | some ['-', '-'] => .error ⟨index + 1, none⟩
      | some ('-' :: c :: cs) => .ok (c :: cs, index + 1)
      | _ => .error ⟨index, none⟩
  match start with
  | .error place => { place, isOver := true }
  | .ok ([], index) => { place := ⟨index, none⟩, isOver := true }
  | .ok (c :: rest, index) =>
    let length := ((arguments[index - 2]?).getD "").length
    let next : OptionPlace :=
      ⟨index, if rest.isEmpty then some length else some (length - rest.length)⟩
    let letter := String.singleton c
    match letterKind letters c with
    | none =>
      if isQuiet then { value := some letter, place := next }
      else { place := next, complaint := some ("Illegal option -" ++ letter) }
    | some false => { letter, value := some "", place := next }
    | some true =>
      if !rest.isEmpty then { letter, value := some (.ofList rest), place := ⟨index, none⟩ }
      else match arguments[index - 1]? with
        | some v => { letter, value := some v, place := ⟨index + 1, none⟩ }
        | none =>
          if isQuiet then { letter := ":", value := some letter, place := next }
          else { place := next, complaint := some ("No arg for -" ++ letter ++ " option") }

/-- Reads the next option of the parameters, or of other arguments. -/
def getOption (arguments : List String) : Run Nat := do
  match arguments with
  | letters :: name :: rest =>
    let p ← Run.process
    let texts := if rest.isEmpty then p.parameters else rest
    let place : OptionPlace :=
      if texts.length + 1 < p.optionPlace.index then {} else p.optionPlace
    let r := nextOption letters.toList texts place
    match r.complaint with
    | some text => Run.write 2 (text ++ "\n")
    | none => pure ()
    if !r.isOver then
      match r.value with
      | some v => Run.assign "OPTARG" v
      | none => Run.unset "OPTARG"
    Run.assign Run.optionIndex (toString r.place.index)
    checkName name
    Run.assign name r.letter
    Run.onProcess fun p => { p with optionPlace := r.place }
    return if r.isOver then 1 else 0
  | _ => Run.fail "Usage: getopts optstring var [arg...]"

end Errand.Shell.Builtin
