import Errand.Host.Printing
import Errand.Shell.Redirection
import Errand.Shell.Test

/-! # Commands that a shell carries out itself

These commands look at the process of the shell and change it. What a command prints comes after
what it complains about.

This module holds what they have in common, and those that print, move and count. -/

namespace Errand.Shell.Builtin

open Errand.Host

/-- An option that was given, with its value. -/
abbrev Given := Char × Option String

/-- The letters that share a dash, and the arguments after them. -/
def readLetters (known : List (Char × Bool)) (done : List Given) :
    List Char → List String → Except String (List Given × List String)
  | [], rest => .ok (done, rest)
  | c :: cs, rest =>
    match known.lookup c with
    | none => .error ("Illegal option -" ++ String.singleton c)
    | some false => readLetters known (done ++ [(c, none)]) cs rest
    | some true =>
      if !cs.isEmpty then .ok (done ++ [(c, some (.ofList cs))], rest)
      else match rest with
        | v :: rest => .ok (done ++ [(c, some v)], rest)
        | [] => .error ("No arg for -" ++ String.singleton c ++ " option")

/-- Takes the options off arguments; the number bounds the arguments. -/
def readOptions (known : List (Char × Bool)) :
    Nat → List Given → List String → Except String (List Given × List String)
  | 0, done, rest => .ok (done, rest)
  | _ + 1, done, [] => .ok (done, [])
  | fuel + 1, done, a :: rest =>
    match a.toList with
    | ['-', '-'] => .ok (done, rest)
    | '-' :: c :: cs => do
      let (done, rest) ← readLetters known done (c :: cs) rest
      readOptions known fuel done rest
    | _ => .ok (done, a :: rest)

/-- Takes the options off arguments; the letters that take a value come second. -/
def options (plain valued : String) (arguments : List String) :
    Run (List Given × List String) := do
  let known := plain.toList.map (·, false) ++ valued.toList.map (·, true)
  match readOptions known (arguments.length + 1) [] arguments with
  | .ok r => return r
  | .error text => Run.fail text

/-- The number that a text is. -/
def number (s : String) : Run Nat := do
  match Test.numberOf s with
  | .ok n => if 0 ≤ n && n < 2147483648 then return n.toNat else Run.fail ("Illegal number: " ++ s)
  | .error text => Run.fail text

/-- The texts in single quotes that a text is; quotes in it stand in double quotes. -/
def quoteOn : Nat → List Char → List Char
  | 0, _ => []
  | fuel + 1, cs =>
    let plain := cs.takeWhile (· != '\'')
    let rest := cs.drop plain.length
    let marks := rest.takeWhile (· == '\'')
    let after := rest.drop marks.length
    '\'' :: plain ++ ['\''] ++ (if marks.isEmpty then [] else '"' :: marks ++ ['"']) ++
      if after.isEmpty then [] else quoteOn fuel after

/-- A text as a script would write it. -/
def quoted (s : String) : String := .ofList (quoteOn (s.length + 1) s.toList)

/-- Variables as a script would write them, by name. -/
def listing (head : String) (p : Variable → Bool) : Run String := do
  let bindings := (← Run.process).bindings.filter fun e => p e.2
  let sorted := bindings.mergeSort fun a b => a.1 ≤ b.1
  return String.join (sorted.map fun e =>
    head ++ (if head.isEmpty then "" else " ") ++ e.1 ++
      (match e.2.value with
        | some v => "=" ++ quoted v
        | none => "") ++ "\n")

/-- A name and what comes after the sign that assigns it. -/
def splitAssignment (a : String) : String × Option String :=
  let name := a.toList.takeWhile (· != '=')
  (.ofList name, match a.toList.drop name.length with
    | _ :: value => some (.ofList value)
    | [] => none)

/-- Refuses what is no name. -/
def checkName (name : String) : Run Unit := do
  if !isName name.toList then Run.fail (name ++ ": bad variable name")

/-! ## Printing -/

/-- Prints arguments with blanks between them. -/
def echo (arguments : List String) : Run Nat := do
  Run.print (.ofList (Printing.echo .shell arguments))
  return 0

/-- Prints arguments by a format. -/
def printf (arguments : List String) : Run Nat := do
  let (_, operands) ← options "" "" arguments
  match operands with
  | [] => Run.fail "usage: printf format [arg ...]"
  | format :: rest =>
    let (p, _) := Printing.printf .shell format rest
    for (_, text) in p.complaints do Run.complain text
    let out := String.ofList p.out
    match p.broken with
    | some text =>
      Run.complain text
      Run.print out
      Run.onProcess fun p => { p with status := 2 }
      throw .failed
    | none =>
      Run.print out
      return if p.flawed then 1 else 0

/-- Tests something; under the name of a bracket, the last argument closes it. -/
def test (isBracket : Bool) (arguments : List String) : Run Nat := do
  if isBracket && arguments.getLast? != some "]" then Run.fail "missing ]"
  let s : Test.Surroundings := ⟨(← Run.machine).files, (← Run.process).directory⟩
  match Test.evaluate s (if isBracket then arguments.dropLast else arguments) with
  | .ok b => return if b then 0 else 1
  | .error text => Run.fail text

/-! ## Directories -/

/-- A path from the root as it is gone along name by name, without looking at links. -/
def goneAlong (start : List String) (names : List String) : List String :=
  names.foldl (fun done n =>
    if n.isEmpty || n == "." then done
    else if n == ".." then done.dropLast
    else done ++ [n]) start

/-- The name of a directory after going along a path. -/
def spelledAfter (spelled path : String) : String :=
  let start := if path.startsWith "/" then [] else goneAlong [] (spelled.splitOn "/")
  let double := path.startsWith "//" && !path.startsWith "///" ||
    !path.startsWith "/" && spelled.startsWith "//"
  (if double then "/" else "") ++ Files.text (goneAlong start (path.splitOn "/"))

/-- Goes to a directory; whether that can be done. -/
def goTo (isPhysical : Bool) (path : String) : Run Bool := do
  let p ← Run.process
  let target := if isPhysical then path else spelledAfter p.spelled path
  match (← Run.machine).files.directory? p.directory target with
  | .error _ => return false
  | .ok place =>
    let spelled := if isPhysical then Files.text place else target
    Run.assign "OLDPWD" p.spelled true
    Run.onProcess fun p => { p with directory := place, spelled }
    Run.assign "PWD" spelled true
    return true

/-- Whether a path says itself where it begins. -/
def isAnchored (path : String) : Bool :=
  path.startsWith "/" || path == "." || path == ".." || path.startsWith "./" ||
    path.startsWith "../"

/-- Whether the last of the options for directories asks for places instead of names. -/
def wantsPlaces (given : List Given) : Bool := (given.getLast?.map (·.1)) == some 'P'

/-- Changes the directory. -/
def cd (arguments : List String) : Run Nat := do
  let (given, operands) ← options "LP" "" arguments
  let isPhysical := wantsPlaces given
  let (path, tells) ← match operands with
    | [] => do pure ((← Run.valueOf "HOME").getD "", false)
    | "-" :: _ => do pure ((← Run.valueOf "OLDPWD").getD "", true)
    | a :: _ => pure (a, false)
  let path := if path.isEmpty then "." else path
  let entries := ((← Run.valueOf "CDPATH").getD "").splitOn ":"
  let files := (← Run.machine).files
  let here := (← Run.process).directory
  let entry := if isAnchored path then none else entries.find? fun e =>
    (files.directory? here (entryPath e path)).toOption.isSome
  let (target, tells) := match entry with
    | some e => (entryPath e path, tells || !e.isEmpty)
    | none => (path, tells)
  if !(← goTo isPhysical target) then Run.fail ("can't cd to " ++ path)
  if tells then Run.print ((← Run.process).spelled ++ "\n")
  return 0

/-- Prints the directory. -/
def pwd (arguments : List String) : Run Nat := do
  let (given, _) ← options "LP" "" arguments
  let p ← Run.process
  Run.print ((if wantsPlaces given then Files.text p.directory else p.spelled) ++ "\n")
  return 0

/-! ## Parameters and variables -/

/-- Marks variables, or lists those that are marked. -/
def markAll (head : String) (f : Variable → Variable) (p : Variable → Bool)
    (arguments : List String) : Run Nat := do
  let (given, operands) ← options "p" "" arguments
  if !given.isEmpty || operands.isEmpty then
    Run.print (← listing head p)
    return 0
  for a in operands do
    let (name, value) := splitAssignment a
    checkName name
    match value with
    | some v =>
      Run.assign name v
      Run.mark name f
    | none => Run.mark name f
  return 0

/-- Puts variables into the environment. -/
def exportAll : List String → Run Nat :=
  markAll "export" (fun v => { v with exported := true }) (·.exported)

/-- Keeps variables from being changed. -/
def readOnly : List String → Run Nat :=
  markAll "readonly" (fun v => { v with readOnly := true }) (·.readOnly)

/-- Makes variables those of a function call. -/
def localAll (arguments : List String) : Run Nat := do
  if (← Run.process).frames.isEmpty then Run.fail "not in a function"
  for a in arguments do
    let (name, value) := splitAssignment a
    if a != Run.optionsName then checkName name
    Run.localize name
    match value with
    | some v => Run.assign name v
    | none => if a != Run.optionsName then Run.mark name id
  return 0

/-- Drops variables or functions. -/
def unset (arguments : List String) : Run Nat := do
  let (given, operands) ← options "vf" "" arguments
  let functions := (given.getLast?.map (·.1)) == some 'f'
  for name in operands do
    if functions then
      Run.onProcess fun p => { p with functions := p.functions.filter fun e => e.1 != name }
    else
      checkName name
      Run.unset name
  return 0

/-- Drops parameters. -/
def shift (arguments : List String) : Run Nat := do
  let n ← match arguments with
    | [] => pure 1
    | a :: _ => number a
  if (← Run.process).parameters.length < n then Run.fail "can't shift that many"
  Run.onProcess fun p => { p with parameters := p.parameters.drop n, optionPlace := {} }
  return 0

/-- Leaves or goes on with loops. -/
def leave (goesOn : Bool) (arguments : List String) : Run Nat := do
  let n ← match arguments with
    | [] => pure 1
    | a :: _ => do
      let n ← number a
      if n = 0 then Run.fail ("Illegal number: " ++ a)
      pure n
  let loops := (← Run.process).loops
  if loops = 0 then return 0
  throw (.leaves (min loops n) goesOn)

/-- Leaves a function or a script. -/
def leaveFunction (arguments : List String) : Run Nat := do
  match arguments with
  | [] => throw (.returns (← Run.process).status)
  | a :: _ => throw (.returns (← number a))

/-- Ends the shell. -/
def exit (arguments : List String) : Run Nat := do
  let p ← Run.process
  match arguments with
  | [] => throw (.ended (p.interrupted.getD p.status))
  | a :: _ => throw (.ended ((← number a) % 256))

/-! ## Options -/

/-- The options by name and letter. -/
def optionNames : List (String × Option Char) :=
  [("errexit", some 'e'), ("noglob", some 'f'), ("ignoreeof", some 'I'), ("interactive", some 'i'),
    ("monitor", some 'm'), ("noexec", some 'n'), ("stdin", some 's'), ("xtrace", some 'x'),
    ("verbose", some 'v'), ("vi", some 'V'), ("emacs", some 'E'), ("noclobber", some 'C'),
    ("allexport", some 'a'), ("notify", some 'b'), ("nounset", some 'u'),
    ("privileged", some 'p'), ("nolog", none), ("debug", none)]

/-- Sets an option, or not any more. -/
def setOption (letter : Char) (value : Bool) : Run Unit := do
  if !(optionNames.any fun o => o.2 == some letter) then
    Run.fail ("Illegal option -" ++ String.singleton letter)
  Run.onProcess fun p =>
    let others := p.options.filter (· != letter)
    { p with options := if value then letter :: others else others }

/-- Tells which options are set, for people or as a script. -/
def optionListing (forPeople : Bool) : Run String := do
  let set := (← Run.process).options
  let isSet := fun (o : String × Option Char) => (o.2.map set.contains).getD false
  return (if forPeople then "Current option settings\n" else "") ++
    String.join (optionNames.map fun o =>
      if forPeople then
        o.1 ++ String.ofList (List.replicate (16 - o.1.length) ' ') ++
          (if isSet o then "on" else "off") ++ "\n"
      else "set " ++ (if isSet o then "-o " else "+o ") ++ o.1 ++ "\n")

/-- Sets the options of letters; those that are set by name take the arguments after them. -/
def setLetters (value : Bool) : List Char → List String → Run (List String)
  | [], rest => return rest
  | 'o' :: cs, rest => do
    match rest with
    | [] =>
      Run.print (← optionListing value)
      setLetters value cs []
    | name :: rest =>
      match optionNames.lookup name with
      | some (some letter) => setOption letter value
      | some none => pure ()
      | none => Run.fail ("Illegal option -o " ++ name)
      setLetters value cs rest
  | c :: cs, rest => do
    setOption c value
    setLetters value cs rest

/-- Sets options and parameters; the number bounds the arguments. -/
def setAll : Nat → List String → Run Unit
  | 0, _ => return ()
  | _ + 1, [] => return ()
  | fuel + 1, a :: rest => do
    let put := fun (texts : List String) =>
      Run.onProcess fun p => { p with parameters := texts, optionPlace := {} }
    match a.toList with
    | ['-'] =>
      setOption 'x' false
      setOption 'v' false
      if !rest.isEmpty then put rest
    | ['-', '-'] => put rest
    | '-' :: letters => setAll fuel (← setLetters true letters rest)
    | '+' :: letters => setAll fuel (← setLetters false letters rest)
    | _ => put (a :: rest)

/-- Sets options and parameters, or lists variables. -/
def set (arguments : List String) : Run Nat := do
  if arguments.isEmpty then Run.print (← listing "" fun v => v.value.isSome)
  else setAll (arguments.length + 1) arguments
  return 0

end Errand.Shell.Builtin
