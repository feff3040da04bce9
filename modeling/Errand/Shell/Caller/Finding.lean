import Errand.Host.Program.Facts
import Errand.Shell.Caller.Basic
import Errand.Text.Wildcard

/-! # Files that fit a condition

A tree of files is gone through from some paths on, and a condition is looked at for each file. Its
parts are tests, and actions that print the path of a file, call a program for it, or remove it.

* `Condition` is what arguments ask for, `Condition.read` reads it;
* `Caller.finding` goes through the files. -/

namespace Errand.Shell

open Errand.Host

namespace Caller

namespace Finding

/-- A number to compare with: more than it, less than it, or just it. -/
structure Bound where
  sign : Ordering
  number : Nat

/-- Whether a number is within a bound. -/
def Bound.admits (b : Bound) (n : Nat) : Bool := compare n b.number == b.sign

/-- A part of what is looked at for each file. -/
inductive Condition where
  | name (whole caseless : Bool) (pattern : String)
  | target (pattern : String)
  | kind (letters : List Char)
  | empty
  | size (b : Bound) (unit : Nat)
  | links (b : Bound)
  | mode (how : Char) (bits : Nat)
  | started
  | constant (b : Bool)
  | print (ending : String)
  | format (text : String)
  | call (command : List String) (inside : Bool)
  | collect (place : Nat)
  | delete
  | prune
  | quit
  | not (a : Condition)
  | both (a b : Condition)
  | either (a b : Condition)
  | sequence (a b : Condition)

/-- What arguments ask for besides the condition. -/
structure Plan where
  least : Nat := 0
  most : Option Nat := none
  /-- Whether what is in a directory comes before it. -/
  deep : Bool := false
  /-- Whether something is done with files, so that paths are not printed anyway. -/
  acts : Bool := false
  follows : Bool := false
  followsFirst : Bool := false
  /-- The commands that get many paths at once. -/
  commands : List (List String) := []

/-! ## Reading conditions -/

/-- What reading a part of a condition leads to: the condition, the arguments that follow, and the
plan. -/
abbrev Step := Except String (Condition × List String × Plan)

/-- A bound in an argument, and the letters behind it. -/
def bound? (s : String) : Option (Bound × List Char) :=
  let (sign, rest) := match s.toList with
    | '+' :: rest => (Ordering.gt, rest)
    | '-' :: rest => (.lt, rest)
    | cs => (.eq, cs)
  let ds := rest.takeWhile Char.isDigit
  if ds.isEmpty then none
  else some (⟨sign, Numeral.valueOf 10 ds⟩, rest.drop ds.length)

/-- A bound with nothing behind it. -/
def plainBound (option s : String) : Except String Bound :=
  match bound? s with
  | some (b, []) => .ok b
  | _ => .error ("invalid argument \x60" ++ s ++ "' to \x60" ++ option ++ "'")

/-- The units of sizes. -/
def units : List (Char × Nat) :=
  [('b', 512), ('c', 1), ('w', 2), ('k', 1024), ('M', 1048576), ('G', 1073741824)]

/-- A test or an action that has one argument. -/
def readUnary (c : Call) (p : Plan) (option value : String) : Except String (Condition × Plan) :=
  let asIs := fun (t : Condition) => Except.ok (t, p)
  match option with
  | "-name" => asIs (.name false false value)
  | "-iname" => asIs (.name false true value)
  | "-path" | "-wholename" => asIs (.name true false value)
  | "-ipath" | "-iwholename" => asIs (.name true true value)
  | "-lname" => asIs (.target value)
  | "-type" | "-xtype" =>
    let letters := value.toList.filter (· != ',')
    match letters.find? fun l => !"bcdpflsD".toList.contains l with
    | some _ => .error ("Unknown argument to " ++ option ++ ": " ++ value)
    | none =>
      if letters.isEmpty then
        .error ("Arguments to " ++ option ++ " should contain at least one letter")
      else asIs (.kind letters)
  | "-size" =>
    let refused := Except.error (if value.isEmpty || value.toList.getLast?.any Char.isDigit then
        "Invalid argument \x60" ++ value ++ "' to -size"
      else "invalid -size type \x60" ++ value ++ "'")
    match bound? value with
    | some (b, []) => asIs (.size b 512)
    | some (b, [u]) => match units.lookup u with
      | some n => asIs (.size b n)
      | none => .error ("invalid -size type \x60" ++ String.singleton u ++ "'")
    | _ => refused
  | "-links" => (plainBound option value).map fun b => (.links b, p)
  | "-mtime" | "-atime" | "-ctime" | "-mmin" | "-amin" | "-cmin" =>
    (plainBound option value).map fun b => (.constant (b.admits 0), p)
  | "-newer" | "-anewer" | "-cnewer" =>
    match c.files.find? c.directory value with
    | .ok _ => asIs (.constant false)
    | .error e => .error (c.quoted value ++ ": " ++ e.reason)
  | "-user" | "-group" | "-uid" | "-gid" =>
    if value == "root" || value == "0" then asIs (.constant true)
    else if value.toList.all Char.isDigit then asIs (.constant false)
    else .error (c.quoted value ++ " is not the name of a known " ++
      if option == "-group" then "group" else "user")
  | "-perm" =>
    let (how, text) := match value.toList with
      | '-' :: rest => ('-', String.ofList rest)
      | '/' :: rest => ('/', .ofList rest)
      | _ => ('=', value)
    match Mode.read? text with
    | some cs => asIs (.mode how (Mode.after cs 0 false 0))
    | none => .error ("invalid mode " ++ c.quoted value)
  | "-printf" => .ok (.format value, { p with acts := true })
  | "-maxdepth" | "-mindepth" =>
    if !value.isEmpty && value.toList.all Char.isDigit then
      let n := Numeral.valueOf 10 value.toList
      .ok (.constant true, if option == "-maxdepth" then { p with most := some n }
        else { p with least := n })
    else .error ("Expected a positive decimal integer argument to " ++ option ++ ", but got " ++
      c.quoted value)
  | "-regextype" => asIs (.constant true)
  | _ => .error ("unknown predicate \x60" ++ option ++ "'")

/-- The options that have one argument. -/
def unary : List String :=
  ["-name", "-iname", "-path", "-wholename", "-ipath", "-iwholename", "-lname", "-type", "-xtype",
    "-size", "-links", "-mtime", "-atime", "-ctime", "-mmin", "-amin", "-cmin", "-newer", "-anewer",
    "-cnewer", "-user", "-group", "-uid", "-gid", "-perm", "-printf", "-maxdepth", "-mindepth",
    "-regextype"]

/-- The words of a command, whether it gets many paths at once, and what follows it. -/
def readCommand? (words : List String) : List String → Option (List String × Bool × List String)
  | [] => none
  | ";" :: rest => if words.isEmpty then none else some (words.reverse, false, rest)
  | "+" :: rest =>
    if words.head? == some "\x7b\x7d" && 1 < words.length then some (words.reverse, true, rest)
    else readCommand? ("+" :: words) rest
  | w :: rest => readCommand? (w :: words) rest

mutual

/-- Parts of which the latest one is looked at whatever the others lead to. -/
def readSequence (c : Call) : Nat → Plan → List String → Step
  | 0, _, _ => .error "invalid expression"
  | fuel + 1, p, as => do
    let (a, rest, p) ← readEither c fuel p as
    match rest with
    | "," :: rest =>
      let (b, rest, p) ← readSequence c fuel p rest
      return (.sequence a b, rest, p)
    | _ => return (a, rest, p)

/-- Parts of which one has to hold. -/
def readEither (c : Call) : Nat → Plan → List String → Step
  | 0, _, _ => .error "invalid expression"
  | fuel + 1, p, as => do
    let (a, rest, p) ← readBoth c fuel p as
    match rest with
    | op :: rest =>
      if op == "-o" || op == "-or" then
        if rest.isEmpty then throw ("expected an expression after '" ++ op ++ "'")
        let (b, rest, p) ← readEither c fuel p rest
        return (.either a b, rest, p)
      else return (a, op :: rest, p)
    | [] => return (a, [], p)

/-- Parts that all have to hold. -/
def readBoth (c : Call) : Nat → Plan → List String → Step
  | 0, _, _ => .error "invalid expression"
  | fuel + 1, p, as => do
    let (a, rest, p) ← readPart c fuel p as
    match rest with
    | [] => return (a, [], p)
    | op :: after =>
      if op == "-o" || op == "-or" || op == "," || op == ")" then return (a, rest, p)
      else
        let isAnd := op == "-a" || op == "-and"
        if isAnd && after.isEmpty then throw ("expected an expression after '" ++ op ++ "'")
        let (b, rest, p) ← readBoth c fuel p (if isAnd then after else rest)
        return (.both a b, rest, p)

/-- One part. -/
def readPart (c : Call) : Nat → Plan → List String → Step
  | 0, _, _ => .error "invalid expression"
  | _, _, [] => .error "invalid expression"
  | fuel + 1, p, a :: rest =>
    let acting := { p with acts := true }
    match a with
    | "!" | "-not" =>
      if rest.isEmpty then .error ("expected an expression after '" ++ a ++ "'")
      else do
        let (t, rest, p) ← readPart c fuel p rest
        return (.not t, rest, p)
    | "(" =>
      if rest.head? == some ")" then
        .error "invalid expression; empty parentheses are not allowed."
      else do
        let (t, rest, p) ← readSequence c fuel p rest
        match rest with
        | ")" :: rest => return (t, rest, p)
        | _ => throw ("invalid expression; I was expecting to find a ')' somewhere but did not " ++
            "see one.")
    | ")" => .error "invalid expression; you have too many ')'"
    | "-o" | "-or" | "-a" | "-and" | "," =>
      .error ("invalid expression; you have used a binary operator '" ++ a ++
        "' with nothing before it.")
    | "-empty" => .ok (.empty, rest, p)
    | "-true" | "-xdev" | "-mount" | "-noleaf" | "-warn" | "-nowarn" | "-daystart"
    | "-ignore_readdir_race" => .ok (.constant true, rest, p)
    | "-false" | "-nouser" | "-nogroup" => .ok (.constant false, rest, p)
    | "-readable" | "-writable" => .ok (.constant true, rest, p)
    | "-executable" => .ok (.started, rest, p)
    | "-depth" | "-d" => .ok (.constant true, rest, { p with deep := true })
    | "-follow" => .ok (.constant true, rest, { p with follows := true })
    | "-print" => .ok (.print "\n", rest, acting)
    | "-print0" => .ok (.print "\x00", rest, acting)
    | "-delete" => .ok (.delete, rest, { acting with deep := true })
    | "-prune" => .ok (.prune, rest, p)
    | "-quit" => .ok (.quit, rest, acting)
    | "-exec" | "-execdir" =>
      match readCommand? [] rest with
      | none => .error ("missing argument to \x60" ++ a ++ "'")
      | some (command, true, rest) =>
        .ok (.collect p.commands.length, rest,
          { acting with commands := p.commands ++ [command.dropLast] })
      | some (command, false, rest) => .ok (.call command (a == "-execdir"), rest, acting)
    | _ =>
      if unary.contains a then
        match rest with
        | [] => .error ("missing argument to \x60" ++ a ++ "'")
        | v :: rest => (readUnary c p a v).map fun (t, p) => (t, rest, p)
      else if a.startsWith "-" then .error ("unknown predicate \x60" ++ a ++ "'")
      else .error ("paths must precede expression: \x60" ++ a ++ "'")

end

/-! ## Looking at files -/

/-- A file that is looked at: its path, the path that it was found from, and how deep it is. -/
structure Found where
  path : String
  start : String
  depth : Nat
  place : Location
  node : Node

/-- How far the search has come: the paths that are collected for each command, the latest first,
and whether what is in a directory is left out or everything ends. -/
structure Progress where
  collected : List (Nat × String) := []
  pruned : Bool := false
  isOver : Bool := false
  status : Nat := 0

/-- The last name of a path. -/
def nameOf (path : String) : String := .ofList (Program.lastName path)

/-- The letter for the kind of a file. -/
def kindLetter (node : Node) : Char :=
  match Program.Listing.kindLetter node with
  | '-' => 'f'
  | l => l

/-- A part of a format for a file, by its letter. -/
def directive (c : Call) (f : Found) (letter : Char) : String :=
  match letter with
  | 'p' => f.path
  | 'f' => nameOf f.path
  | 'h' =>
    let parent := Program.parentOf f.path
    if f.path.toList.contains '/' then parent else "."
  | 'P' =>
    let rest := f.path.toList.drop f.start.length
    .ofList (rest.dropWhile (· == '/'))
  | 'H' => f.start
  | 'd' => toString f.depth
  | 's' => toString (Program.Listing.sizeOf f.node)
  | 'm' => .ofList (Nat.toDigits 8 f.node.mode)
  | 'M' => String.singleton (Program.Listing.kindLetter f.node) ++ Mode.letters f.node.mode
  | 'y' | 'Y' => String.singleton (kindLetter f.node)
  | 'l' => match f.node with
    | .link target => target
    | _ => ""
  | 'u' | 'g' => "root"
  | 'U' | 'G' | 'D' => "0"
  | 'n' => toString (Program.Listing.linksOf c.files ⟨f.path, f.place, f.node⟩)
  | 'k' => toString (Program.Listing.blocksOf f.node)
  | 'b' => toString (2 * Program.Listing.blocksOf f.node)
  | 'i' => "1"
  | l => "%" ++ String.singleton l

/-- A format for a file; the number bounds the characters. -/
def formatted (c : Call) (f : Found) : Nat → List Char → List Char
  | 0, _ => []
  | _, [] => []
  | fuel + 1, '%' :: cs =>
    let flags := cs.takeWhile "#-+ 0".toList.contains
    let ds := (cs.drop flags.length).takeWhile Char.isDigit
    match cs.drop (flags.length + ds.length) with
    | [] => '%' :: cs
    | '%' :: rest => '%' :: formatted c f fuel rest
    | l :: rest =>
      (Program.Facts.placed flags (Numeral.valueOf 10 ds) (directive c f l)).toList ++
        formatted c f fuel rest
  | fuel + 1, '\\' :: cs =>
    match Printing.echoEscape cs with
    | .octets e rest => e ++ formatted c f fuel rest
    | _ => []
  | fuel + 1, ch :: cs => ch :: formatted c f fuel cs

/-- Whether a command succeeds. -/
def succeeds (i : Interpreter) (c : Call) (arguments : List String) : Run Bool := do
  match ← find (← Run.surroundings) arguments with
  | .error r =>
    let _ ← complain c (c.quoted (arguments.headD "") ++ ": " ++ r.reason) 1
    return false
  | .ok image => return (← Run.child (i.image image)) == .status 0

/-- The directory that a place is in becomes that of the process, for as long as something runs. -/
def insideOf (place : Location) (body : Run Bool) : Run Bool := do
  let before := (← Run.process).directory
  Run.onProcess fun p => { p with directory := place.dropLast }
  let result ← body
  Run.onProcess fun p => { p with directory := before }
  return result

/-- Looks at a condition for a file. -/
def Condition.look (i : Interpreter) (c : Call) (plan : Plan) (f : Found) (p : Progress) :
    Condition → Run (Bool × Progress)
  | .name whole caseless pattern => do
    let fold := fun (s : String) => if caseless then s.map Char.toLower else s
    let text := if whole then f.path else nameOf f.path
    return (Text.Wildcard.isFit (fold pattern) (fold text), p)
  | .target pattern => return (match f.node with
      | .link path => Text.Wildcard.isFit pattern path
      | _ => false, p)
  | .kind letters => return (letters.contains (kindLetter f.node), p)
  | .empty => do
    let files := (← Run.machine).files
    return (match f.node with
      | .directory _ => (files.names f.place).isEmpty
      | .file content _ => content.isEmpty
      | _ => false, p)
  | .size b unit =>
    return (b.admits ((Program.Listing.sizeOf f.node + unit - 1) / unit), p)
  | .links b => return (b.admits (Program.Listing.linksOf c.files ⟨f.path, f.place, f.node⟩), p)
  | .mode how bits =>
    let mode := f.node.mode
    return (match how with
      | '-' => mode &&& bits == bits
      | '/' => bits == 0 || mode &&& bits != 0
      | _ => mode == bits, p)
  | .started => return (f.node.isExecutable || f.node.isDirectory, p)
  | .constant b => return (b, p)
  | .print ending => do
    Run.write 1 (f.path ++ ending)
    return (true, p)
  | .format text => do
    Run.write 1 (.ofList (formatted c f (text.length + 1) text.toList))
    return (true, p)
  | .call command inside => do
    let path := if inside then "./" ++ nameOf f.path else f.path
    let arguments := command.map fun a => path.intercalate (a.splitOn "\x7b\x7d")
    let result ← if inside then insideOf f.place (succeeds i c arguments)
      else succeeds i c arguments
    return (result, p)
  | .collect n => return (true, { p with collected := (n, f.path) :: p.collected })
  | .delete => do
    let files := (← Run.machine).files
    if f.path == "." then return (true, p)
    if (files.names f.place).isEmpty then
      Run.onMachine fun m => { m with files := m.files.remove f.place }
      return (true, p)
    else
      let _ ← complain c ("cannot delete " ++ c.quoted f.path ++ ": " ++ Refusal.notEmpty.reason) 1
      return (false, { p with status := 1 })
  | .prune => return (true, { p with pruned := !plan.deep })
  | .quit => return (true, { p with isOver := true })
  | .not a => do
    let (b, p) ← a.look i c plan f p
    return (!b, p)
  | .both a b => do
    let (held, p) ← a.look i c plan f p
    if !held || p.isOver then return (false, p) else b.look i c plan f p
  | .either a b => do
    let (held, p) ← a.look i c plan f p
    if held || p.isOver then return (true, p) else b.look i c plan f p
  | .sequence a b => do
    let (_, p) ← a.look i c plan f p
    if p.isOver then return (true, p) else b.look i c plan f p

/-- What is at a place, or what a link there leads to if links are followed. -/
def nodeAt? (follows : Bool) (c : Call) (files : Files) (path : String) (place : Location) :
    Option (Location × Node) :=
  match files.at? place with
  | some (.link target) =>
    if follows then
      match files.find? c.directory path with
      | .ok found => some found
      | .error _ => some (place, .link target)
    else some (place, .link target)
  | some node => some (place, node)
  | none => none

/-- Goes through a file and what is in it; the first number bounds how deep that is. -/
def visit (i : Interpreter) (c : Call) (plan : Plan) (t : Condition) :
    Nat → Found → Progress → Run Progress
  | 0, _, p => return p
  | fuel + 1, f, p => do
    if p.isOver then return p
    let isLooked := plan.least ≤ f.depth
    let look := fun (p : Progress) => do
      if isLooked && !p.isOver then return (← t.look i c plan f { p with pruned := false }).2
      else return { p with pruned := false }
    let p ← if plan.deep then pure { p with pruned := false } else look p
    let p ← if f.node.isDirectory && !p.pruned && !p.isOver &&
        (plan.most.map fun n => decide (f.depth < n)).getD true then
      let names := (← Run.machine).files.names f.place
      names.foldlM (fun (p : Progress) name => do
        let path := Path.append f.path name
        match nodeAt? plan.follows c (← Run.machine).files path (f.place ++ [name]) with
        | some (place, node) =>
          visit i c plan t fuel ⟨path, f.start, f.depth + 1, place, node⟩ p
        | none => return p) p
    else pure p
    if plan.deep then look p else return p

/-- Calls the commands that have paths collected for them. -/
def callCollected (i : Interpreter) (c : Call) (p : Progress) :
    Nat → List (List String) → Run Progress
  | _, [] => return p
  | n, command :: rest => do
    let paths := (p.collected.reverse.filter fun e => e.1 == n).map (·.2)
    let good ← if paths.isEmpty then pure true else succeeds i c (command ++ paths)
    callCollected i c (if good then p else { p with status := 1 }) (n + 1) rest

end Finding

open Finding in
/-- Finds files that fit a condition, and does something with them. -/
def finding (i : Interpreter) (c : Call) : Run Nat := do
  let first := c.arguments.takeWhile fun a => ["-H", "-L", "-P"].contains a
  let arguments := c.arguments.drop first.length
  let starts := arguments.takeWhile fun a =>
    !(a.startsWith "-" && a != "-" || ["(", ")", "!", ","].contains a)
  let rest := arguments.drop starts.length
  let plan : Plan := {
    follows := first.getLast? == some "-L"
    followsFirst := first.getLast?.any (· != "-P") }
  let read : Step := if rest.isEmpty then .ok (.constant true, [], plan)
    else readSequence c (4 * rest.length + 4) plan rest
  match read with
  | .error text => complain c text 1
  | .ok (_, ")" :: _, _) => complain c "you have too many ')'" 1
  | .ok (t, _, plan) =>
    let t := if plan.acts then t else .both t (.print "\n")
    let p ← (if starts.isEmpty then ["."] else starts).foldlM (fun (p : Progress) start => do
      let files := (← Run.machine).files
      let found := match files.find? c.directory start (plan.follows || plan.followsFirst) with
        | .ok f => Except.ok f
        | .error _ => files.find? c.directory start false
      match found with
      | .error e =>
        let _ ← complain c (c.quoted start ++ ": " ++ e.reason) 1
        return { p with status := 1 }
      | .ok (place, node) => visit i c plan t 64 ⟨start, start, 0, place, node⟩ p) {}
    return (← callCollected i c p 0 plan.commands).status

end Caller

end Errand.Shell
