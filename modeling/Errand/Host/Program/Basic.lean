import Errand.Host.Duration
import Errand.Host.Options
import Errand.Host.Printing

/-! # Small programs

Programs that look at their arguments and their surroundings only: they print, split paths, count,
and let time pass. -/

namespace Errand.Host.Program

/-- Octets of a text. -/
def octets (s : String) : String := Text.Octets.ofText s

/-- Prints a text of octets. -/
def say (s : String) : Effect := Effect.print s.toList

/-- A text with blanks before it. -/
def flushRight (width : Nat) (s : String) : String :=
  .ofList (List.replicate (width - s.length) ' ') ++ s

/-- A number with blanks before it. -/
def padded (width n : Nat) : String := flushRight width (toString n)

/-- Complains about an operand that is one too many. -/
def extraOperand (c : Call) (a : String) (status : Nat := 1) : Effect :=
  c.misuse ("extra operand " ++ c.quoted a) status

/-- Complains about operands that are missing. -/
def missingOperand (c : Call) (status : Nat := 1) : Effect := c.misuse "missing operand" status

/-! ## Printing -/

/-- Prints arguments with blanks between them. -/
def echo (c : Call) : Effect :=
  Effect.print (Printing.echo (.program c.isUnicode) c.arguments)

/-- Prints octets, and complains where so many octets were printed; the number tells how many were
printed before. -/
def printAround (c : Call) (before : Nat) (out : List Char) : List (Nat × String) → Effect
  | [] => Effect.print out
  | (place, text) :: rest =>
    ((Effect.print (out.take (place - before))).andThen (c.complain text 0)).andThen
      (printAround c place (out.drop (place - before)) rest)

/-- Prints arguments by a format. -/
def printf (c : Call) : Effect :=
  let arguments := match c.arguments with
    | "--" :: rest => rest
    | as => as
  match arguments with
  | [] => missingOperand c
  | format :: rest =>
    let d : Printing.Dialect := .program c.isUnicode
    let (p, left) := Printing.printf d format rest
    let last := p.broken.toList ++
      (match p.broken, left with
        | none, a :: _ =>
          if p.ended then []
          else ["warning: ignoring excess arguments, starting with " ++ c.quoted a]
        | _, _ => [])
    let complaints := p.complaints ++ last.map fun text => (p.out.length, text)
    let e := printAround c 0 p.out complaints
    { e with status := if p.flawed || p.broken.isSome then 1 else 0 }

/-! ## Paths -/

/-- A path without the slashes at its end. -/
def withoutSlashes (cs : List Char) : List Char :=
  let rest := (cs.reverse.dropWhile (· == '/')).reverse
  if rest.isEmpty && !cs.isEmpty then ['/'] else rest

/-- The last name of a path. -/
def lastName (path : String) : List Char :=
  let cs := withoutSlashes path.toList
  if cs == ['/'] then cs else (cs.reverse.takeWhile (· != '/')).reverse

/-- A name without an ending, unless it is nothing else. -/
def withoutEnding (ending name : List Char) : List Char :=
  if ending.isSuffixOf name && ending != name && !ending.isEmpty
  then name.take (name.length - ending.length) else name

/-- The end of what is written for each operand. -/
def terminator (r : Options.Read) : String := if r.has 'z' then "\x00" else "\n"

/-- The last names of paths. -/
def basename (c : Call) : Effect :=
  let flags : List Flag := [⟨'a', "multiple", .nothing⟩, ⟨'s', "suffix", .value⟩,
    ⟨'z', "zero", .nothing⟩]
  c.withOptionsBy { first := true } flags fun r =>
    let many := r.has 'a' || r.has 's'
    match r.operands with
    | [] => missingOperand c
    | path :: rest =>
      let line := fun (ending path : String) =>
        say (.ofList (withoutEnding ending.toList (lastName path)) ++ terminator r)
      if many then Effect.all ((path :: rest).map (line ((r.value? 's').getD "")))
      else match rest with
        | [] => line "" path
        | [ending] => line ending path
        | _ :: a :: _ => extraOperand c a

/-- A path without its last name. -/
def parentOf (path : String) : String :=
  let strip := fun (cs : List Char) => cs.dropWhile (· == '/')
  let parent := strip ((strip path.toList.reverse).dropWhile (· != '/'))
  if !parent.isEmpty then .ofList parent.reverse
  else if path.startsWith "/" then "/" else "."

/-- Paths without their last names. -/
def dirname (c : Call) : Effect :=
  c.withOptions [⟨'z', "zero", .nothing⟩] fun r =>
    if r.operands.isEmpty then missingOperand c
    else Effect.all (r.operands.map fun path => say (parentOf path ++ terminator r))

/-- The directory that the program runs in. -/
def pwd (c : Call) : Effect :=
  let flags : List Flag := [⟨'L', "logical", .nothing⟩, ⟨'P', "physical", .nothing⟩]
  c.withOptions flags fun r =>
    let isLogical := (r.given.getLast?.map (·.1)) == some 'L'
    let named := (c.environment.lookup "PWD").filter fun path =>
      isLogical && path.startsWith "/" &&
        (path.splitOn "/").all (fun n => n != "." && n != "..") &&
        (c.files.directory? c.directory path).toOption == some c.directory
    let warning := if r.operands.isEmpty then {}
      else c.complain "ignoring non-option arguments" 0
    warning.andThen (say (named.getD (Files.text c.directory) ++ "\n"))

/-! ## The environment -/

/-- The variables of the environment, or the values of some. -/
def printenv (c : Call) : Effect :=
  c.withOptionsBy { status := 2 } [⟨'0', "null", .nothing⟩] fun r =>
    let ending := if r.has '0' then "\x00" else "\n"
    if r.operands.isEmpty then
      Effect.all (c.environment.map fun e => say (e.1 ++ "=" ++ e.2 ++ ending))
    else
      let values := r.operands.filterMap fun n => c.environment.lookup n
      let e := Effect.all (values.map fun v => say (v ++ ending))
      { e with status := if values.length = r.operands.length then 0 else 1 }

/-- The user. -/
def whoami (c : Call) : Effect :=
  c.withOptions [] fun r =>
    match r.operands with
    | [] => say "root\n"
    | a :: _ => extraOperand c a

/-- The user and the groups, as names or numbers. -/
def id (c : Call) : Effect :=
  let flags : List Flag := [⟨'u', "user", .nothing⟩, ⟨'g', "group", .nothing⟩,
    ⟨'G', "groups", .nothing⟩, ⟨'n', "name", .nothing⟩, ⟨'r', "real", .nothing⟩]
  c.withOptions flags fun r =>
    match r.operands.find? (· != "root") with
    | some a => c.complain (c.quoted a ++ ": no such user")
    | none =>
      if r.has 'u' || r.has 'g' || r.has 'G' then say (if r.has 'n' then "root\n" else "0\n")
      else say "uid=0(root) gid=0(root) groups=0(root)\n"

/-- The system, as far as it is known. -/
def uname (c : Call) : Effect :=
  let flags : List Flag := [⟨'s', "kernel-name", .nothing⟩, ⟨'m', "machine", .nothing⟩,
    ⟨'o', "operating-system", .nothing⟩]
  c.withOptions flags fun r =>
    match r.operands with
    | a :: _ => extraOperand c a
    | [] =>
      let all := [('s', "Linux"), ('m', "x86_64"), ('o', "GNU/Linux")]
      let shown := (all.filter fun e => r.has e.1 || r.given.isEmpty && e.1 == 's').map (·.2)
      say (" ".intercalate shown ++ "\n")

/-- A program that tells one thing and takes no operands. -/
def telling (line : String) (c : Call) : Effect :=
  c.withOptions [] fun r => match r.operands with
    | a :: _ => extraOperand c a
    | [] => say (line ++ "\n")

/-- The groups of users. -/
def groups (c : Call) : Effect :=
  c.withOptions [] fun r =>
    if r.operands.isEmpty then say "root\n"
    else Effect.all (r.operands.map fun u =>
      if u == "root" then say "root : root\n" else c.complain (c.quoted u ++ ": no such user"))

/-- The name of the user who has logged in: nobody has. -/
def logname (c : Call) : Effect :=
  c.withOptions [] fun r => match r.operands with
    | a :: _ => extraOperand c a
    | [] => c.complain "no login name"

/-- The terminal of the input: there is none. -/
def tty (c : Call) : Effect :=
  let flags : List Flag := [⟨'s', "silent", .nothing⟩, ⟨'s', "quiet", .nothing⟩]
  c.withOptionsBy { status := 2 } flags fun r => match r.operands with
    | a :: _ => extraOperand c a 2
    | [] => { (if r.has 's' then {} else say "not a tty\n") with status := 1 }

/-! ## Time -/

/-- The nanoseconds of a number of units; none for one that is no time. -/
def nanosecondsOf? (v : Magnitude) (unit : Nat) : Option Nat :=
  match v with
  | .notNumber => none
  | .infinite negative => if negative then none else some (Nat.pow 10 30)
  | .finite d =>
    if d.negative && d.mantissa ≠ 0 then none
    else
      let n := d.mantissa * unit * second
      some (match d.exponent with
        | .ofNat k => n * Nat.pow 2 k
        | .negSucc k => (n + Nat.pow 2 (k + 1) - 1) / Nat.pow 2 (k + 1))

/-- The nanoseconds that an argument stands for: a number, and a unit maybe. -/
def interval? (s : String) : Option Nat :=
  let r := Numeral.readReal .extended s.toList
  if r.rest.length = s.length then none
  else match r.rest with
    | [] => nanosecondsOf? r.value 1
    | [u] => ([('s', 1), ('m', 60), ('h', 3600), ('d', 86400)].lookup u).bind
        (nanosecondsOf? r.value)
    | _ => none

/-- Lets time pass. -/
def sleep (c : Call) : Effect :=
  c.withOptions [] fun r =>
    let wrong := r.operands.filter fun a => (interval? a).isNone
    if r.operands.isEmpty then missingOperand c
    else if wrong.isEmpty then
      { lasts := (r.operands.filterMap interval?).foldr (· + ·) 0 }
    else
      let told := Effect.all (wrong.map fun a =>
        c.complain ("invalid time interval " ++ c.quoted a))
      told.andThen { writes := [(errorNumber, Text.Octets.bytesOf (c.hint ++ "\n"))] }

/-- Prints a line again and again. -/
def yes (c : Call) : Effect :=
  c.withOptions [] fun r =>
    let line := if r.operands.isEmpty then "y" else " ".intercalate r.operands
    { period := Text.Octets.bytesOf (line ++ "\n"), isEndless := true }

end Errand.Host.Program
