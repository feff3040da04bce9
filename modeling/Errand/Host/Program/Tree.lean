import Errand.Host.Count
import Errand.Host.Mode
import Errand.Host.Program.Basic
import Errand.Host.Program.Sources

/-! # Programs that change files

They list, make, move and remove what is in directories. Each of them does what it can, one operand
after the other, and complains about the rest. -/

namespace Errand.Host.Program

/-! ## Steps -/

/-- The effect of a change to the files. -/
def changed (files : Files) : Effect := { files := some files }

/-- A call as an effect leaves things: the files, and what is left of the input. -/
def afterwards (c : Call) (e : Effect) : Call :=
  { c with files := e.files.getD c.files, input := e.left.getD c.input }

/-- Does something for each operand; each finds things as the one before it has left them. -/
def forEach {α : Type} (c : Call) (f : Call → α → Effect) : List α → Effect
  | [] => {}
  | a :: rest =>
    let e := f c a
    e.andThen (forEach (afterwards c e) f rest)

/-- Goes on only if a line of the input agrees to a question, which is asked if it is wanted; what
comes otherwise may have a status. -/
def confirmed (c : Call) (isAsked : Bool) (question : String) (goOn : Call → Effect)
    (otherwise : Effect := {}) : Effect :=
  if isAsked then
    let bytes := if c.input.bytes.contains lineEnd then c.input.bytes
      else c.input.bytes ++ c.input.period
    let line := bytes.takeWhile (· != lineEnd)
    let input := { c.input with bytes := bytes.drop (line.length + 1) }
    let asked : Effect := {
      writes := [(errorNumber, Text.Octets.bytesOf (c.name ++ ": " ++ question ++ "? "))]
      left := some input }
    asked.andThen (if line.head? = some 121 || line.head? = some 89 then goOn { c with input }
      else otherwise)
  else goOn c

/-- A complaint about something that cannot be done to a file. -/
def cannot (c : Call) (what name : String) (r : Refusal) (status : Nat := 1) : Effect :=
  c.complain (what ++ " " ++ c.quotedAlways name ++ ": " ++ r.reason) status

/-! ## Making and removing -/

/-- Makes a directory; if all on the way are made as well, one that is there is taken as it is. -/
def makeDirectory (r : Options.Read) (mode : Nat) (c : Call) (path : String) : Effect :=
  let refused := fun (path : String) (e : Refusal) =>
    c.complain ("cannot create directory " ++ c.quoted path ++ ": " ++ e.reason)
  let told := fun (path : String) => if r.has 'v' then say (c.name ++ ": created directory " ++
      c.quotedAlways path ++ "\n") else {}
  let bare := if path == "/" then path else .ofList (withoutSlashes path.toList)
  let made := fun (c : Call) (step : String) => match c.placeFor step with
    | .error e => refused (if step == bare then path else step) e
    | .ok place =>
      if (c.files.at? place).isSome then refused path .occupied
      else
        let mode := if step == bare then mode else Mode.without 0o777 c.mask
        (changed (c.files.put place (.directory mode))).andThen (told step)
  if r.has 'p' then
    let parts := bare.splitOn "/"
    let steps := (List.range parts.length).map fun n => "/".intercalate (parts.take (n + 1))
    steps.foldl (fun (e : Effect) step =>
      let c := afterwards c e
      if e.status != 0 || step.isEmpty && !path.isEmpty then e
      else match c.files.find? c.directory step with
        | .ok (_, .directory _) => e
        | .ok _ => e.andThen (refused step (if step == bare then .occupied else .notDirectory))
        | .error .noEntry => e.andThen (made c step)
        | .error why => e.andThen (refused step why)) {}
  else made c bare

/-- Makes directories. -/
def mkdir (c : Call) : Effect :=
  let flags : List Flag := [⟨'p', "parents", .nothing⟩, ⟨'m', "mode", .value⟩,
    ⟨'v', "verbose", .nothing⟩]
  c.withOptions flags fun r =>
    let plain := Mode.without 0o777 c.mask
    let mode := match r.value? 'm' with
      | none => some plain
      | some s => (Mode.read? s).map fun cs => Mode.after cs c.mask true 0o777
    match r.operands, mode with
    | [], _ => missingOperand c
    | _, none => c.complain ("invalid mode " ++ c.quoted ((r.value? 'm').getD ""))
    | paths, some mode => forEach c (makeDirectory r mode) paths

/-- Removes directories that are empty. -/
def rmdir (c : Call) : Effect :=
  let flags : List Flag := [⟨'p', "parents", .nothing⟩, ⟨'v', "verbose", .nothing⟩,
    ⟨'\x01', "ignore-fail-on-non-empty", .nothing⟩]
  c.withOptions flags fun r =>
    if r.operands.isEmpty then missingOperand c
    else
      let told := fun (path : String) => if r.has 'v' then
          say (c.name ++ ": removing directory, " ++ c.quotedAlways path ++ "\n") else {}
      let removed := fun (c : Call) (path : String) => (told path).andThen (
        match c.files.find? c.directory path false with
        | .error e => cannot c "failed to remove" path e
        | .ok (place, .directory _) =>
          if place.isEmpty then cannot c "failed to remove" path .busy
          else if lastName path == ['.'] then cannot c "failed to remove" path .invalid
          else if (c.files.names place).isEmpty then changed (c.files.remove place)
          else if r.has '\x01' then {}
          else cannot c "failed to remove" path .notEmpty
        | .ok _ => cannot c "failed to remove" path .notDirectory)
      forEach c (fun c path =>
        let names := (String.ofList (withoutSlashes path.toList)).splitOn "/"
        let parents := if r.has 'p' then
            (List.range (names.length - 1)).map fun n =>
              "/".intercalate (names.take (names.length - 1 - n))
          else []
        (path :: parents).foldl (fun e path =>
          let c := afterwards c e
          if e.status != 0 then e else e.andThen (removed c path)) {}) r.operands

/-- What a node is called in a question. -/
def kindText (node : Node) : String :=
  match node with
  | .directory _ => "directory"
  | .link _ => "symbolic link"
  | .device _ => "character special file"
  | .file [] _ => "regular empty file"
  | _ => "regular file"

/-- Removes something with all that is in it; the number bounds how deep that is. -/
def removeAll (r : Options.Read) (asks : Bool) : Nat → Call → String → Location → Effect
  | depth, c, path, place =>
    match c.files.at? place with
    | none => {}
    | some node =>
      let what := kindText node ++ " " ++ c.quotedAlways path
      let told := if r.has 'v' then
          say ("removed " ++ (if node.isDirectory then "directory " else "") ++
            c.quotedAlways path ++ "\n") else {}
      let self := fun (c : Call) => confirmed c asks ("remove " ++ what) fun c =>
        if (c.files.names place).isEmpty then (changed (c.files.remove place)).andThen told
        else cannot c "cannot remove" path .notEmpty
      match depth with
      | 0 => self c
      | depth + 1 =>
        let names := if node.isDirectory then c.files.names place else []
        if names.isEmpty then self c
        else confirmed c asks ("descend into " ++ what) fun c =>
          let e := forEach c (fun c name =>
            removeAll r asks depth c (Path.append path name) (place ++ [name])) names
          e.andThen (self (afterwards c e))

/-- Removes files, and directories with all that is in them if that is asked for. -/
def rm (c : Call) : Effect :=
  let flags : List Flag := [⟨'f', "force", .nothing⟩, ⟨'r', "recursive", .nothing⟩,
    ⟨'R', "", .nothing⟩, ⟨'d', "dir", .nothing⟩, ⟨'v', "verbose", .nothing⟩, ⟨'i', "", .nothing⟩,
    ⟨'I', "", .nothing⟩, ⟨'\x01', "preserve-root", .nothing⟩,
    ⟨'\x02', "one-file-system", .nothing⟩]
  c.withOptions flags fun r =>
    let manner := (r.given.filter fun g => "fiI".toList.contains g.1).getLast?.map (·.1)
    let isForced := manner == some 'f'
    let isDeep := r.has 'r' || r.has 'R'
    if r.operands.isEmpty then if isForced then {} else missingOperand c
    else
      let n := r.operands.length
      confirmed c (manner == some 'I' && (3 < n || isDeep))
        ("remove " ++ toString n ++ (if n = 1 then " argument" else " arguments") ++
          if isDeep then " recursively" else "") fun c =>
      forEach c (fun c path =>
        let last := String.ofList (lastName path)
        match c.files.find? c.directory path false with
        | .error e =>
          if isForced && (e = .noEntry || e = .notDirectory) then {}
          else cannot c "cannot remove" path e
        | .ok (place, .directory _) =>
          let isEmpty := (c.files.names place).isEmpty
          if isDeep && (last == "." || last == "..") then
            c.complain ("refusing to remove '.' or '..' directory: skipping " ++
              c.quotedAlways path)
          else if place.isEmpty && isDeep then
            c.complain ("it is dangerous to operate recursively on '/'\n" ++ c.name ++
              ": use --no-preserve-root to override this failsafe")
          else if isDeep || r.has 'd' && isEmpty then
            removeAll r (manner == some 'i') 64 c path place
          else cannot c "cannot remove" path (if r.has 'd' then .notEmpty else .isDirectory)
        | .ok (place, _) => removeAll r (manner == some 'i') 0 c path place) r.operands

/-- Removes one file. -/
def unlink (c : Call) : Effect :=
  match c.arguments with
  | [] => missingOperand c
  | [path] =>
    match c.files.find? c.directory path false with
    | .error e => cannot c "cannot unlink" path e
    | .ok (_, .directory _) => cannot c "cannot unlink" path .isDirectory
    | .ok (place, _) => changed (c.files.remove place)
  | _ :: a :: _ => extraOperand c a

/-- Whether a text names a time: a day by a word, or anything with a digit in it. -/
def isTime (s : String) : Bool :=
  s.isEmpty || s.any Char.isDigit ||
    ["now", "today", "yesterday", "tomorrow"].contains (s.map Char.toLower)

/-- Whether digits are a time: eight or more of them in pairs, and two more behind a point. -/
def isStamp (s : String) : Bool :=
  let cs := s.toList
  let (digits, seconds) := cs.span (· != '.')
  [8, 10, 12].contains digits.length && digits.all Char.isDigit &&
    (seconds.isEmpty || seconds.length = 3 && (seconds.drop 1).all Char.isDigit)

/-- Makes files that are not there. -/
def touch (c : Call) : Effect :=
  let flags : List Flag := [⟨'c', "no-create", .nothing⟩, ⟨'a', "", .nothing⟩, ⟨'m', "", .nothing⟩,
    ⟨'f', "", .nothing⟩, ⟨'h', "no-dereference", .nothing⟩, ⟨'d', "date", .value⟩,
    ⟨'t', "", .value⟩, ⟨'r', "reference", .value⟩, ⟨'\x01', "time", .value⟩]
  c.withOptions flags fun r =>
    let wrongTime := ((r.value? 'd').filter (!isTime ·)).or ((r.value? 't').filter (!isStamp ·))
    let model := (r.value? 'r').map fun m => (m, c.files.find? c.directory m)
    match wrongTime, model with
    | some t, _ => c.complain ("invalid date format " ++ c.quoted t)
    | _, some (m, .error e) =>
      c.complain ("failed to get attributes of " ++ c.quotedAlways m ++ ": " ++ e.reason)
    | _, _ =>
      if r.operands.isEmpty then c.misuse "missing file operand"
      else forEach c (fun c path => match c.files.find? c.directory path with
        | .ok _ => {}
        | .error .noEntry =>
          if r.has 'c' then {}
          else if path.endsWith "/" then
            c.complain ("setting times of " ++ c.quotedAlways path ++ ": " ++
              Refusal.noEntry.reason)
          else match c.withContent path [] with
            | .ok files => changed files
            | .error e => cannot c "cannot touch" path e
        | .error e =>
          if path.endsWith "/" && (c.files.locate c.directory
              (.ofList (withoutSlashes path.toList))).toOption.isSome then
            c.complain ("setting times of " ++ c.quotedAlways path ++ ": " ++ e.reason)
          else cannot c "cannot touch" path e) r.operands

/-! ## Links and paths -/

/-- How much of a path has to be there. -/
inductive Needs where
  | all
  | allButLast
  | nothing
  deriving DecidableEq

/-- The place that a path leads to, if as much of it is there as is needed. -/
def resolved (c : Call) (needs : Needs) (path : String) : Except Refusal Location := do
  if path.isEmpty then throw .noEntry
  if needs = .nothing then
    return c.files.settle Files.linkLimit (if path.startsWith "/" then [] else c.directory)
      (path.splitOn "/")
  let place ← c.files.locate c.directory path
  match c.files.at? place with
  | some _ => return place
  | none =>
    if needs = .all || !(c.files.at? place.dropLast).any Node.isDirectory then throw .noEntry
    return place

/-- What is needed of paths; the last option counts. -/
def needsOf (r : Options.Read) : Needs :=
  match ((r.given.filter fun g => "efEm".toList.contains g.1).getLast?).map (·.1) with
  | some 'e' => .all
  | some 'm' => .nothing
  | _ => .allButLast

/-- Tells where links lead. -/
def readlink (c : Call) : Effect :=
  let flags : List Flag := [⟨'f', "canonicalize", .nothing⟩,
    ⟨'e', "canonicalize-existing", .nothing⟩, ⟨'m', "canonicalize-missing", .nothing⟩,
    ⟨'n', "no-newline", .nothing⟩, ⟨'z', "zero", .nothing⟩, ⟨'q', "quiet", .nothing⟩,
    ⟨'s', "silent", .nothing⟩, ⟨'v', "verbose", .nothing⟩]
  c.withOptions flags fun r =>
    if r.operands.isEmpty then missingOperand c
    else
      let canonical := r.has 'f' || r.has 'e' || r.has 'm'
      let ending := if r.has 'n' && r.operands.length = 1 then "" else terminator r
      Effect.all (r.operands.map fun path =>
        let answer : Except Refusal String :=
          if canonical then (resolved c (needsOf r) path).map Files.text
          else match c.files.find? c.directory path false with
            | .ok (_, .link target) => .ok target
            | .ok _ => .error .invalid
            | .error e => .error e
        match answer with
        | .ok text => say (text ++ ending)
        | .error e => if r.has 'v' then c.complain (c.shown path ++ ": " ++ e.reason)
            else { status := 1 })

/-- Tells where paths lead, from the root or from a directory. -/
def realpath (c : Call) : Effect :=
  let flags : List Flag := [⟨'e', "canonicalize-existing", .nothing⟩,
    ⟨'m', "canonicalize-missing", .nothing⟩, ⟨'E', "canonicalize", .nothing⟩,
    ⟨'q', "quiet", .nothing⟩, ⟨'z', "zero", .nothing⟩, ⟨'s', "strip", .nothing⟩,
    ⟨'s', "no-symlinks", .nothing⟩, ⟨'L', "logical", .nothing⟩, ⟨'P', "physical", .nothing⟩,
    ⟨'\x01', "relative-to", .value⟩, ⟨'\x02', "relative-base", .value⟩]
  c.withOptions flags fun r =>
    let place := fun (path : String) =>
      if r.has 's' && !path.isEmpty then
        .ok (Files.settle [] 0 (if path.startsWith "/" then [] else c.directory)
          (path.splitOn "/"))
      else resolved c (needsOf r) path
    let refused := fun (path : String) (e : Refusal) =>
      if r.has 'q' then { status := 1 } else c.complain (c.shown path ++ ": " ++ e.reason)
    let start := ((r.value? '\x01').or (r.value? '\x02')).map fun d => (d, place d)
    let base := ((r.value? '\x02').map place).bind Except.toOption
    match start with
    | some (d, .error e) => refused d e
    | some (d, .ok s) =>
      if r.operands.isEmpty then missingOperand c
      else if needsOf r = .all && !(c.files.at? s).any Node.isDirectory then
        refused d .notDirectory
      else Effect.all (r.operands.map fun path => match place path with
        | .error e => refused path e
        | .ok p =>
          let isInside := (base.map fun b => b.isPrefixOf p && b.isPrefixOf s).getD true
          say ((if isInside then Files.between s p else Files.text p) ++ terminator r))
    | none =>
      if r.operands.isEmpty then missingOperand c
      else Effect.all (r.operands.map fun path => match place path with
        | .ok p => say (Files.text p ++ terminator r)
        | .error e => refused path e)

/-! ## Sizes -/

/-- The size that a text makes of another one: a number, or a change by one. -/
def sizeAfter? (s : String) : Option (Nat → Nat) :=
  let (sign, rest) := match s.toList with
    | ch :: rest => if "+-<>/%".toList.contains ch then (ch, rest) else ('=', ch :: rest)
    | [] => ('=', [])
  match (Count.read Count.sizes rest).toOption with
  | none => none
  | some n => match sign with
    | '+' => some (· + n)
    | '-' => some (· - n)
    | '<' => some (min n)
    | '>' => some (max n)
    | '/' => if n = 0 then none else some fun m => m / n * n
    | '%' => if n = 0 then none else some fun m => (m + n - 1) / n * n
    | _ => some fun _ => n

/-- Gives files a size: what is too much is cut off, what is missing is filled with zeros. -/
def truncate (c : Call) : Effect :=
  let flags : List Flag := [⟨'s', "size", .value⟩, ⟨'c', "no-create", .nothing⟩,
    ⟨'o', "io-blocks", .nothing⟩, ⟨'r', "reference", .value⟩]
  c.withOptions flags fun r =>
    let change := (r.value? 's').map sizeAfter?
    let model := (r.value? 'r').map fun m => (m, c.files.find? c.directory m)
    let sizeOf := fun (n : Option Node) => match n with
      | some (.file content _) => content.length
      | _ => 0
    match change, model with
    | some none, _ => c.complain ("Invalid number: " ++ c.quoted ((r.value? 's').getD ""))
    | none, none => c.misuse ("you must specify either " ++ c.quoted "--size" ++ " or " ++
        c.quoted "--reference")
    | _, some (m, .error e) => cannot c "cannot stat" m e
    | change, model =>
      if r.operands.isEmpty then c.misuse "missing file operand"
      else forEach c (fun c path =>
        let there := (c.files.find? c.directory path).toOption.map (·.2)
        if there.isNone && r.has 'c' then {}
        else
          let start := match model with
            | some (_, .ok (_, n)) => sizeOf (some n)
            | _ => sizeOf there
          let size := match change with
            | some (some f) => f start
            | _ => start
          let old := match there with
            | some (.file content _) => content
            | _ => []
          let content := old.take size ++ List.replicate (size - old.length) 0
          match c.withContent path content with
          | .ok files => changed files
          | .error e => c.complain ("cannot open " ++ c.quotedAlways path ++ " for writing: " ++
              e.reason)) r.operands

/-! ## Copies of the input -/

/-- Writes the input to the output and to files. -/
def tee (c : Call) : Effect :=
  let flags : List Flag := [⟨'a', "append", .nothing⟩, ⟨'i', "ignore-interrupts", .nothing⟩,
    ⟨'p', "", .nothing⟩]
  c.withOptions flags fun r =>
    let e := forEach c (fun c path => match c.withContent path c.input.bytes (r.has 'a') with
      | .ok files => changed files
      | .error e => c.complain (c.shown path ++ ": " ++ e.reason)) r.operands
    { e with left := some { c.input with bytes := [] }, copies := true }

end Errand.Host.Program
