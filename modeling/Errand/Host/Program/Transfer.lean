import Errand.Host.Program.Tree

/-! # Copies, moves and links

Sources get to places: what a source leads to is copied there, moved there, or linked from there. A
place is the target itself, or the last name of the source in it if the target is a directory. What
is at a place may be replaced, kept, asked about, or put aside under another name.

* `Transfer.destinations` pairs sources with places;
* `Program.cp`, `Program.mv` and `Program.ln` bring sources to places. -/

namespace Errand.Host.Program

namespace Transfer

/-! ## Sources and places -/

/-- A source and the path that it gets. -/
abbrev Pair := String × String

/-- A source with its path in a directory. -/
def inside (target source : String) : Pair :=
  (source, Path.append target (.ofList (lastName source)))

/-- Whether a path leads to a directory; a link is followed unless it is taken as it is. -/
def isDirectory (c : Call) (target : String) (follows : Bool := true) : Except Refusal Bool :=
  (c.files.find? c.directory target follows).map (·.2.isDirectory)

/-- What operands that end with a target say. -/
def destinations (c : Call) (r : Options.Read) (follows : Bool := true) :
    Except Effect (List Pair) :=
  match r.value? 't' with
  | some target =>
    match isDirectory c target with
    | .ok true =>
      if r.operands.isEmpty then .error (c.misuse "missing file operand")
      else .ok (r.operands.map (inside target))
    | .ok false => .error (cannot c "target directory" target .notDirectory)
    | .error e => .error (cannot c "target directory" target e)
  | none =>
    match r.operands.reverse with
    | [] => .error (c.misuse "missing file operand")
    | [a] => .error (c.misuse ("missing destination file operand after " ++ c.quotedAlways a))
    | target :: sources =>
      let sources := sources.reverse
      if r.has 'T' then
        match r.operands with
        | [source, target] => .ok [(source, target)]
        | _ => .error (c.misuse ("extra operand " ++ c.quotedAlways (r.operands.getD 2 "")))
      else
        let refused := fun (e : Refusal) =>
          c.complain ("target " ++ c.quotedAlways target ++ ": " ++ e.reason)
        match isDirectory c target follows, sources with
        | .ok true, _ => .ok (sources.map (inside target))
        | _, [source] => .ok [(source, target)]
        | .ok false, _ => .error (refused .notDirectory)
        | .error e, _ => .error (refused e)

/-! ## What is in the way -/

/-- What is done with something that is in the way. -/
inductive Manner where
  | replaces
  | keeps
  | asks
  deriving DecidableEq

/-- The manner that options ask for; the last one counts. -/
def mannerOf (r : Options.Read) : Manner :=
  match ((r.given.filter fun g => "fin".toList.contains g.1).getLast?).map (·.1) with
  | some 'i' => .asks
  | some 'n' => .keeps
  | _ => if r.has 'u' then .keeps else .replaces

/-- The ending of a name under which something is put aside, if that is asked for. -/
def endingOf? (r : Options.Read) : Option String :=
  if r.has 'b' || r.has 'S' then some ((r.value? 'S').getD "~") else none

/-- The files after something in the way is put aside, and what is told about it. -/
def putAside (c : Call) (r : Options.Read) (target : String) (place : Location) :
    Files × String :=
  match endingOf? r, c.files.at? place, place.getLast? with
  | some ending, some _, some name =>
    (c.files.move place (place.dropLast ++ [name ++ ending]),
      " (backup: " ++ c.quotedAlways (target ++ ending) ++ ")")
  | _, _, _ => (c.files, "")

/-- The line about a transfer, if it is asked for. -/
def told (c : Call) (r : Options.Read) (what source arrow target aside : String) : Effect :=
  if r.has 'v' then
    say (what ++ c.quotedAlways source ++ arrow ++ c.quotedAlways target ++ aside ++ "\n")
  else {}

/-- The options that all transfers have. -/
def flags : List Flag :=
  [⟨'f', "force", .nothing⟩, ⟨'n', "no-clobber", .nothing⟩, ⟨'i', "interactive", .nothing⟩,
    ⟨'u', "update", .nothing⟩, ⟨'v', "verbose", .nothing⟩, ⟨'b', "", .nothing⟩,
    ⟨'S', "suffix", .value⟩, ⟨'b', "backup", .optional⟩, ⟨'t', "target-directory", .value⟩,
    ⟨'T', "no-target-directory", .nothing⟩, ⟨'\x01', "strip-trailing-slashes", .nothing⟩]

/-- Where a target is put; slashes at its end do not count here. -/
def placeOf (c : Call) (target : String) (follows : Bool := true) : Except Refusal Location :=
  c.placeFor (.ofList (withoutSlashes target.toList)) follows

/-- Goes on with something for a source and its path. -/
def forPairs (c : Call) (f : Call → String → String → Effect) (pairs : List Pair) : Effect :=
  forEach c (fun c p => f c p.1 p.2) pairs

/-! ## Copies -/

/-- What is at a place after something is copied there. A file that was there keeps its mode unless
that is copied as well; a new one gets what the mask leaves. -/
def copyOf (c : Call) (r : Options.Read) (node : Node) (old : Option Node) : Node :=
  let mode := fun (new : Nat) => if r.has 'p' || r.has 'a' then new else match old with
    | some (.file _ mode) => mode
    | _ => Mode.without new (0o7000 ||| c.mask)
  match node with
  | .file content new => .file content (mode new)
  | .device _ => .file [] (mode 0o666)
  | .directory new => .directory (if r.has 'p' || r.has 'a' then new else Mode.without new c.mask)
  | n => n

/-- Copies what is at a place, and all that is in it; the number bounds how deep that is. -/
def copy (r : Options.Read) : Nat → Call → String → Location → String → Effect
  | depth, c, source, place, target =>
    match c.files.at? place, placeOf c target with
    | none, _ => {}
    | some (.directory _), .error e => cannot c "cannot create directory" target e
    | some _, .error e => cannot c "cannot create regular file" target e
    | some node, .ok there =>
      let old := c.files.at? there
      match node, old with
      | .directory mode, old =>
        if place.isPrefixOf there then
          c.complain ("cannot copy a directory, " ++ c.quotedAlways source ++ ", into itself, " ++
            c.quotedAlways target)
        else if old.any fun n => !n.isDirectory then
          c.complain ("cannot overwrite non-directory " ++ c.quotedAlways target ++
            " with directory " ++ c.quotedAlways source)
        else
          let made : Effect := if old.isSome then {} else
            (changed (c.files.put there (copyOf c r (.directory mode) none))).andThen
              (told c r "" source " -> " target "")
          match depth with
          | 0 => made
          | depth + 1 =>
            made.andThen (forEach (afterwards c made) (fun c name =>
              copy r depth c (Path.append source name) (place ++ [name])
                (Path.append target name)) (c.files.names place))
      | _, some (.directory _) =>
        c.complain ("cannot overwrite directory " ++ c.quotedAlways target ++
          " with non-directory")
      | _, some (.device _) => told c r "" source " -> " target ""
      | _, none =>
        if target.endsWith "/" then cannot c "cannot create regular file" target .notDirectory
        else (changed (c.files.put there (copyOf c r node none))).andThen
          (told c r "" source " -> " target "")
      | _, some _ =>
        if mannerOf r = .keeps then {}
        else confirmed c (mannerOf r = .asks) ("overwrite " ++ c.quotedAlways target) (fun c =>
          let (files, aside) := putAside c r target there
          let old := if aside.isEmpty then old else none
          (changed (files.put there (copyOf c r node old))).andThen
            (told c r "" source " -> " target aside)) { status := 1 }

/-- Links to a source instead of copying it. -/
def linkInstead (c : Call) (r : Options.Read) (source : String) (node : Node) (target : String) :
    Effect :=
  let what := if r.has 's' then "cannot create symbolic link" else "cannot create hard link"
  match c.placeFor target false with
  | .error e => c.complain (what ++ " " ++ c.quotedAlways target ++ " to " ++
      c.quotedAlways source ++ ": " ++ e.reason)
  | .ok there =>
    if (c.files.at? there).isSome && !r.has 'f' then
      c.complain (what ++ " " ++ c.quotedAlways target ++ " to " ++ c.quotedAlways source ++ ": " ++
        Refusal.occupied.reason)
    else if r.has 's' && !source.startsWith "/" && there.dropLast != c.directory then
      c.complain (c.shown target ++
        ": can make relative symbolic links only in current directory")
    else (changed (c.files.put there (if r.has 's' then .link source else node))).andThen
      (told c r "" source " -> " target "")

end Transfer

open Transfer in
/-- Copies files, and directories if that is asked for. -/
def cp (c : Call) : Effect :=
  let flags : List Flag := [⟨'r', "recursive", .nothing⟩, ⟨'R', "", .nothing⟩,
    ⟨'a', "archive", .nothing⟩, ⟨'p', "", .nothing⟩, ⟨'p', "preserve", .optional⟩,
    ⟨'L', "dereference", .nothing⟩, ⟨'P', "no-dereference", .nothing⟩, ⟨'d', "", .nothing⟩,
    ⟨'H', "", .nothing⟩, ⟨'l', "link", .nothing⟩, ⟨'s', "symbolic-link", .nothing⟩,
    ⟨'x', "one-file-system", .nothing⟩, ⟨'\x02', "remove-destination", .nothing⟩,
    ⟨'\x03', "no-preserve", .value⟩, ⟨'\x04', "sparse", .value⟩, ⟨'\x05', "reflink", .optional⟩]
      ++ flags
  c.withOptions flags fun r =>
    match destinations c r with
    | .error e => e
    | .ok pairs =>
      let warning := if r.has 'n' then
          c.complain ("warning: behavior of -n is non-portable and may change in future; " ++
            "use --update=none instead") 0
        else {}
      let isDeep := r.has 'r' || r.has 'R' || r.has 'a'
      let follows := r.has 'L' || r.has 'H' ||
        !(isDeep || r.has 'P' || r.has 'd')
      warning.andThen (forPairs c (fun c source target =>
        match c.files.find? c.directory source follows with
        | .error e => cannot c "cannot stat" source e
        | .ok (place, node) =>
          let there := c.files.find? c.directory target
          if node.isDirectory && !isDeep then
            c.complain ("-r not specified; omitting directory " ++ c.quotedAlways source)
          else if (there.toOption.map (·.1)) == some place then
            c.complain (c.quotedAlways source ++ " and " ++ c.quotedAlways target ++
              " are the same file")
          else if (r.has 'l' || r.has 's') && !node.isDirectory then
            linkInstead c r source node target
          else copy r 64 c source place target) pairs)

open Transfer in
/-- Moves files and directories. -/
def mv (c : Call) : Effect :=
  c.withOptions flags fun r =>
    match destinations c r with
    | .error e => e
    | .ok pairs => forPairs c (fun c source target =>
      match c.files.find? c.directory source false with
      | .error e => cannot c "cannot stat" source e
      | .ok (place, node) =>
        let refused := fun (e : String) => c.complain ("cannot move " ++ c.quotedAlways source ++
          " to " ++ c.quotedAlways target ++ ": " ++ e)
        match placeOf c target false with
        | .error e => refused e.reason
        | .ok there =>
          let last := lastName source
          let old := c.files.at? there
          if there == place then c.complain (c.quotedAlways source ++ " and " ++
            c.quotedAlways target ++ " are the same file")
          else if last == ['.'] || last == "..".toList then refused Refusal.busy.reason
          else if place.isPrefixOf there then c.complain ("cannot move " ++ c.quotedAlways source ++
            " to a subdirectory of itself, " ++ c.quotedAlways target)
          else if old.isNone && target.endsWith "/" && !node.isDirectory then
            refused Refusal.notDirectory.reason
          else if old.isSome && mannerOf r = .keeps then {}
          else confirmed c (old.isSome && mannerOf r = .asks)
            ("overwrite " ++ c.quotedAlways target) (fun c =>
            let (files, aside) := putAside c r target there
            let goOn := (changed (files.move place there)).andThen
              (told c r "renamed " source " -> " target aside)
            match if aside.isEmpty then old else none, node with
            | some (.directory _), .directory _ =>
              if (c.files.names there).isEmpty then goOn
              else c.complain ("cannot overwrite " ++ c.quotedAlways target ++ ": " ++
                Refusal.notEmpty.reason)
            | some (.directory _), _ => c.complain ("cannot overwrite directory " ++
                c.quotedAlways target ++ " with non-directory")
            | some _, .directory _ => c.complain ("cannot overwrite non-directory " ++
                c.quotedAlways target ++ " with directory " ++ c.quotedAlways source)
            | _, _ => goOn) { status := 1 }) pairs

/-! ## Links -/

open Transfer in
/-- Makes links. -/
def ln (c : Call) : Effect :=
  let flags : List Flag := [⟨'s', "symbolic", .nothing⟩, ⟨'n', "no-dereference", .nothing⟩,
    ⟨'r', "relative", .nothing⟩, ⟨'L', "logical", .nothing⟩, ⟨'P', "physical", .nothing⟩,
    ⟨'d', "directory", .nothing⟩, ⟨'F', "", .nothing⟩] ++ Transfer.flags
  c.withOptions flags fun r =>
    let r := match r.operands with
      | [a] => if r.has 't' || r.has 'T' then r else { r with operands := [a, "."] }
      | _ => r
    match destinations c r (!r.has 'n') with
    | .error e => e
    | .ok pairs => forPairs c (fun c source target =>
      let isSymbolic := r.has 's' || r.has 'r'
      let what := if isSymbolic then "failed to create symbolic link" else
        "failed to create hard link"
      match c.files.find? c.directory source (r.has 'L'), c.placeFor target false with
      | _, .error e => cannot c what target e
      | found, .ok there =>
        let isOccupied := (c.files.at? there).isSome && endingOf? r = none
        let goOn := fun (c : Call) =>
          let (files, aside) := putAside c r target there
          if isSymbolic then
            let text := match r.has 'r', c.files.locate c.directory source with
              | true, .ok place => Files.between there.dropLast place
              | _, _ => source
            (changed (files.put there (.link text))).andThen
              (told c r "" target " -> " text aside)
          else match found with
            | .error e => cannot c "failed to access" source e
            | .ok (_, .directory _) =>
              c.complain (c.shown source ++ ": hard link not allowed for directory")
            | .ok (place, node) =>
              if place == there then c.complain (c.quotedAlways source ++ " and " ++
                c.quotedAlways target ++ " are the same file")
              else (changed (files.put there node)).andThen
                (told c r "" target " => " source aside)
        if (c.files.at? there).any Node.isDirectory then cannot c what target .occupied
        else match isOccupied, mannerOf r with
          | true, .asks => confirmed c true ("replace " ++ c.quotedAlways target) goOn
              { status := 1 }
          | true, _ => if r.has 'f' then goOn c else cannot c what target .occupied
          | false, _ => goOn c) pairs

end Errand.Host.Program
