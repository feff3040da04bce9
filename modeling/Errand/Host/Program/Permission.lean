import Errand.Host.Mode
import Errand.Host.Program.Tree

/-! # Permissions

`Program.chmod` changes the modes of files and directories, one operand after the other. -/

namespace Errand.Host.Program

namespace Permission

/-- What a change of modes is: the changes, or a mode that stands for all. -/
inductive Wanted where
  | changes (cs : List Mode.Change)
  | fixed (mode : Nat)

/-- The mode of something after a change. -/
def Wanted.mode (w : Wanted) (mask : Nat) (node : Node) : Nat :=
  match w with
  | .changes cs => Mode.after cs mask node.isDirectory node.mode
  | .fixed mode => mode

/-- A mode in digits and in letters. -/
def described (mode : Nat) : String := Mode.digits mode ++ " (" ++ Mode.letters mode ++ ")"

/-- What is told of a change, if that is asked for. -/
def told (c : Call) (r : Options.Read) (path : String) (before after : Nat) : Effect :=
  if before != after && (r.has 'v' || r.has 'c') then
    say ("mode of " ++ c.quotedAlways path ++ " changed from " ++ described before ++ " to " ++
      described after ++ "\n")
  else if before == after && r.has 'v' then
    say ("mode of " ++ c.quotedAlways path ++ " retained as " ++ described before ++ "\n")
  else {}

/-- Changes the mode of what is at a place; the number bounds how deep directories are gone
into. -/
def change (r : Options.Read) (w : Wanted) : Nat → Call → String → Location → Effect
  | depth, c, path, place =>
    match c.files.at? place with
    | none => {}
    | some node =>
      let mode := w.mode c.mask node
      let files := c.files.put place (node.withMode mode)
      let own := (changed files).andThen (told c r path node.mode mode)
      match depth with
      | 0 => own
      | depth + 1 =>
        if node.isDirectory && r.has 'R' then
          let inside := (files.names place).filter fun n => match files.at? (place ++ [n]) with
            | some (.link _) => false
            | _ => true
          own.andThen (forEach { c with files } (fun c name =>
            change r w depth c (Path.append path name) (place ++ [name])) inside)
        else own

end Permission

open Permission in
/-- Changes the modes of files. -/
def chmod (c : Call) : Effect :=
  let isMode := fun (a : String) => match a.toList with
    | '-' :: d :: _ => "rwxXstugo,+=".toList.contains d || d.isDigit
    | _ => false
  let (before, after) := c.arguments.span fun a => !isMode a
  let arguments := if before.contains "--" || after.isEmpty then c.arguments
    else before ++ "--" :: after
  let flags : List Flag := [⟨'R', "recursive", .nothing⟩, ⟨'v', "verbose", .nothing⟩,
    ⟨'f', "silent", .nothing⟩, ⟨'f', "quiet", .nothing⟩, ⟨'c', "changes", .nothing⟩,
    ⟨'\x01', "reference", .value⟩, ⟨'\x02', "no-preserve-root", .nothing⟩,
    ⟨'\x02', "preserve-root", .nothing⟩]
  { c with arguments : Call }.withOptions flags fun r =>
    let apply := fun (w : Wanted) (paths : List String) =>
      forEach c (fun c path => match c.files.find? c.directory path with
        | .error e =>
          if r.has 'f' then { status := 1 }
          else if (c.files.find? c.directory path false).toOption.isSome && e = .noEntry then
            c.complain ("cannot operate on dangling symlink " ++ c.quotedAlways path)
          else (cannot c "cannot access" path e).andThen (if r.has 'v' then
            say (c.quotedAlways path ++ " could not be accessed\n") else {})
        | .ok (place, _) => change r w 64 c path place) paths
    match r.value? '\x01', r.operands with
    | some _, [] => missingOperand c
    | some model, paths =>
      match c.files.find? c.directory model with
      | .error e => c.complain ("failed to get attributes of " ++ c.quotedAlways model ++ ": " ++
          e.reason)
      | .ok (_, node) => apply (.fixed node.mode) paths
    | none, [] => missingOperand c
    | none, [a] => c.misuse ("missing operand after " ++ c.quoted a)
    | none, mode :: paths =>
      match Mode.read? mode with
      | none => c.misuse ("invalid mode: " ++ c.quoted mode)
      | some cs => apply (.changes cs) paths

end Errand.Host.Program
