import Errand.Host.Count
import Errand.Host.Program.Listing

/-! # Facts about files

`Program.stat` tells facts about files by a format: their size, their mode, who owns them. -/

namespace Errand.Host.Program

namespace Facts

/-- The name of a kind of file. -/
def kindName (node : Node) : String :=
  match node with
  | .directory _ => "directory"
  | .link _ => "symbolic link"
  | .device _ => "character special file"
  | .file [] _ => "regular empty file"
  | _ => "regular file"

/-- The bits of a mode that tell the kind. -/
def kindBits (node : Node) : Nat :=
  match node with
  | .directory _ => 0o040000
  | .link _ => 0o120000
  | .device _ => 0o020000
  | _ => 0o100000

/-- Something that facts are told about. -/
structure Subject where
  name : String
  entry : Listing.Entry
  files : Files

/-- A fact by its letter. -/
def Subject.fact (c : Call) (s : Subject) (letter : Char) : String :=
  let node := s.entry.node
  let size := Listing.sizeOf node
  match letter with
  | 'n' => s.name
  | 'N' => c.quotedAlways s.name ++ match node with
    | .link target => " -> " ++ c.quotedAlways target
    | _ => ""
  | 's' => toString size
  | 'F' => kindName node
  | 'a' => String.ofList (Nat.toDigits 8 node.mode)
  | 'A' => String.singleton (Listing.kindLetter node) ++ Mode.letters node.mode
  | 'f' => String.ofList (Nat.toDigits 16 (kindBits node + node.mode))
  | 'U' | 'G' => "root"
  | 'u' | 'g' => "0"
  | 'h' => toString (Listing.linksOf s.files s.entry)
  | 'b' => toString (2 * Listing.blocksOf node)
  | 'B' => "512"
  | 'o' => "4096"
  | 'i' => "1"
  | 'd' | 'D' | 't' | 'T' | 'r' | 'R' => "0"
  | 'w' => "-"
  | 'x' | 'y' | 'z' => "1970-01-01 00:00:00.000000000 +0000"
  | 'X' | 'Y' | 'Z' | 'W' => "0"
  | 'm' => "/"
  | 'C' => "?"
  | _ => "?"

/-- A text in a width; a minus puts it to the left, a zero fills it up. -/
def placed (flags : List Char) (width : Nat) (s : String) : String :=
  let gap := fun ch => String.ofList (List.replicate (width - s.length) ch)
  if flags.contains '-' then s ++ gap ' '
  else if flags.contains '0' then gap '0' ++ s
  else gap ' ' ++ s

/-- Facts by a format; escapes count only if a flag says so. The number bounds the characters. -/
def written (c : Call) (s : Subject) (escapes : Bool) : Nat → List Char → List Char
  | 0, _ => []
  | _, [] => []
  | fuel + 1, '%' :: cs =>
    let flags := cs.takeWhile "#-+ 0'".toList.contains
    let ds := (cs.drop flags.length).takeWhile Char.isDigit
    match cs.drop (flags.length + ds.length) with
    | [] => '%' :: cs
    | '%' :: rest => '%' :: written c s escapes fuel rest
    | letter :: rest =>
      let fact := Subject.fact c s letter
      let fact := if flags.contains '#' && letter == 'a' then "0" ++ fact else fact
      (placed flags (Numeral.valueOf 10 ds) fact).toList ++ written c s escapes fuel rest
  | fuel + 1, '\\' :: cs =>
    match escapes, Printing.echoEscape cs with
    | true, .octets e rest => e ++ written c s escapes fuel rest
    | _, _ => '\\' :: written c s escapes fuel cs
  | fuel + 1, ch :: cs => ch :: written c s escapes fuel cs

/-- The format that facts have if no other is asked for. -/
def usual : String :=
  "  File: %N\n  Size: %-10s\tBlocks: %-10b IO Block: %-6o %F\n" ++
    "Device: 0,0\tInode: %-11i Links: %h\n" ++
    "Access: (%04a/%10.A)  Uid: (%5u/%8U)   Gid: (%5g/%8G)\n" ++
    "Access: %x\nModify: %y\nChange: %z\n Birth: %w\n"

end Facts

open Facts in
/-- Tells facts about files. -/
def stat (c : Call) : Effect :=
  let flags : List Flag := [⟨'L', "dereference", .nothing⟩, ⟨'c', "format", .value⟩,
    ⟨'\x01', "printf", .value⟩, ⟨'f', "file-system", .nothing⟩, ⟨'t', "terse", .nothing⟩,
    ⟨'\x02', "cached", .value⟩]
  c.withOptions flags fun r =>
    if r.operands.isEmpty then missingOperand c
    else Effect.all (r.operands.map fun name =>
      match c.files.find? c.directory name (r.has 'L') with
      | .error e => c.complain ("cannot statx " ++ c.quotedAlways name ++ ": " ++ e.reason)
      | .ok (place, node) =>
        let subject : Subject := ⟨name, ⟨name, place, node⟩, c.files⟩
        let (format, escapes, ending) := match r.value? '\x01', r.value? 'c' with
          | some f, _ => (f, true, "")
          | none, some f => (f, false, "\n")
          | none, none => (usual, false, "")
        say (.ofList (written c subject escapes (format.length + 1) format.toList) ++ ending))

end Errand.Host.Program
