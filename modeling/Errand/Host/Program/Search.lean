import Errand.Host.Count
import Errand.Host.Program.Content
import Errand.Text.Regular.Reader
import Errand.Text.Wildcard

/-! # Lines with a pattern

Lines are selected that have a pattern in them, or that have not. They are shown with names and
numbers before them, with the lines around them, or only the parts that match; or it is told how
many there are.

`Program.grep` selects lines of contents. -/

namespace Errand.Host.Program

open Text (Regular)

namespace Search

/-- How patterns are written. -/
inductive Dialect where
  | basic
  | extended
  | fixed
  deriving DecidableEq, Repr

/-- What is shown of selected lines. -/
structure View where
  names : Bool := false
  numbers : Bool := false
  offsets : Bool := false
  partsOnly : Bool := false
  before : Nat := 0
  after : Nat := 0
  mark : UInt8 := lineEnd
  /-- Whether a byte of zero stands after names. -/
  endsNames : Bool := false
  /-- The name of the input. -/
  inputTitle : String := "(standard input)"

/-- A line, its number and where it begins. -/
structure Row where
  text : Bytes
  number : Nat
  offset : Nat

/-- The rows of a content. -/
def rowsOf (mark : UInt8) (bs : Bytes) : List Row :=
  ((lines bs mark).foldl (fun (rows, n, at') line =>
    ((⟨chomp line mark, n, at'⟩ :: rows : List Row), n + 1, at' + line.length))
    (([], 1, 0) : List Row × Nat × Nat)).1.reverse

/-- The dialect that options ask for. -/
def dialectOf (r : Options.Read) (otherwise : Dialect) : Dialect :=
  match (r.given.filter fun g => "EFGP".toList.contains g.1).getLast? with
  | some ('E', _) | some ('P', _) => .extended
  | some ('F', _) => .fixed
  | some _ => .basic
  | none => otherwise

/-- Reads patterns, one on each line of a text: the expressions, and what is to be told. -/
def patternsOf (c : Call) (s : Dialect) (r : Options.Read) (text : String) :
    Except String (List Regular × List String) := do
  let caseless := r.has 'i' || r.has 'y'
  let fit := fun (e : Regular) => if r.has 'x' then e.whole else if r.has 'w' then e.asWord else e
  let read ← (text.splitOn "\n").mapM fun line => match s with
    | .fixed => .ok (Regular.literal caseless
        (Text.Codes.ofBytes c.isUnicode (Text.Octets.bytesOf line)), [])
    | _ =>
      if line.startsWith "[:" && line.endsWith ":]" then
        .error "character class syntax is [[:space:]], not [:space:]"
      else Regular.read { extended := s == .extended, caseless, knowsDigits := r.has 'P' }
        (Text.Octets.toText line)
  return (read.map fun e => fit e.1, read.flatMap (·.2))

/-- The first match of some expressions from a place on; of those that begin at the same place, the
longest. -/
def best (es : List Regular) (p : Regular.Point) : Option (Regular.Point × Regular.Point) :=
  (es.filterMap fun e => e.search? p).foldl (fun best m =>
    match best with
    | some b => if m.1.index < b.1.index || m.1.index = b.1.index && b.2.index < m.2.index
        then some m else best
    | none => some m) none

/-- The parts of a text that match, with where they begin; the number bounds them. -/
def partsFrom (es : List Regular) : Nat → Regular.Point → List (Nat × List Nat)
  | 0, _ => []
  | n + 1, p =>
    match best es p with
    | none => []
    | some (a, b) =>
      if a.index < b.index then (a.index, a.textTo b) :: partsFrom es n b
      else if a.rest.isEmpty then [] else partsFrom es n (a.advance 1)

/-- What stands before a line: its name, its number and its place, each with a mark. -/
def headOf (d : View) (name : String) (mark : String) (number offset : Nat) : Bytes :=
  Text.Octets.bytesOf ((if d.names then name ++ (if d.endsNames then "\x00" else mark) else "") ++
    (if d.numbers then toString number ++ mark else "") ++
    if d.offsets then toString offset ++ mark else "")

/-- The rows that are shown, each with whether it is selected: those that are selected and those
around them. -/
def shownRows (d : View) (rows : List (Row × Bool)) : List (Row × Bool) :=
  let chosen := (rows.filter (·.2)).map fun e => e.1.number
  rows.filter fun e => chosen.any fun n =>
    n ≤ e.1.number + d.before && e.1.number ≤ n + d.after

/-- Rows as they are shown, with marks between those that do not follow each other. -/
def written (d : View) (unicode : Bool) (es : List Regular) (name : String) :
    Option Nat → List (Row × Bool) → List Bytes
  | _, [] => []
  | previous, (row, isSelected) :: rest =>
    let hasGap := (0 < d.before || 0 < d.after) &&
      (previous.map fun n => decide (n + 1 < row.number)).getD false
    let gap := if hasGap then [45, 45, lineEnd] else []
    let shown :=
      if d.partsOnly then
        if !isSelected then []
        else
          let codes := Text.Codes.ofBytes unicode row.text
          (partsFrom es (codes.length + 1) { rest := codes }).flatMap fun (i, part) =>
            headOf d name ":" row.number
              (row.offset + (Text.Codes.toBytes (codes.take i)).length) ++
              Text.Codes.toBytes part ++ [d.mark]
      else headOf d name (if isSelected then ":" else "-") row.number row.offset ++ row.text ++
        [d.mark]
    gap :: shown :: written d unicode es name (some row.number) rest

/-- Whether a content is no text. -/
def isBinary (unicode : Bool) (mark : UInt8) (bs : Bytes) : Bool :=
  mark != 0 && bs.contains 0 || unicode && !(Text.Utf8.pieces bs).all Text.Utf8.Piece.isChar

/-- How the arguments are used. -/
def usage : String :=
  "Usage: grep [OPTION]... PATTERNS [FILE]...\nTry 'grep --help' for more information.\n"

/-- A complaint about the arguments. -/
def misuse (c : Call) (text : Option String) : Effect :=
  let told := match text with
    | some t => c.name ++ ": " ++ t ++ "\n"
    | none => ""
  { writes := [(errorNumber, Text.Octets.bytesOf (told ++ usage))], status := 2 }

/-- The options. -/
def flags : List Flag :=
  [⟨'E', "extended-regexp", .nothing⟩, ⟨'F', "fixed-strings", .nothing⟩,
    ⟨'G', "basic-regexp", .nothing⟩, ⟨'P', "perl-regexp", .nothing⟩, ⟨'e', "regexp", .value⟩,
    ⟨'f', "file", .value⟩, ⟨'i', "ignore-case", .nothing⟩, ⟨'y', "", .nothing⟩,
    ⟨'v', "invert-match", .nothing⟩, ⟨'w', "word-regexp", .nothing⟩,
    ⟨'x', "line-regexp", .nothing⟩, ⟨'c', "count", .nothing⟩,
    ⟨'l', "files-with-matches", .nothing⟩, ⟨'L', "files-without-match", .nothing⟩,
    ⟨'m', "max-count", .value⟩, ⟨'o', "only-matching", .nothing⟩, ⟨'q', "quiet", .nothing⟩,
    ⟨'q', "silent", .nothing⟩, ⟨'s', "no-messages", .nothing⟩, ⟨'b', "byte-offset", .nothing⟩,
    ⟨'H', "with-filename", .nothing⟩, ⟨'h', "no-filename", .nothing⟩,
    ⟨'n', "line-number", .nothing⟩, ⟨'A', "after-context", .value⟩,
    ⟨'B', "before-context", .value⟩, ⟨'C', "context", .value⟩, ⟨'a', "text", .nothing⟩,
    ⟨'z', "null-data", .nothing⟩, ⟨'\x01', "color", .optional⟩,
    ⟨'\x01', "colour", .optional⟩, ⟨'\x02', "line-buffered", .nothing⟩,
    ⟨'U', "binary", .nothing⟩, ⟨'r', "recursive", .nothing⟩,
    ⟨'R', "dereference-recursive", .nothing⟩, ⟨'Z', "null", .nothing⟩, ⟨'\x03', "label", .value⟩,
    ⟨'\x04', "include", .value⟩, ⟨'\x05', "exclude", .value⟩, ⟨'\x06', "exclude-dir", .value⟩]

/-- Selects lines of one content: what is shown, and whether any line is selected. -/
def searchOne (c : Call) (r : Options.Read) (d : View) (es : List Regular) (most : Option Nat)
    (name : String) (bs : Bytes) : Effect × Bool :=
  let title := if name == Sources.inputName then d.inputTitle else name
  let rows := rowsOf d.mark bs
  let isSelected := fun (row : Row) =>
    let codes := Text.Codes.ofBytes c.isUnicode row.text
    (es.any fun e => e.isIn codes) != r.has 'v'
  let marked := rows.map fun row => (row, isSelected row)
  let marked := match most with
    | none => marked
    | some n =>
      let chosen := (marked.filter (·.2)).take n
      let last := (chosen.getLast?.map fun e => e.1.number).getD 0
      marked.filterMap fun e =>
        if e.1.number ≤ last then some e
        else if e.1.number ≤ last + d.after then some (e.1, false) else none
  let count : Nat := marked.countP (·.2)
  let line := fun (s : String) => say (s ++ "\n")
  let shown :=
    let named := say (title ++ if d.endsNames then "\x00" else "\n")
    if r.has 'q' then {}
    else if r.has 'l' then (if 0 < count then named else {})
    else if r.has 'L' then (if count = 0 then named else {})
    else if r.has 'c' then
      line ((if d.names then title ++ (if d.endsNames then "\x00" else ":") else "") ++
        toString count)
    else if !r.has 'a' && 0 < count && isBinary c.isUnicode d.mark bs then
      c.complain (title ++ ": binary file matches") 0
    else Effect.write (written d c.isUnicode es title none (shownRows d marked)).flatten
  (shown, if r.has 'L' then count == 0 else count != 0)

/-- The files below a directory that options let through, by their paths; the number bounds how
deep they are. -/
def filesBelow (c : Call) (r : Options.Read) : Nat → String → List String
  | 0, _ => []
  | depth + 1, path =>
    match c.files.find? c.directory path with
    | .ok (place, .directory _) =>
      let patterns := fun (letter : Char) => r.given.filterMap fun g =>
        if g.1 == letter then g.2 else none
      let fits := fun (letter : Char) (name : String) =>
        (patterns letter).any fun p => Text.Wildcard.isFit p name
      (c.files.names place).flatMap fun name =>
        let full := if path.isEmpty then name else Path.append path name
        match c.files.at? (place ++ [name]) with
        | some (.directory _) => if fits '\x06' name then [] else filesBelow c r depth full
        | some (.file _ _) =>
          if fits '\x05' name || !(patterns '\x04').isEmpty && !fits '\x04' name then [] else [full]
        | some (.link _) => if r.has 'R' then filesBelow c r depth full else []
        | _ => []
    | _ => [path]

end Search

open Search

/-- Selects lines of contents that have a pattern in them. -/
def grep (usual : Search.Dialect) (c : Call) : Effect :=
  let c := { c with name := "grep" }
  let arguments := c.arguments.map fun a => match a.toList with
    | '-' :: d :: ds => if (d :: ds).all Char.isDigit then "-C" ++ String.ofList (d :: ds) else a
    | _ => a
  match Options.read flags false arguments with
  | .error e => misuse c (some e)
  | .ok r =>
    let number := fun (letter : Char) (what : String) => match r.value? letter with
      | none => Except.ok none
      | some s => match Count.read Count.sizes s.toList with
        | .ok n => .ok (some n)
        | .error _ => .error (if letter == 'm' then what else s ++ ": " ++ what)
    let counts : Except String (Option Nat × Nat × Nat) := do
      let context ← number 'C' "invalid context length argument"
      let after ← number 'A' "invalid context length argument"
      let before ← number 'B' "invalid context length argument"
      return (← number 'm' "invalid max count", (before.or context).getD 0,
        (after.or context).getD 0)
    let listed : Except (String × Refusal) (List String) :=
      (r.given.filter fun g => g.1 == 'e' || g.1 == 'f').mapM fun g =>
        let v := g.2.getD ""
        if g.1 == 'e' then .ok v
        else match Sources.of c [v] with
          | [⟨_, .ok i⟩] => .ok (.ofList (Text.Octets.ofBytes (chomp i.bytes)))
          | [⟨_, .error e⟩] => .error (v, e)
          | _ => .ok ""
    match counts, listed with
    | .error e, _ => c.complain e 2
    | _, .error (name, e) => Sources.refused c name e 2
    | .ok (most, before, after), .ok listed =>
      let patterns := if listed.isEmpty then r.operands.head? else some ("\n".intercalate listed)
      let names := if listed.isEmpty then r.operands.drop 1 else r.operands
      let recurses := r.has 'r' || r.has 'R'
      let isDeep := recurses && (names.isEmpty || names.any fun n =>
        (c.files.directory? c.directory n).toOption.isSome)
      let names := if !recurses then names
        else (if names.isEmpty then [""] else names).flatMap (filesBelow c r 100)
      match patterns with
      | none => misuse c none
      | some text =>
        match patternsOf c (dialectOf r usual) r text with
        | .error e => c.complain e 2
        | .ok (es, warnings) =>
          let d : View := {
            names := match (r.given.filter fun g => g.1 == 'h' || g.1 == 'H').getLast? with
              | some (l, _) => l == 'H'
              | none => 1 < names.length || isDeep
            numbers := r.has 'n'
            offsets := r.has 'b'
            partsOnly := r.has 'o'
            before := if r.has 'o' then 0 else before
            after := if r.has 'o' then 0 else after
            mark := if r.has 'z' then 0 else lineEnd
            endsNames := r.has 'Z'
            inputTitle := (r.value? '\x03').getD "(standard input)" }
          let sources := if names.isEmpty && isDeep then [] else Sources.of c names
          let results := sources.map fun s => match s.content with
            | .ok i => searchOne c r d es most s.name i.bytes
            | .error e =>
              (if r.has 's' then { status := 2 } else Sources.refused c s.name e 2, false)
          let told := Effect.all (warnings.map fun w => c.complain ("warning: " ++ w) 0)
          let e := told.andThen (Effect.all (results.map (·.1)))
          let found := results.any (·.2)
          let status := if found && (r.has 'q' || e.status ≠ 2) then 0
            else if e.status = 2 then 2 else 1
          Sources.reading c names { e with status }

end Errand.Host.Program
