import Errand.Host.Count
import Errand.Host.Mode
import Errand.Host.Program.Basic
import Errand.Text.Version
import Errand.Text.Wildcard
import Errand.Text.Width

/-! # What is in directories

A listing names files and what is in directories, in an order and in a layout: a name a line, names
in columns, names with commas between them, or a line of facts for each file.

* `Listing.columns` finds the columns that names fit in;
* `Program.ls` lists. -/

namespace Errand.Host.Program

namespace Listing

/-- How names are laid out. -/
inductive Layout where
  | single
  | across
  | down
  | commas
  | long
  deriving DecidableEq

/-- Something that is listed: its name, where it is and what it is. -/
structure Entry where
  name : String
  place : Location
  node : Node

/-! ## Options -/

/-- The options that are words only: their letters, words and values. -/
def wordFlags : List Flag :=
  [⟨'\x01', "block-size", .value⟩, ⟨'\x02', "color", .optional⟩, ⟨'\x03', "file-type", .nothing⟩,
    ⟨'\x04', "format", .value⟩, ⟨'\x05', "full-time", .nothing⟩,
    ⟨'\x06', "group-directories-first", .nothing⟩, ⟨'\x07', "hide", .value⟩,
    ⟨'\x08', "indicator-style", .value⟩, ⟨'\x0b', "quoting-style", .value⟩,
    ⟨'\x0c', "show-control-chars", .nothing⟩, ⟨'\x0e', "si", .nothing⟩,
    ⟨'\x0f', "sort", .value⟩, ⟨'\x10', "time", .value⟩, ⟨'\x11', "time-style", .value⟩,
    ⟨'\x12', "zero", .nothing⟩, ⟨'\x13', "hyperlink", .optional⟩,
    ⟨'\x14', "dereference-command-line-symlink-to-dir", .nothing⟩]

/-- The options that have a letter. -/
def letterFlags : List Flag :=
  [⟨'a', "all", .nothing⟩, ⟨'A', "almost-all", .nothing⟩, ⟨'b', "escape", .nothing⟩,
    ⟨'B', "ignore-backups", .nothing⟩, ⟨'d', "directory", .nothing⟩, ⟨'F', "classify", .optional⟩,
    ⟨'G', "no-group", .nothing⟩, ⟨'h', "human-readable", .nothing⟩, ⟨'i', "inode", .nothing⟩,
    ⟨'I', "ignore", .value⟩, ⟨'k', "kibibytes", .nothing⟩, ⟨'L', "dereference", .nothing⟩,
    ⟨'H', "dereference-command-line", .nothing⟩, ⟨'n', "numeric-uid-gid", .nothing⟩,
    ⟨'N', "literal", .nothing⟩, ⟨'q', "hide-control-chars", .nothing⟩,
    ⟨'Q', "quote-name", .nothing⟩, ⟨'r', "reverse", .nothing⟩, ⟨'R', "recursive", .nothing⟩,
    ⟨'s', "size", .nothing⟩, ⟨'T', "tabsize", .value⟩, ⟨'w', "width", .value⟩,
    ⟨'Z', "context", .nothing⟩] ++ "1cCfglmoptuUvSxX".toList.map fun l => ⟨l, "", .nothing⟩

/-- A short form of an option whose word takes a value, and the value that it stands for. -/
def shortForms : List (Char × Char × String) :=
  [('1', '\x04', "single-column"), ('C', '\x04', "vertical"), ('x', '\x04', "across"),
    ('m', '\x04', "commas"), ('l', '\x04', "long"), ('g', '\x04', "long"), ('o', '\x04', "long"),
    ('n', '\x04', "long"), ('\x05', '\x04', "long"), ('\x12', '\x04', "single-column"),
    ('b', '\x0b', "escape"), ('N', '\x0b', "literal"), ('Q', '\x0b', "c"),
    ('\x12', '\x0b', "literal"), ('S', '\x0f', "size"), ('t', '\x0f', "time"),
    ('U', '\x0f', "none"), ('v', '\x0f', "version"), ('X', '\x0f', "extension"),
    ('f', '\x0f', "none"), ('p', '\x08', "slash"), ('\x03', '\x08', "file-type"),
    ('F', '\x08', "classify")]

/-- The word of an option, which may be given by a short form; the last one counts, but a name a
line does not take back a line of facts. -/
def chosen (c : Call) (r : Options.Read) (letter : Char) (words : List String)
    (otherwise : String) : Except String String :=
  let option := "--" ++ ((wordFlags.find? fun f => f.letter == letter).map (·.word)).getD ""
  r.given.foldlM (fun (now : String) (l, value) =>
    match shortForms.find? fun f => f.1 == l && f.2.1 == letter with
    | some (_, _, word) =>
      if l == 'F' then
        match value with
        | none => .ok word
        | some v => (c.choice "--classify" ["always", "yes", "force", "never", "no", "none", "auto",
            "tty", "if-tty"] v).map fun v =>
            if ["always", "yes", "force"].contains v then word else now
      else .ok (if l == '1' && now == "long" then now else word)
    | none => if l == letter then c.choice option words (value.getD "") else .ok now) otherwise

/-- How a listing looks. -/
structure Style where
  layout : Layout := .single
  order : String := "name"
  quoting : String := "literal"
  marks : String := "none"
  width : Nat := 80
  tabs : Nat := 8
  /-- The options that are switches. -/
  switches : Options.Read := {}
  unicode : Bool := true

/-- Whether a switch is on. -/
def Style.has (s : Style) (letter : Char) : Bool := s.switches.has letter

/-- The number of columns or of blanks that an option asks for. -/
def measure (c : Call) (what : String) (otherwise : Nat) (value : Option String) :
    Except String Nat :=
  match value with
  | none => .ok otherwise
  | some v => match Count.read [] v.toList with
    | .ok n => .ok n
    | .error _ => .error ("invalid " ++ what ++ ": " ++ c.quoted v)

/-- The style that options ask for. -/
def styleOf (c : Call) (r : Options.Read) : Except String Style := do
  let layout ← chosen c r '\x04' ["verbose", "long", "commas", "horizontal", "across", "vertical",
    "single-column"] "single-column"
  let order ← chosen c r '\x0f' ["none", "time", "size", "extension", "version", "width"] "name"
  let quoting ← chosen c r '\x0b' ["literal", "shell", "shell-always", "shell-escape",
    "shell-escape-always", "c", "c-maybe", "escape", "locale", "clocale"] "literal"
  let marks ← chosen c r '\x08' ["none", "slash", "file-type", "classify"] "none"
  let columns := ((c.environment.lookup "COLUMNS").bind String.toNat?).getD 80
  return {
    layout := match layout with
      | "verbose" | "long" => .long
      | "commas" => .commas
      | "horizontal" | "across" => .across
      | "vertical" => .down
      | _ => .single
    order, quoting, marks
    width := ← measure c "line width" columns (r.value? 'w')
    tabs := ← measure c "tab size" 8 (r.value? 'T')
    switches := r
    unicode := c.isUnicode }

/-! ## Names -/

/-- A name as it is shown. -/
def Style.nameText (s : Style) (name : String) : String :=
  match s.quoting with
  | "c" | "clocale" => "\"" ++ Quoting.withEscapes s.unicode ['"'] name ++ "\""
  | "c-maybe" =>
    let inside := Quoting.withEscapes s.unicode ['"'] name
    if inside == name then name else "\"" ++ inside ++ "\""
  | "escape" =>
    let marks := match s.marks with
      | "classify" => "*=>@|".toList
      | "file-type" => "=>@|".toList
      | _ => []
    Quoting.withEscapes s.unicode (' ' :: marks) name
  | "locale" => Quoting.spoken s.unicode name
  | "shell" => if Quoting.isNeeded s.unicode name then Quoting.plain s.unicode name else name
  | "shell-always" => Quoting.plain s.unicode name
  | "shell-escape" => Quoting.whereNeeded s.unicode name
  | "shell-escape-always" => Quoting.always s.unicode name
  | _ => if s.has 'q' then Quoting.masked s.unicode name else name

/-- The mark behind a name that tells what it is. -/
def Style.mark (s : Style) (node : Node) : String :=
  match s.marks, node with
  | "none", _ => ""
  | _, .directory _ => "/"
  | "slash", _ => ""
  | _, .link _ => "@"
  | "classify", n => if n.isExecutable then "*" else ""
  | _, _ => ""

/-- The columns that a name takes. -/
def nameWidth (unicode : Bool) (name : String) : Nat :=
  if unicode then
    ((Text.Utf8.pieces (Text.Octets.bytesOf name)).map fun
      | .bad run _ => run.length
      | .char ch =>
        if ch.toNat < 32 || 127 ≤ ch.toNat && ch.toNat < 160 then 0 else Text.columnsOf ch).foldl
      (· + ·) 0
  else name.length

/-! ## Facts -/

/-- The size of what is listed. -/
def sizeOf (node : Node) : Nat :=
  match node with
  | .directory _ => 4096
  | .file content _ => content.length
  | .link target => target.length
  | _ => 0

/-- The kibibytes that something takes on a disk. -/
def blocksOf (node : Node) : Nat :=
  match node with
  | .link _ => 0
  | n => (sizeOf n + 4095) / 4096 * 4

/-- The names that lead to something: two and one for each directory in it, if it is one. -/
def linksOf (files : Files) (e : Entry) : Nat :=
  if e.node.isDirectory then
    2 + ((files.names e.place).filter fun n =>
      (files.at? (e.place ++ [n])).any Node.isDirectory).length
  else 1

/-- The letter for the kind of what is listed. -/
def kindLetter (node : Node) : Char :=
  match node with
  | .directory _ => 'd'
  | .link _ => 'l'
  | .device _ => 'c'
  | _ => '-'

/-- A size in a unit of which few are needed. -/
def shortSize (base n : Nat) : String :=
  let units := if base = 1000 then "kMGTPE".toList else "KMGTPE".toList
  if n < base then toString n
  else
    let i := ((List.range 6).find? fun i => n < Nat.pow base (i + 2)).getD 5
    let unit := String.singleton (units.getD i 'K')
    let scale := Nat.pow base (i + 1)
    let tenths := (n * 10 + scale - 1) / scale
    if tenths < 100 then toString (tenths / 10) ++ "." ++ toString (tenths % 10) ++ unit
    else toString ((n + scale - 1) / scale) ++ unit

/-- A number of bytes as it is shown. -/
def Style.amount (s : Style) (n : Nat) : String :=
  if s.has 'h' then shortSize 1024 n else if s.has '\x0e' then shortSize 1000 n else toString n

/-- The text for the size: for devices two numbers. -/
def Style.sizeText (s : Style) (node : Node) : String :=
  match node with
  | .device d =>
    match d with
    | .null => "1, 3"
    | .zero => "1, 5"
    | .full => "1, 7"
    | .terminal => "5, 0"
  | n => s.amount (sizeOf n)

/-- The text of a number of kibibytes. -/
def Style.blocksText (s : Style) (n : Nat) : String :=
  if s.has 'h' || s.has '\x0e' then s.amount (n * 1024) else toString n

/-- The greatest length of texts. -/
def widest (texts : List String) : Nat := (texts.map (·.length)).foldl max 0

/-- What stands before each name: its number and its blocks, if they are asked for. -/
def Style.fronts (s : Style) (entries : List Entry) : List String :=
  let blocks := entries.map fun e => s.blocksText (blocksOf e.node)
  let width := if s.layout == .commas then 0 else widest blocks
  blocks.map fun b =>
    (if s.has 'i' then "1 " else "") ++ if s.has 's' then flushRight width b ++ " " else ""

/-- The line of facts of each entry, before its name. -/
def Style.facts (s : Style) (files : Files) (entries : List Entry) : List String :=
  let links := entries.map fun e => toString (linksOf files e)
  let sizes := entries.map fun e => s.sizeText e.node
  let owner := if s.has 'n' then "0" else "root"
  let date := if s.has '\x05' then "1970-01-01 00:00:00.000000000 +0000" else "Jan  1  1970"
  (entries.zip (links.zip sizes)).map fun (e, l, size) =>
    String.singleton (kindLetter e.node) ++ Mode.letters e.node.mode ++ " " ++
      flushRight (widest links) l ++ " " ++ (if s.has 'g' then "" else owner ++ " ") ++
      (if s.has 'o' || s.has 'G' then "" else owner ++ " ") ++ flushRight (widest sizes) size ++
      " " ++ date ++ " "

/-! ## Layouts -/

/-- The least width of a column. -/
def leastColumn : Nat := 3

/-- The place of the column in which a name stands, of so many names in so many columns. -/
def columnOf (down : Bool) (total columns i : Nat) : Nat :=
  if down then i / ((total + columns - 1) / columns) else i % columns

/-- The widths of so many columns; all but the last one have two blanks at their ends. -/
def columnWidths (down : Bool) (widths : List Nat) (columns : Nat) : List Nat :=
  (widths.zip (List.range widths.length)).foldl (fun (cs : List Nat) (w, i) =>
    let k := columnOf down widths.length columns i
    cs.modify k (max (w + if k + 1 = columns then 0 else 2))) (List.replicate columns leastColumn)

/-- The widths of the columns that names of some widths fit in: of as many columns as there can
be. Columns of the least width always fit. -/
def columns (down : Bool) (width : Nat) (widths : List Nat) : List Nat :=
  let most := min widths.length (max 1 ((width + leastColumn - 1) / leastColumn))
  let fits := fun n =>
    let cs := columnWidths down widths n
    cs.all (· == leastColumn) || cs.foldl (· + ·) 0 < width
  let n := (((List.range most).reverse.map (· + 1)).find? fun n => n = 1 || fits n).getD 1
  columnWidths down widths n

example : columns true 20 [1, 2, 3, 4, 9] = [4, 6, 9] := by decide +kernel

/-- The blanks and tabs from a column to another one; the first number bounds them. -/
def gap (tabs : Nat) : Nat → Nat → Nat → List Char
  | 0, _, _ => []
  | fuel + 1, here, there =>
    if there ≤ here then []
    else if tabs != 0 && (here + 1) / tabs < there / tabs then
      '\t' :: gap tabs fuel (here + tabs - here % tabs) there
    else ' ' :: gap tabs fuel (here + 1) there

/-- A row of names, each with its width, in columns. -/
def Style.row (s : Style) : Nat → List (String × Nat) → List Nat → String
  | _, [], _ | _, _, [] => ""
  | _, [(name, _)], _ => name
  | here, (name, w) :: names, column :: columns =>
    name ++ .ofList (gap s.tabs column (here + w) (here + column)) ++
      s.row (here + column) names columns

/-- Names in rows and columns. -/
def Style.inColumns (s : Style) (down : Bool) (names : List (String × Nat)) : String :=
  let columns := columns down s.width (names.map (·.2))
  let rows := (names.length + columns.length - 1) / columns.length
  let row := fun i => if down then
      (List.range columns.length).filterMap fun j => names[j * rows + i]?
    else (names.drop (i * columns.length)).take columns.length
  String.join ((List.range rows).map fun i => s.row 0 (row i) columns ++ "\n")

/-- Names with a mark between them, and a new line where the next name would not fit. -/
def Style.separated (s : Style) (mark : String) : Nat → List (String × Nat) → String
  | _, [] => ""
  | _, [(name, _)] => name
  | here, (name, w) :: (next, w') :: rest =>
    let fits := s.width = 0 || here + w + w' + 2 < s.width
    name ++ mark ++ (if fits then " " else "\n") ++
      s.separated mark (if fits then here + w + 2 else 0) ((next, w') :: rest)

/-- Entries as they are listed. -/
def Style.text (s : Style) (c : Call) (entries : List Entry) : String :=
  if entries.isEmpty then ""
  else
    let ending := if s.has '\x12' then "\x00" else "\n"
    let shown := fun (e : Entry) => s.nameText e.name ++ s.mark e.node
    let plain := (entries.zip (s.fronts entries)).map fun (e, front) => front ++ shown e
    let measured := plain.map fun n => (n, nameWidth s.unicode n)
    match s.layout with
    | .single => String.join (plain.map (· ++ ending))
    | .commas => s.separated "," 0 measured ++ "\n"
    | .across =>
      if s.width = 0 then s.separated " " 0 measured ++ "\n" else s.inColumns false measured
    | .down =>
      if s.width = 0 then s.separated " " 0 measured ++ "\n" else s.inColumns true measured
    | .long =>
      let line := fun (e : Entry) (front facts : String) =>
        front ++ facts ++ (match e.node with
          | .link target =>
            let mark := match c.files.find? e.place.dropLast target with
              | .ok (_, node) => s.mark node
              | .error _ => ""
            s.nameText e.name ++ " -> " ++ s.nameText target ++ mark
          | _ => shown e) ++ ending
      String.join ((entries.zip ((s.fronts entries).zip (s.facts c.files entries))).map
        fun (e, front, facts) => line e front facts)

/-! ## Order -/

/-- The part of a name from its last point on. -/
def endingOf (name : String) : String :=
  match name.toList.reverse.span (· != '.') with
  | (_, []) => ""
  | (ending, _) => "." ++ .ofList ending.reverse

/-- Whether a name comes before another one. -/
def Style.precedes (s : Style) (a b : Entry) : Bool :=
  let byName := compareOfLessAndEq a.name b.name
  let order := match s.order with
    | "size" => (compare (sizeOf b.node) (sizeOf a.node)).then byName
    | "extension" => (compareOfLessAndEq (endingOf a.name) (endingOf b.name)).then byName
    | "version" =>
      (Text.Version.compare (Text.Octets.bytesOf a.name) (Text.Octets.bytesOf b.name)).then byName
    | "width" => (compare (nameWidth s.unicode a.name) (nameWidth s.unicode b.name)).then byName
    | _ => byName
  (if s.has 'r' && s.order != "none" then order.swap else order) != .gt

/-- Entries in order. -/
def Style.sorted (s : Style) (c : Call) (entries : List Entry) : List Entry :=
  let sorted := entries.mergeSort s.precedes
  if s.has '\x06' then
    let (first, others) := sorted.partition fun e =>
      (c.files.find? e.place.dropLast e.name).toOption.any (·.2.isDirectory) || e.node.isDirectory
    first ++ others
  else sorted

/-! ## Directories -/

/-- Whether a name in a directory is listed. -/
def Style.shows (s : Style) (name : String) : Bool :=
  let all := s.has 'a' || s.has 'f'
  let fits := fun (letter : Char) => s.switches.given.any fun g =>
    g.1 == letter && g.2.any fun p => Text.Wildcard.isFit p name &&
      !(name.startsWith "." && !p.startsWith ".")
  (all || s.has 'A' || !name.startsWith "." && !fits '\x07') && !fits 'I' &&
    !(s.has 'B' && name.endsWith "~")

/-- What is listed for a place: that to which it leads, if links are followed. -/
def Style.entry (s : Style) (c : Call) (name : String) (place : Location) (node : Node) : Entry :=
  match node with
  | .link target =>
    if s.has 'L' then
      match c.files.find? place.dropLast target with
      | .ok (there, node) => ⟨name, there, node⟩
      | .error _ => ⟨name, place, node⟩
    else ⟨name, place, node⟩
  | _ => ⟨name, place, node⟩

/-- What is listed of a directory, in order. -/
def Style.inside (s : Style) (c : Call) (place : Location) : List Entry :=
  let own := [(".", place), ("..", place.dropLast)].filter fun e =>
    (s.has 'a' || s.has 'f') && s.shows e.1
  s.sorted c (own.filterMap (fun (n, p) => (c.files.at? p).map fun node => ⟨n, p, node⟩) ++
    ((c.files.names place).filter s.shows).filterMap fun n =>
      (c.files.at? (place ++ [n])).map (s.entry c n (place ++ [n])))

/-- The listing of a directory. -/
def Style.directory (s : Style) (c : Call) (entries : List Entry) : String :=
  let total := (entries.map fun e => blocksOf e.node).foldl (· + ·) 0
  (if s.layout == .long || s.has 's' then "total " ++ s.blocksText total ++ "\n" else "") ++
    s.text c entries

/-- The directories in a directory, with the names that lead there; the number bounds how deep they
are. -/
def Style.below (s : Style) (c : Call) : Nat → String → Location → List (String × Location)
  | 0, name, place => [(name, place)]
  | depth + 1, name, place =>
    (name, place) :: ((s.inside c place).filter fun e =>
      e.node.isDirectory && e.name != "." && e.name != "..").flatMap fun e =>
        s.below c depth (Path.append name e.name) e.place

/-- What an operand leads to. A link to a directory is followed unless facts, marks or directories
themselves are asked for. -/
def Style.found (s : Style) (c : Call) (name : String) : Except Refusal Entry :=
  let whole := fun (_ : Unit) => c.files.find? c.directory name
  let itself := fun (_ : Unit) => c.files.find? c.directory name false
  let asEntry := fun (e : Location × Node) => (⟨name, e.1, e.2⟩ : Entry)
  if s.has 'L' || s.has 'H' then (whole ()).map asEntry
  else if s.layout == .long || s.marks == "classify" || s.has 'd' then (itself ()).map asEntry
  else match whole () with
    | .ok (place, .directory mode) => .ok ⟨name, place, .directory mode⟩
    | _ => (itself ()).map asEntry

end Listing

open Listing in
/-- Lists directories and names. -/
def ls (c : Call) : Effect :=
  c.withOptionsBy { status := 2 } (letterFlags ++ wordFlags) fun r =>
    match styleOf c r with
    | .error e =>
      if e.startsWith "invalid line" || e.startsWith "invalid tab" then c.complain e 2
      else c.misuse e
    | .ok s =>
      let names := if r.operands.isEmpty then ["."] else r.operands
      let found := names.map fun n => (n, s.found c n)
      let missing := Effect.all (found.filterMap fun f => match f.2 with
        | .error e => some (c.complain ("cannot access " ++ c.quotedAlways f.1 ++ ": " ++
            e.reason) 2)
        | .ok _ => none)
      let (directories, plain) := (s.sorted c (found.filterMap fun f => f.2.toOption)).partition
        fun e => e.node.isDirectory && !s.has 'd'
      let places := directories.flatMap fun d =>
        if s.has 'R' then s.below c 64 d.name d.place else [(d.name, d.place)]
      let headed := 1 < names.length || s.has 'R'
      let sections := places.map fun d =>
        (if headed then s.nameText d.1 ++ ":\n" else "") ++ s.directory c (s.inside c d.2)
      missing.andThen (say (s.text c plain ++
        (if plain.isEmpty || sections.isEmpty then "" else "\n") ++ "\n".intercalate sections))

end Errand.Host.Program
