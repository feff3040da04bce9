import Errand.Host.Count
import Errand.Host.Program.Basic
import Errand.Host.Program.Sources

/-! # Bytes as numbers

A dump shows bytes a line at a time: the place of the first one, and each of them, or each group of
them, as a number in some base or as a character. Lines that repeat the one before are left out, and
a star stands for them.

* `Dump.Kind.text` shows one group;
* `Program.od` shows contents. -/

namespace Errand.Host.Program

namespace Dump

/-- How a group of bytes is shown. -/
inductive Kind where
  | name
  | character
  | signed
  | unsigned
  | octal
  | hex
  deriving DecidableEq

/-- A kind of line: how groups are shown, how many bytes are a group, and whether the bytes stand
behind them as they are. -/
structure Form where
  kind : Kind
  size : Nat := 1
  hasText : Bool := false
  deriving DecidableEq

/-- The number of characters that a group takes. -/
def Form.width (f : Form) : Nat :=
  let pick := fun (widths : List Nat) => (widths[f.size.log2]?).getD 3
  match f.kind with
  | .name | .character => 3
  | .signed => pick [4, 6, 11, 20]
  | .unsigned => pick [3, 5, 10, 20]
  | .octal => pick [3, 6, 11, 22]
  | .hex => pick [2, 4, 8, 16]

/-- A number in digits of a base, with zeros before them. -/
def digits (base width n : Nat) : String :=
  let ds := Nat.toDigits base n
  .ofList (List.replicate (width - ds.length) '0' ++ ds)

/-- The names of the bytes that cannot be printed. -/
def names : List String :=
  ["nul", "soh", "stx", "etx", "eot", "enq", "ack", "bel", "bs", "ht", "nl", "vt", "ff", "cr", "so",
    "si", "dle", "dc1", "dc2", "dc3", "dc4", "nak", "syn", "etb", "can", "em", "sub", "esc", "fs",
    "gs", "rs", "us", "sp"]

/-- The escapes of bytes. -/
def escapes : List (Nat × String) :=
  [(0, "\\0"), (7, "\\a"), (8, "\\b"), (9, "\\t"), (10, "\\n"), (11, "\\v"), (12, "\\f"),
    (13, "\\r")]

/-- The number that bytes are, the least one first. -/
def valueOf (bs : Bytes) : Nat := bs.foldr (fun b n => n * 256 + b.toNat) 0

/-- A group of bytes as it is shown. -/
def Form.text (f : Form) (group : Bytes) : String :=
  let n := valueOf group
  match f.kind with
  | .name =>
    let n := n % 128
    if n = 127 then "del" else (names[n]?).getD (String.singleton (Char.ofNat n))
  | .character =>
    match escapes.lookup n with
    | some e => e
    | none => if 32 ≤ n && n < 127 then String.singleton (Char.ofNat n) else digits 8 3 n
  | .signed =>
    let half := Nat.pow 2 (8 * f.size - 1)
    if n < half then toString n else "-" ++ toString (2 * half - n)
  | .unsigned => toString n
  | .octal => digits 8 f.width n
  | .hex => digits 16 f.width n

example : ({ kind := .signed, size := 2 } : Form).text [254, 255] = "-2" := by decide +kernel

/-- How a dump looks. -/
structure Style where
  /-- The base and the width of places; none are shown without. -/
  place : Option (Nat × Nat) := some (8, 7)
  forms : List Form := []
  perLine : Nat := 16
  showsAll : Bool := false

/-- Groups of bytes; the last one is filled with zeros. -/
def groups (size : Nat) : Nat → Bytes → List Bytes
  | 0, _ => []
  | fuel + 1, bs =>
    if bs.isEmpty then []
    else
      let group := bs.take size
      (group ++ List.replicate (size - group.length) 0) :: groups size fuel (bs.drop size)

/-- A place as it is shown. -/
def Style.placeText (s : Style) (n : Nat) : String :=
  match s.place with
  | some (base, width) => digits base width n
  | none => ""

/-- The width that all groups of a line take, with a blank before each. -/
def Style.room (s : Style) (f : Form) : Nat := (f.width + 1) * (s.perLine / f.size)

/-- The groups of a line in some form. What other forms need more is shared out among the
groups. -/
def Style.row (s : Style) (f : Form) (bs : Bytes) : String :=
  let total := s.perLine / f.size
  let pad := (s.forms.map s.room).foldl max 0 - s.room f
  let shown := groups f.size bs.length bs
  let padAt := fun (i : Nat) => pad * (total - i) / total - pad * (total - i - 1) / total
  let cells := (shown.zip (List.range shown.length)).map fun (group, i) =>
    let text := f.text group
    String.ofList (List.replicate (f.width + 1 + padAt i - text.length) ' ') ++ text
  let missing := total - shown.length
  let trailer := if f.hasText then
      String.ofList (List.replicate (missing * (f.width + 1) + pad * missing / total) ' ') ++
        "  >" ++
        .ofList (bs.map fun b => if 32 ≤ b && b < 127 then Char.ofNat b.toNat else '.') ++ "<"
    else ""
  String.join cells ++ trailer

/-- The lines of some bytes at a place. -/
def Style.lines (s : Style) (place : Nat) (bs : Bytes) : String :=
  let head := s.placeText place
  let blank := String.ofList (List.replicate head.length ' ')
  String.join ((s.forms.zip (List.range s.forms.length)).map fun (f, i) =>
    (if i = 0 then head else blank) ++ s.row f bs ++ "\n")

/-- All lines of some bytes. The line before and whether a star stands for it decide whether a full
line is left out; the first number bounds the lines. -/
def Style.all (s : Style) : Nat → Nat → Option Bytes → Bool → Bytes → List String
  | 0, place, _, _, _ => [s.placeText place]
  | fuel + 1, place, before, starred, bs =>
    if bs.isEmpty then (if s.place.isNone then [] else [s.placeText place ++ "\n"])
    else
      let line := bs.take s.perLine
      let next := s.all fuel (place + line.length) (some line)
      if !s.showsAll && before == some line && line.length = s.perLine then
        (if starred then [] else ["*\n"]) ++ next true (bs.drop s.perLine)
      else s.lines place line :: next false (bs.drop s.perLine)

/-- The sizes that letters stand for. -/
def sizeLetters : List (Char × Nat) := [('C', 1), ('S', 2), ('I', 4), ('L', 8)]

/-- The forms that a text asks for; the number bounds them. -/
def readForms? : Nat → List Char → Option (List Form)
  | 0, _ => none
  | _, [] => some []
  | fuel + 1, c :: cs =>
    let form : Option (Form × List Char) := match c with
      | 'a' => some ({ kind := .name }, cs)
      | 'c' => some ({ kind := .character }, cs)
      | _ =>
        let kind := [('d', Kind.signed), ('u', .unsigned), ('o', .octal), ('x', .hex)].lookup c
        let ds := cs.takeWhile Char.isDigit
        let (size, rest) := match cs with
          | l :: rest => match sizeLetters.lookup l with
            | some n => (n, rest)
            | none => (if ds.isEmpty then 4 else Numeral.valueOf 10 ds, cs.drop ds.length)
          | [] => (4, [])
        if [1, 2, 4, 8].contains size then kind.map fun k => ({ kind := k, size }, rest) else none
    match form with
    | none => none
    | some (f, 'z' :: rest) => (readForms? fuel rest).map ({ f with hasText := true } :: ·)
    | some (f, rest) => (readForms? fuel rest).map (f :: ·)

/-- The options that are one form. -/
def shortForms : List (Char × Form) :=
  [('a', { kind := .name }), ('b', { kind := .octal }), ('c', { kind := .character }),
    ('d', { kind := .unsigned, size := 2 }), ('h', { kind := .hex, size := 2 }),
    ('i', { kind := .signed, size := 4 }), ('l', { kind := .signed, size := 8 }),
    ('o', { kind := .octal, size := 2 }), ('s', { kind := .signed, size := 2 }),
    ('x', { kind := .hex, size := 2 })]

/-- The number of bytes that an option asks for. -/
def count (c : Call) (r : Options.Read) (letter : Char) (option : String) :
    Except String (Option Nat) :=
  match r.value? letter with
  | none => .ok none
  | some v =>
    match Numeral.readAny none v.toList with
    | (some n, rest) =>
      match (("", 1) :: Count.sizes).lookup (String.ofList rest) with
      | some unit => if n < 0 then .error ("invalid " ++ option ++ " argument " ++ c.quoted v)
        else .ok (some (n.toNat * unit))
      | none => .error ("invalid suffix in " ++ option ++ " argument " ++ c.quoted v)
    | _ => .error ("invalid " ++ option ++ " argument " ++ c.quoted v)

/-- The style that options ask for. -/
def styleOf (c : Call) (r : Options.Read) : Except String Style := do
  let place ← match r.value? 'A' with
    | none => .ok (some (8, 7))
    | some a => match a.toList.head? with
      | some 'd' => .ok (some (10, 7))
      | some 'o' => .ok (some (8, 7))
      | some 'x' => .ok (some (16, 6))
      | some 'n' => .ok none
      | _ => .error ("invalid output address radix '" ++ a.take 1 ++
          "'; it must be one character from [doxn]")
  let forms ← r.given.mapM fun (l, v) =>
    if l == 't' then
      let text := v.getD ""
      match readForms? (text.length + 1) text.toList with
      | some fs => .ok fs
      | none => match text.toList.find? fun ch => !"acdfoux".toList.contains ch with
        | some ch => .error ("invalid character '" ++ String.singleton ch ++ "' in type string " ++
            c.quoted text)
        | none => .error ("invalid type string " ++ c.quoted text)
    else .ok ((shortForms.lookup l).toList)
  let forms := if forms.flatten.isEmpty then [{ kind := .octal, size := 2 }] else forms.flatten
  let unit := (forms.map (·.size)).foldl Nat.lcm 1
  let wanted := if r.has 'w' then ((r.value? 'w').bind String.toNat?).getD 32
    else if unit ≤ 16 then 16 / unit * unit else unit
  let perLine := if wanted = 0 || wanted % unit ≠ 0 then unit else wanted
  return { place, forms, perLine, showsAll := r.has 'v' }

end Dump

/-- Shows contents as numbers. -/
def od (c : Call) : Effect :=
  let flags : List Flag := [⟨'A', "address-radix", .value⟩, ⟨'j', "skip-bytes", .value⟩,
    ⟨'N', "read-bytes", .value⟩, ⟨'t', "format", .value⟩, ⟨'v', "output-duplicates", .nothing⟩,
    ⟨'w', "width", .optional⟩] ++ Dump.shortForms.map fun f => ⟨f.1, "", .nothing⟩
  c.withOptions flags fun r =>
    match Dump.styleOf c r, Dump.count c r 'j' "-j", Dump.count c r 'N' "-N" with
    | .error e, _, _ | _, .error e, _ | _, _, .error e => c.complain e
    | .ok style, .ok skipped, .ok most =>
      let sources := Sources.of c r.operands
      let told := Effect.all (sources.filterMap fun s => match s.content with
        | .ok _ => none
        | .error .isDirectory =>
          some (c.complain (c.shown s.name ++ ": read error: " ++ Refusal.isDirectory.reason))
        | .error e => some (Sources.refused c s.name e))
      let start := skipped.getD 0
      let bytes := sources.flatMap fun s => match s.content, most with
        | .ok i, some n => i.take (start + n)
        | .ok i, none => i.bytes
        | .error _, _ => []
      let rest := bytes.drop start
      let shown := match most with
        | some n => rest.take n
        | none => rest
      let isAbsent := bytes.isEmpty && told.status ≠ 0 && sources.length = 1
      let e := if bytes.length < start then c.complain "cannot skip past end of combined input"
        else if isAbsent then told
        else told.andThen (say (String.join (style.all (shown.length + 1) start none false shown)))
      let e := Sources.reading c r.operands e
      if most.isSome then { e with isEndless := false } else e

end Errand.Host.Program
