import Errand.Host.Count
import Errand.Host.Program.Content
import Errand.Text.Regular.Reader

/-! # Programs that lay out lines

They put numbers before the lines of what they read, or break lines that are too wide.

A content has logical pages, of which each has a header, a body and a footer; a line that holds
nothing but marks begins one of them. Numbers begin anew there, and each part has its own rule which
of its lines have numbers. -/

namespace Errand.Host.Program

/-! ## With numbers -/

namespace Numbering

/-- Which lines have a number. -/
inductive Rule where
  | all
  | filled
  | none
  | fitting (e : Text.Regular)

/-- The parts of a page. -/
inductive Section where
  | header
  | body
  | footer
  deriving DecidableEq

/-- How lines are numbered. -/
structure Style where
  rule : Section → Rule
  start : Int := 1
  step : Int := 1
  width : Nat := 6
  separator : String := "\t"
  /-- How a number is put into its width: `ln`, `rn` or `rz`. -/
  format : String := "rn"
  /-- The two marks of a line that begins a section. -/
  marks : Bytes
  /-- Whether numbers go on from section to section. -/
  goesOn : Bool := false
  /-- How many empty lines count as one. -/
  join : Nat := 1

/-- How far the numbering has come. -/
structure Progress where
  part : Section := .body
  number : Int
  blanks : Nat := 0
  out : List Bytes := []

/-- A number as it is shown. -/
def Style.numberText (s : Style) (n : Int) : String :=
  let ds := toString n.natAbs
  let sign := if n < 0 then "-" else ""
  let fill := fun ch => String.ofList (List.replicate (s.width - ds.length - sign.length) ch)
  match s.format with
  | "ln" => sign ++ ds ++ fill ' '
  | "rz" => sign ++ fill '0' ++ ds
  | _ => fill ' ' ++ sign ++ ds

/-- The section that a line begins. -/
def Style.section? (s : Style) (line : Bytes) : Option Section :=
  if s.marks.isEmpty then none
  else if line = s.marks ++ s.marks ++ s.marks then some .header
  else if line = s.marks ++ s.marks then some .body
  else if line = s.marks then some .footer
  else none

/-- Whether a line has a number, and how many empty lines are waiting then. -/
def Style.isNumbered (s : Style) (unicode : Bool) (p : Progress) (line : Bytes) : Bool × Nat :=
  match s.rule p.part with
  | .none => (false, p.blanks)
  | .filled => (!line.isEmpty, p.blanks)
  | .fitting e => (e.isIn (Text.Codes.ofBytes unicode line), p.blanks)
  | .all =>
    if s.join ≤ 1 || !line.isEmpty || p.blanks + 1 = s.join then (true, 0)
    else (false, p.blanks + 1)

/-- Numbers a line. -/
def Style.line (s : Style) (unicode : Bool) (p : Progress) (line : Bytes) : Progress :=
  match s.section? line with
  | some part =>
    { p with part, number := if s.goesOn then p.number else s.start, out := [lineEnd] :: p.out }
  | none =>
    let (isNumbered, blanks) := s.isNumbered unicode p line
    let head := if isNumbered then s.numberText p.number ++ s.separator
      else String.ofList (List.replicate (s.width + s.separator.length) ' ')
    { p with
      number := if isNumbered then p.number + s.step else p.number
      blanks
      out := (Text.Octets.bytesOf head ++ line ++ [lineEnd]) :: p.out }

/-- The rule that a text asks for. -/
def ruleOf (c : Call) (what text : String) : Except (Bool × String) Rule :=
  match text.toList with
  | ['a'] => .ok .all
  | ['t'] => .ok .filled
  | ['n'] => .ok .none
  | 'p' :: rest =>
    match Text.Regular.read { strict := true } (Text.Octets.toText (.ofList rest)) with
    | .ok (e, _) => .ok (.fitting e)
    | .error e => .error (false, e)
  | _ => .error (true, "invalid " ++ what ++ " numbering style: " ++ c.quoted text)

/-- The whole number in the value of an option. -/
def wholeOf (c : Call) (r : Options.Read) (letter : Char) (what : String) (least otherwise : Int) :
    Except (Bool × String) Int :=
  match r.value? letter with
  | none => .ok otherwise
  | some s =>
    let refused := fun (f : Count.Flaw) =>
      Except.error (false, "invalid " ++ what ++ ": " ++ c.quoted s ++ f.reason)
    match Numeral.readAny (some 10) s.toList with
    | (some n, []) =>
      if Numeral.greatestWhole < n then refused .tooLarge
      else if n < Numeral.leastWhole then refused .tooLarge
      else if n < least then refused .outOfRange
      else .ok n
    | _ => refused .unreadable

/-- The style that options ask for, or what is wrong, and whether that is told with a hint. -/
def styleOf (c : Call) (r : Options.Read) : Except (Bool × String) Style := do
  let body ← ruleOf c "body" ((r.value? 'b').getD "t")
  let header ← ruleOf c "header" ((r.value? 'h').getD "n")
  let footer ← ruleOf c "footer" ((r.value? 'f').getD "n")
  let start ← wholeOf c r 'v' "starting line number" Numeral.leastWhole 1
  let step ← wholeOf c r 'i' "line number increment" Numeral.leastWhole 1
  let join ← wholeOf c r 'l' "line number of blank lines" 1 1
  let width ← wholeOf c r 'w' "line number field width" 1 6
  if 2147483647 < width then
    throw (false, "invalid line number field width: " ++ c.quoted ((r.value? 'w').getD "") ++
      Count.Flaw.tooLarge.reason)
  let format := (r.value? 'n').getD "rn"
  if !(["ln", "rn", "rz"].contains format) then
    throw (true, "invalid line numbering format: " ++ c.quoted format)
  let marks := match Text.Octets.bytesOf ((r.value? 'd').getD "\\:") with
    | [b] => [b, 58]
    | bs => bs
  return {
    rule := fun
      | .header => header
      | .body => body
      | .footer => footer
    start, step, format, marks
    width := width.toNat
    join := join.toNat
    separator := (r.value? 's').getD "\t"
    goesOn := r.has 'p' }

end Numbering

/-- Numbers the lines of contents. -/
def nl (c : Call) : Effect :=
  let flags : List Flag := [⟨'b', "body-numbering", .value⟩, ⟨'d', "section-delimiter", .value⟩,
    ⟨'f', "footer-numbering", .value⟩, ⟨'h', "header-numbering", .value⟩,
    ⟨'i', "line-increment", .value⟩, ⟨'l', "join-blank-lines", .value⟩,
    ⟨'n', "number-format", .value⟩, ⟨'p', "no-renumber", .nothing⟩,
    ⟨'s', "number-separator", .value⟩, ⟨'v', "starting-line-number", .value⟩,
    ⟨'w', "number-width", .value⟩]
  c.withOptions flags fun r =>
    match Numbering.styleOf c r with
    | .error (true, text) => c.misuse text
    | .error (false, text) => c.complain text
    | .ok style =>
      let step := fun (p : Numbering.Progress) (line : Bytes) =>
        style.line c.isUnicode p (chomp line)
      let (_, e) := (Sources.of c r.operands).foldl (fun (p, e) (s : Source) => match s.content with
        | .error why => (p, e.andThen (Sources.refused c s.name why))
        | .ok i =>
          let p := (lines i.bytes).foldl step { p with out := [] }
          (p, e.andThen (Effect.write p.out.reverse.flatten)))
        (({ number := style.start } : Numbering.Progress), ({} : Effect))
      Sources.reading c r.operands e

/-! ## With shorter lines -/

/-- Where the next column is after a character. -/
def columnAfter (byBytes : Bool) (column : Nat) (ch : Bytes) : Nat :=
  if byBytes then column + ch.length
  else match ch with
    | [8] => column - 1
    | [9] => (column / 8 + 1) * 8
    | [13] => 0
    | _ => column + 1

/-- A line in pieces of a width; the number bounds the characters. -/
def foldLine (byBytes atBlanks : Bool) (width : Nat) :
    Nat → List Bytes → Nat → List Bytes → List Bytes
  | 0, line, _, _ => [line.reverse.flatten]
  | _ + 1, line, _, [] => if line.isEmpty then [] else [line.reverse.flatten]
  | fuel + 1, line, column, ch :: rest =>
    let next := columnAfter byBytes column ch
    if next ≤ width || line.isEmpty then foldLine byBytes atBlanks width fuel (ch :: line) next rest
    else
      let isBlank := fun (b : Bytes) => b == [32] || b == [9]
      let tail := line.takeWhile fun b => !isBlank b
      if atBlanks && tail.length < line.length then
        let kept := line.drop tail.length
        let column := tail.reverse.foldl (columnAfter byBytes) 0
        (kept.reverse.flatten ++ [lineEnd]) ::
          foldLine byBytes atBlanks width fuel tail column (ch :: rest)
      else (line.reverse.flatten ++ [lineEnd]) ::
        foldLine byBytes atBlanks width fuel [] 0 (ch :: rest)

/-- Arguments in which an option of digits is written out by a letter. -/
def spelledOut (letter : Char) (arguments : List String) : List String :=
  let options := arguments.takeWhile (· != "--")
  options.map (fun a => match a.toList with
    | '-' :: d :: ds => if d.isDigit then .ofList ('-' :: letter :: d :: ds) else a
    | _ => a) ++ arguments.drop options.length

/-- Breaks the lines of contents so that each has a width at most. -/
def fold (c : Call) : Effect :=
  let flags : List Flag := [⟨'b', "bytes", .nothing⟩, ⟨'s', "spaces", .nothing⟩,
    ⟨'w', "width", .value⟩]
  let c := { c with arguments := spelledOut 'w' c.arguments }
  c.withOptions flags fun r =>
    let text := (r.value? 'w').getD "80"
    match Count.readFrom 1 (Count.greatest - 9) text.toList with
    | .error f => c.complain ("invalid number of columns: " ++ c.quoted text ++ f.reason)
    | .ok width => Sources.each c r.operands fun _ i =>
      Effect.write ((lines i.bytes).flatMap fun line =>
        let chs := (chomp line).map fun b => [b]
        (foldLine (r.has 'b') (r.has 's') width (3 * chs.length + 3) [] 0 chs).flatten ++
          if line.getLast? = some lineEnd then [lineEnd] else [])

/-! ## Between tabs and blanks -/

/-- The places of tabs: some columns, and the distance of those after them, if there are any. -/
structure Stops where
  columns : List Nat := []
  distance : Option Nat := some 8

/-- The first stop after a column. -/
def Stops.after (s : Stops) (column : Nat) : Option Nat :=
  match s.columns.find? (column < ·) with
  | some n => some n
  | none => s.distance.map fun d => (column / d + 1) * d

/-- Reads the places of tabs. -/
def Stops.read (c : Call) (text : String) : Except String Stops := do
  let parts := (text.toList.splitBy fun a b =>
    (a == ',' || a == ' ') == (b == ',' || b == ' ')).filter fun p =>
      !(p.all fun ch => ch == ',' || ch == ' ')
  let numbers ← parts.mapM fun p =>
    if p.all Char.isDigit then
      let n := Numeral.valueOf 10 p
      if n = 0 then .error "tab size cannot be 0" else .ok n
    else .error ("tab size contains invalid character(s): " ++
      c.quoted (.ofList (p.dropWhile Char.isDigit)))
  match numbers with
  | [] => return {}
  | [n] => return { distance := some n }
  | ns =>
    if !((ns.zip (ns.drop 1)).all fun e => e.1 < e.2) then throw "tab sizes must be ascending"
    return { columns := ns, distance := none }

/-- A line with blanks instead of tabs. -/
def expandLine (s : Stops) (initial : Bool) (line : Bytes) : Bytes :=
  (line.foldl (fun ((out, column, converts) : List Bytes × Nat × Bool) b =>
    let converts := converts && (!initial || b == 32 || b == 9)
    if b == 9 && converts then
      let next := (s.after column).getD (column + 1)
      (List.replicate (next - column) 32 :: out, next, converts)
    else if b == 8 then ([b] :: out, column - 1, converts)
    else ([b] :: out, column + 1, converts)) ([], 0, true)).1.reverse.flatten

/-- Replaces tabs by blanks. -/
def expand (c : Call) : Effect :=
  let flags : List Flag := [⟨'i', "initial", .nothing⟩, ⟨'t', "tabs", .value⟩]
  let c := { c with arguments := spelledOut 't' c.arguments }
  c.withOptions flags fun r =>
    match Stops.read c ((r.value? 't').getD "8") with
    | .error text => c.complain text
    | .ok stops => Sources.each c r.operands fun _ i =>
      Effect.write ((lines i.bytes).flatMap (expandLine stops (r.has 'i')))

/-- A row of blanks from a column to another one, with tabs where a stop is reached; the number
bounds the stops. -/
def blanksBetween (s : Stops) : Nat → Nat → Nat → Bytes
  | 0, _, _ => []
  | fuel + 1, start, finish =>
    match s.after start with
    | some next =>
      if next ≤ finish then
        (if next = start + 1 && next = finish then [32] else [9]) ++
          blanksBetween s fuel next finish
      else List.replicate (finish - start) 32
    | none => List.replicate (finish - start) 32

/-- A line with tabs instead of blanks. -/
def unexpandLine (s : Stops) (all : Bool) (line : Bytes) : Bytes :=
  let place := fun (start finish : Nat) => blanksBetween s (finish - start + 1) start finish
  let (out, column, start, _) := line.foldl
    (fun ((out, column, start, converts) : List Bytes × Nat × Nat × Bool) b =>
      if converts && b == 32 then (out, column + 1, start, converts)
      else if converts && b == 9 then (out, (s.after column).getD (column + 1), start, converts)
      else
        let out := [b] :: place start column :: out
        let column := if b == 8 then column - 1 else column + 1
        (out, column, column, converts && all)) ([], 0, 0, true)
  (place start column :: out).reverse.flatten

/-- Replaces blanks by tabs. -/
def unexpand (c : Call) : Effect :=
  let flags : List Flag := [⟨'a', "all", .nothing⟩, ⟨'\x01', "first-only", .nothing⟩,
    ⟨'t', "tabs", .value⟩]
  let c := { c with arguments := spelledOut 't' c.arguments }
  c.withOptions flags fun r =>
    match Stops.read c ((r.value? 't').getD "8") with
    | .error text => c.complain text
    | .ok stops =>
      let all := (r.has 'a' || r.has 't') && !r.has '\x01'
      Sources.each c r.operands fun _ i =>
        Effect.write ((lines i.bytes).flatMap fun line =>
          unexpandLine stops all (chomp line) ++
            if line.getLast? = some lineEnd then [lineEnd] else [])

end Errand.Host.Program
