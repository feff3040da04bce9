import Errand.Host.Program.Tree

/-! # Blocks

`Program.dd` copies blocks of bytes from one content to another one. Its operands are names with
values: what is read and written, how large blocks are, how many there are, and what is done to
their bytes. -/

namespace Errand.Host.Program

namespace Block

/-- What operands ask for. -/
structure Plan where
  source : Option String := none
  target : Option String := none
  inSize : Nat := 512
  outSize : Nat := 512
  count : Option Nat := none
  countsBytes : Bool := false
  skip : Nat := 0
  skipsBytes : Bool := false
  seek : Nat := 0
  conversions : List String := []
  status : String := "xfer"

/-- The conversions that there are. -/
def knownConversions : List String :=
  ["ascii", "block", "ebcdic", "excl", "fdatasync", "fsync", "ibm", "lcase", "nocreat", "noerror",
    "notrunc", "sparse", "swab", "sync", "ucase", "unblock"]

/-- A number with units and factors. -/
def number? (s : String) : Option Nat :=
  (s.splitOn "x").foldlM (fun (n : Nat) part =>
    let ds := part.toList.takeWhile Char.isDigit
    let letters := String.ofList (part.toList.drop ds.length)
    let unit := if letters.isEmpty then some 1 else if letters == "c" then some 1
      else if letters == "w" then some 2 else Count.sizes.lookup letters
    if ds.isEmpty then none else unit.map fun u => n * Numeral.valueOf 10 ds * u) 1

/-- Whether the last letter of a number says that it counts bytes; and the number without it. -/
def inBytes (s : String) : Bool × String :=
  if s.endsWith "B" && (s.toList.dropLast.getLast?.map Char.isDigit).getD false then
    (true, .ofList s.toList.dropLast)
  else (false, s)

/-- The plan after one more operand; or what is wrong with it, and whether a hint is told. -/
def Plan.after (p : Plan) (c : Call) (operand : String) : Except (String × Bool) Plan :=
  let cs := operand.toList
  let key := String.ofList (cs.takeWhile (· != '='))
  let value := String.ofList ((cs.drop key.length).drop 1)
  let number := fun (v : String) (f : Nat → Plan) => match number? v with
    | some n => Except.ok (f n)
    | none => .error ("invalid number: " ++ c.quotedAlways value, false)
  let size := fun (f : Nat → Plan) => match number? value with
    | some 0 | none => Except.error ("invalid number: " ++ c.quotedAlways value, false)
    | some n => .ok (f n)
  let flags := fun (f : List String → Plan) => Except.ok (f (value.splitOn ","))
  if !cs.contains '=' then .error ("unrecognized operand " ++ c.quotedAlways operand, true)
  else match key with
    | "if" => .ok { p with source := some value }
    | "of" => .ok { p with target := some value }
    | "bs" => size fun n => { p with inSize := n, outSize := n }
    | "ibs" => size fun n => { p with inSize := n }
    | "obs" => size fun n => { p with outSize := n }
    | "cbs" => size fun _ => p
    | "count" =>
      let (bytes, v) := inBytes value
      number v fun n => { p with count := some n, countsBytes := p.countsBytes || bytes }
    | "skip" | "iseek" =>
      let (bytes, v) := inBytes value
      number v fun n => { p with skip := n, skipsBytes := p.skipsBytes || bytes }
    | "seek" | "oseek" => number value fun n => { p with seek := n }
    | "conv" =>
      match (value.splitOn ",").find? fun v => !knownConversions.contains v with
      | some v => .error ("invalid conversion: " ++ c.quoted v, true)
      | none => flags fun fs => { p with conversions := p.conversions ++ fs }
    | "iflag" => flags fun fs => { p with
        countsBytes := p.countsBytes || fs.contains "count_bytes"
        skipsBytes := p.skipsBytes || fs.contains "skip_bytes" }
    | "oflag" => .ok p
    | "status" =>
      if ["none", "noxfer", "progress"].contains value then .ok { p with status := value }
      else .error ("invalid status level: " ++ c.quoted value, true)
    | _ => .error ("unrecognized operand " ++ c.quotedAlways operand, true)

/-- Bytes of which each two have changed their places. -/
def swapped : Bytes → Bytes
  | a :: b :: rest => b :: a :: swapped rest
  | bs => bs

/-- Bytes after conversions. -/
def Plan.converted (p : Plan) (bs : Bytes) : Bytes :=
  let bs := if p.conversions.contains "swab" then swapped bs else bs
  let bs := if p.conversions.contains "ucase" then
      bs.map fun b => if 97 ≤ b && b ≤ 122 then b - 32 else b
    else if p.conversions.contains "lcase" then
      bs.map fun b => if 65 ≤ b && b ≤ 90 then b + 32 else b
    else bs
  if p.conversions.contains "sync" then
    let missing := (p.inSize - bs.length % p.inSize) % p.inSize
    bs ++ List.replicate missing 0
  else bs

/-- A line that tells whole blocks and parts of blocks. -/
def records (n size : Nat) (what : String) : String :=
  toString (n / size) ++ "+" ++ (if n % size = 0 then "0" else "1") ++ " records " ++ what ++ "\n"

/-- What is told at the end; how long it took is not known. -/
def Plan.told (p : Plan) (read written : Nat) : Effect :=
  if p.status == "none" then {}
  else
    let amount := toString written ++ (if written = 1 then " byte" else " bytes") ++
      " copied, 0 s, 0 B/s\n"
    { writes := [(errorNumber, Text.Octets.bytesOf (records read p.inSize "in" ++
        records written p.outSize "out" ++ if p.status == "noxfer" then "" else amount))] }

/-- The content of a file after bytes are put at some place of it. -/
def Plan.placed (p : Plan) (old bs : Bytes) : Bytes :=
  let start := p.seek * p.outSize
  let head := old.take start ++ List.replicate (start - old.length) 0
  head ++ bs ++ if p.conversions.contains "notrunc" then old.drop (start + bs.length) else []

end Block

open Block in
/-- Copies blocks of bytes. -/
def dd (c : Call) : Effect :=
  match c.arguments.filter (· != "--") |>.foldlM (fun (p : Plan) a => p.after c a) {} with
  | .error (text, true) => c.misuse text
  | .error (text, false) => c.complain text
  | .ok p =>
    let source := match p.source with
      | some name => (c.open? name, c.quotedAlways name)
      | none => (match c.unreadable with
        | some r => .error r
        | none => .ok c.input, "'standard input'")
    match source with
    | (.error .isDirectory, name) => c.complain ("error reading " ++ name ++ ": " ++
        Refusal.isDirectory.reason)
    | (.error e, name) => c.complain ("failed to open " ++ name ++ ": " ++ e.reason)
    | (.ok i, _) =>
      let skip := if p.skipsBytes then p.skip else p.skip * p.inSize
      let most := p.count.map fun n => if p.countsBytes then n else n * p.inSize
      let bytes := match most with
        | some n => (i.take (skip + n)).drop skip
        | none => i.bytes.drop skip
      let out := p.converted bytes
      let reading : Effect := if p.source.isNone then
          { left := some (i.drop (skip + bytes.length)), isEndless := most.isNone && i.isEndless
            awaits := most.map (skip + ·) }
        else { isEndless := most.isNone && i.isEndless }
      let told := p.told bytes.length out.length
      match p.target with
      | none => (reading.andThen (Effect.write out)).andThen told
      | some name =>
        let old := match c.files.find? c.directory name with
          | .ok (_, .file content _) => content
          | _ => []
        match c.withContent name (p.placed old out) with
        | .ok files => (reading.andThen (changed files)).andThen told
        | .error e => c.complain ("failed to open " ++ c.quotedAlways name ++ ": " ++ e.reason)

end Errand.Host.Program
