import Errand.Host.Count
import Errand.Host.Program.Content

/-! # Programs that handle lines as rows

They take parts out of lines, put lines side by side, bring lines into an order and drop those that
repeat. -/

namespace Errand.Host.Program

/-! ## Parts of lines -/

/-- Ranges of numbers that begin with one; the last number of a range may be missing. -/
abbrev Ranges := List (Nat × Option Nat)

/-- Whether a number is in ranges. -/
def Ranges.has (rs : Ranges) (n : Nat) : Bool :=
  rs.any fun r => r.1 ≤ n && (r.2.map fun m => decide (n ≤ m)).getD true

/-- Whether a number is the first one of a range. -/
def Ranges.starts (rs : Ranges) (n : Nat) : Bool :=
  rs.has n && !(rs.any fun r => r.1 < n && (r.2.map fun m => decide (n ≤ m)).getD true)

/-- One range of a list. -/
def readRange (c : Call) (fields : Bool) (s : String) : Except String (Nat × Option Nat) :=
  let zero := if fields then "fields are numbered from 1"
    else "byte/character positions are numbered from 1"
  let invalid := (if fields then "invalid field value " else "invalid byte/character position ") ++
    c.quoted s
  let cs := s.toList
  let first := cs.takeWhile Char.isDigit
  let number := Numeral.valueOf 10
  match cs.drop first.length with
  | [] => if number first = 0 then .error zero else .ok (number first, some (number first))
  | '-' :: rest =>
    let second := rest.takeWhile Char.isDigit
    if second.length < rest.length then .error invalid
    else if first.isEmpty && second.isEmpty then .error "invalid range with no endpoint: -"
    else if !first.isEmpty && number first = 0 then .error zero
    else
      let low := if first.isEmpty then 1 else number first
      if second.isEmpty then .ok (low, none)
      else if number second < low then .error "invalid decreasing range"
      else .ok (low, some (number second))
  | _ => .error invalid

/-- A list of ranges. -/
def readRanges (c : Call) (fields : Bool) (s : String) : Except String Ranges :=
  ((s.toList.map fun ch => if ch == ' ' || ch == '\t' then ',' else ch).splitOn ',').mapM fun r =>
    readRange c fields (.ofList r)

/-- The bytes of a line between marks. -/
def fieldsOf (mark : UInt8) (line : Bytes) : List Bytes := line.splitOn mark

/-- Texts with a mark between them. -/
def joined (mark : Bytes) (parts : List Bytes) : Bytes := mark.intercalate parts

/-- The bytes of a line at places; a mark may stand between ranges. -/
def cutBytes (rs : Ranges) (mark : Option Bytes) (line : Bytes) : Bytes :=
  ((line.zip (List.range line.length)).foldl (fun (done : List Bytes) e =>
    let n := e.2 + 1
    if !rs.has n then done
    else
      let gap := match mark with
        | some m => if rs.starts n && !done.isEmpty then m else []
        | none => []
      (gap ++ [e.1]) :: done) []).reverse.flatten

/-- The fields of a line at places; none if the line has no fields and is not wanted then. -/
def cutFields (rs : Ranges) (mark : UInt8) (out : Bytes) (isStrict : Bool) (line : Bytes) :
    Option Bytes :=
  if !line.contains mark then if isStrict then none else some line
  else
    let fields := fieldsOf mark line
    some (joined out (((fields.zip (List.range fields.length)).filter fun e =>
      rs.has (e.2 + 1)).map (·.1)))

/-- The ranges of the numbers that are not in ranges, up to a number. -/
def Ranges.others (rs : Ranges) (last : Nat) : Ranges :=
  let missing := (List.range last).filterMap fun i =>
    if rs.has (i + 1) then none else some (i + 1, some (i + 1))
  missing ++ if rs.has (last + 1) then [] else [(last + 1, none)]

/-- How far ranges go. -/
def Ranges.last (rs : Ranges) : Nat := rs.foldl (fun n r => max n (max r.1 (r.2.getD 0))) 0

/-- Takes parts out of lines. -/
def cut (c : Call) : Effect :=
  let flags : List Flag := [⟨'b', "bytes", .value⟩, ⟨'c', "characters", .value⟩,
    ⟨'f', "fields", .value⟩, ⟨'d', "delimiter", .value⟩, ⟨'s', "only-delimited", .nothing⟩,
    ⟨'n', "", .nothing⟩, ⟨'z', "zero-terminated", .nothing⟩, ⟨'\x01', "complement", .nothing⟩,
    ⟨'\x02', "output-delimiter", .value⟩]
  c.withOptions flags fun r =>
    let lists := r.given.filter fun g => "bcf".toList.contains g.1
    let fields := r.has 'f'
    match lists with
    | [] => c.misuse "you must specify a list of bytes, characters, or fields"
    | _ :: _ :: _ => c.misuse "only one list may be specified"
    | [(_, list)] =>
      let delimiter := (r.value? 'd').map Text.Octets.bytesOf
      if (delimiter.map fun d => decide (1 < d.length)).getD false then
        c.misuse "the delimiter must be a single character"
      else if !fields && delimiter.isSome then
        c.misuse "an input delimiter may be specified only when operating on fields"
      else if !fields && r.has 's' then
        c.misuse ("suppressing non-delimited lines makes sense\n" ++
          "\tonly when operating on fields")
      else match readRanges c fields (list.getD "") with
        | .error e => c.misuse e
        | .ok rs =>
          let rs := if r.has '\x01' then rs.others rs.last else rs
          let end' : UInt8 := if r.has 'z' then 0 else lineEnd
          let mark := (delimiter.map fun d => d.headD 0).getD 9
          let out := (r.value? '\x02').map Text.Octets.bytesOf
          let shown := fun (line : Bytes) =>
            if fields then cutFields rs mark (out.getD [mark]) (r.has 's') line
            else some (cutBytes rs out line)
          Sources.each c r.operands fun _ i => Effect.write
            (((lines i.bytes end').filterMap fun l =>
              (shown (chomp l end')).map (· ++ [end'])).flatten)

/-! ## Lines side by side -/

/-- The marks that stand between lines, of which an escape may be none; none if a backslash has
nothing after it. -/
def pasteMarks (s : String) : Option (List Bytes) :=
  let rec go : List Char → Option (List Bytes)
    | [] => some []
    | ['\\'] => none
    | '\\' :: '0' :: cs => (go cs).map ([] :: ·)
    | '\\' :: c :: cs => (go cs).map
        (Text.Octets.toBytes [(Printing.letters.lookup c).getD c] :: ·)
    | c :: cs => (go cs).map (Text.Octets.toBytes [c] :: ·)
  (go s.toList).map fun ms => if ms.isEmpty then [[]] else ms

/-- Texts with marks between them, which come in turn. -/
def interleaved (marks : List Bytes) (parts : List Bytes) : Bytes :=
  ((parts.zip (List.range parts.length)).map fun e =>
    (if e.2 = 0 then [] else (marks[(e.2 - 1) % marks.length]?).getD []) ++ e.1).flatten

/-- Lines of several contents at the same places. -/
def besides (marks : List Bytes) (end' : UInt8) : Nat → List (List Bytes) → Bytes
  | 0, _ => []
  | fuel + 1, columns =>
    if columns.all List.isEmpty then []
    else interleaved marks (columns.map fun ls => ls.headD []) ++ [end'] ++
      besides marks end' fuel (columns.map (·.drop 1))

/-- The lines of sources, where the input may be shared by several of them. -/
def columnsOf (end' : UInt8) (sources : List Source) : List (List Bytes) :=
  let shared := sources.countP fun s => s.name == Sources.inputName
  let input := ((sources.find? fun s => s.name == Sources.inputName).bind fun s =>
    s.content.toOption).map fun i => (lines i.bytes end').map (chomp · end')
  (sources.foldl (fun (done, n) s =>
    if s.name == Sources.inputName then
      let ls := input.getD []
      let own := ((ls.zip (List.range ls.length)).filter fun e => e.2 % shared == n).map (·.1)
      (own :: done, n + 1)
    else
      let bs := ((s.content.toOption).map (·.bytes)).getD []
      ((lines bs end').map (chomp · end') :: done, n))
    (([], 0) : List (List Bytes) × Nat)).1.reverse

/-- Puts lines side by side. -/
def paste (c : Call) : Effect :=
  let flags : List Flag := [⟨'d', "delimiters", .value⟩, ⟨'s', "serial", .nothing⟩,
    ⟨'z', "zero-terminated", .nothing⟩]
  c.withOptions flags fun r =>
    match pasteMarks ((r.value? 'd').getD "\t") with
    | none => c.complain ("delimiter list ends with an unescaped backslash: " ++
        (r.value? 'd').getD "")
    | some marks =>
      let end' : UInt8 := if r.has 'z' then 0 else lineEnd
      let sources := Sources.of c r.operands
      let refusals := sources.filterMap fun s => match s.content with
        | .ok _ => none
        | .error e => some (Sources.refused c s.name e)
      let content := fun (s : Source) => ((s.content.toOption).map (·.bytes)).getD []
      let shown := if r.has 's' then
          (sources.filter fun s => s.content.toOption.isSome).flatMap fun s =>
            interleaved marks ((lines (content s) end').map (chomp · end')) ++ [end']
        else
          let columns := columnsOf end' sources
          besides marks end' ((columns.map List.length).foldl max 0) columns
      if !r.has 's' && !refusals.isEmpty then refusals.headD {}
      else Sources.reading c r.operands ((Effect.all refusals).andThen (Effect.write shown))

/-! ## Lines that repeat -/

/-- A line without its first fields and characters, and not beyond a length. -/
def comparedPart (skipFields skipChars : Nat) (most : Option Nat) (caseless : Bool)
    (line : Bytes) : Bytes :=
  let isBlank := fun (b : UInt8) => b == 32 || b == 9
  let rest := (List.range skipFields).foldl (fun bs _ =>
    ((bs.dropWhile isBlank).dropWhile fun b => !isBlank b)) line
  let rest := rest.drop skipChars
  let rest := match most with
    | some n => rest.take n
    | none => rest
  if caseless then rest.map fun b => if 97 ≤ b && b ≤ 122 then b - 32 else b else rest

/-- Runs of lines that are the same. -/
def runsOf (same : Bytes → Bytes → Bool) (ls : List Bytes) : List (List Bytes) :=
  (ls.foldl (fun (done : List (List Bytes)) l =>
    match done with
    | (m :: run) :: rest => if same ((m :: run).getLastD m) l then (l :: m :: run) :: rest
        else [l] :: done
    | _ => [l] :: done) []).reverse.map List.reverse

/-- Drops lines that repeat the line before them. -/
def uniq (c : Call) : Effect :=
  let flags : List Flag := [⟨'c', "count", .nothing⟩, ⟨'d', "repeated", .nothing⟩,
    ⟨'D', "", .nothing⟩, ⟨'u', "unique", .nothing⟩, ⟨'i', "ignore-case", .nothing⟩,
    ⟨'f', "skip-fields", .value⟩, ⟨'s', "skip-chars", .value⟩, ⟨'w', "check-chars", .value⟩,
    ⟨'z', "zero-terminated", .nothing⟩]
  c.withOptions flags fun r =>
    let number := fun (letter : Char) (what : String) => match r.value? letter with
      | none => Except.ok none
      | some s => match Count.read [] s.toList with
        | .ok n => .ok (some n)
        | .error _ => .error (s ++ ": invalid number of " ++ what)
    let read : Except String (Option Nat × Option Nat × Option Nat) := do
      return (← number 'f' "fields to skip", ← number 's' "bytes to skip",
        ← number 'w' "bytes to compare")
    match read, r.operands with
    | .error e, _ => c.complain e
    | _, _ :: _ :: a :: _ => extraOperand c a
    | .ok (f, s, w), operands =>
      let name := operands.headD Sources.inputName
      match Sources.of c [name] with
      | [⟨_, .ok i⟩] =>
        let end' : UInt8 := if r.has 'z' then 0 else lineEnd
        let key := comparedPart (f.getD 0) (s.getD 0) w (r.has 'i')
        let runs := runsOf (fun a b => key a == key b) ((lines i.bytes end').map (chomp · end'))
        let shown := runs.flatMap fun run =>
          let count := if r.has 'c' then Text.Octets.bytesOf (padded 7 run.length ++ " ") else []
          let isWanted := (!r.has 'd' || 1 < run.length) && (!r.has 'u' || run.length = 1)
          if r.has 'D' then (if 1 < run.length then run.flatMap (· ++ [end']) else [])
          else if isWanted then count ++ run.headD [] ++ [end'] else []
        match operands[1]? with
        | none => Sources.reading c [name] (Effect.write shown)
        | some target =>
          match c.withContent target shown with
          | .ok files => Sources.reading c [name] { files := some files }
          | .error e => Sources.refused c target e
      | [⟨_, .error .isDirectory⟩] => c.complain ("error reading " ++ c.quotedAlways name ++ ": " ++
          Refusal.isDirectory.reason)
      | [⟨_, .error e⟩] => Sources.refused c name e
      | _ => {}

end Errand.Host.Program
