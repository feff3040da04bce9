import Errand.Host.Count
import Errand.Host.Program.Basic
import Errand.Host.Program.Sources

/-! # Where two contents differ

`Program.cmp` tells the first byte in which two contents differ, or all of them, and `Program.diff`
the lines that make one content of the other one. -/

namespace Errand.Host.Program

/-- The places where bytes differ, from one on, each with the two bytes. -/
def differences (place : Nat) : Bytes → Bytes → List (Nat × UInt8 × UInt8)
  | a :: as, b :: bs =>
    if a = b then differences (place + 1) as bs
    else (place, a, b) :: differences (place + 1) as bs
  | _, _ => []

/-- A byte in octal digits. -/
def octalText (b : UInt8) : String := flushRight 3 (.ofList (Nat.toDigits 8 b.toNat))

/-- The number of bytes that an option leaves out. -/
def skipOf (v : Option String) : Option Nat :=
  match v with
  | none => some 0
  | some s => (Count.read Count.sizes s.toList).toOption

/-- A complaint about arguments whose hint is a line of its own. -/
def mistaken (c : Call) (text : String) : Effect :=
  c.complain (text ++ "\n" ++ c.name ++ ": " ++ c.hint) 2

/-- Does something with the options and operands of a call, or complains about them like that. -/
def withDifferenceOptions (c : Call) (flags : List Flag) (f : Options.Read → Effect) : Effect :=
  match Options.read flags false c.arguments with
  | .ok r => f r
  | .error e => mistaken c e

/-- Compares two contents byte by byte. -/
def cmp (c : Call) : Effect :=
  let flags : List Flag := [⟨'s', "quiet", .nothing⟩, ⟨'s', "silent", .nothing⟩,
    ⟨'l', "verbose", .nothing⟩, ⟨'b', "print-bytes", .nothing⟩, ⟨'n', "bytes", .value⟩,
    ⟨'i', "ignore-initial", .value⟩]
  withDifferenceOptions c flags fun r =>
    let names := match r.operands with
      | [a] => [a, "-"]
      | as => as
    match names with
    | [] => mistaken c ("missing operand after " ++ c.quotedAlways c.name)
    | _ :: _ :: _ :: _ :: extra :: _ => mistaken c ("extra operand " ++ c.quotedAlways extra)
    | first :: rest =>
      let second := rest.headD "-"
      let skips := (rest.drop 1).map fun s => skipOf (some s)
      let common := skipOf (((r.value? 'i').map fun v => (v.splitOn ":").headD ""))
      match Sources.of c [first, second], common, skips.headD (some 0),
          (skips.drop 1).headD (some 0) with
      | [a, b], some common, some one, some other =>
        match a.content, b.content with
        | .error e, _ => Sources.refused c first e 2
        | _, .error e => Sources.refused c second e 2
        | .ok i, .ok j =>
          let most := (r.value? 'n').bind fun v => skipOf (some v)
          let cut := fun (bs : Bytes) (n : Nat) =>
            let bs := bs.drop (common + n)
            match most with
            | some m => bs.take m
            | none => bs
          let (as, bs) := (cut i.bytes one, cut j.bytes other)
          let found := differences 1 as bs
          let lineOf := fun (n : Nat) => ((as.take (n - 1)).countP (· == lineEnd)) + 1
          let atEnd : Effect :=
            if as.length = bs.length then {}
            else
              let (name, short) := if as.length < bs.length then (first, as) else (second, bs)
              if r.has 's' then { status := 1 }
              else c.complain ("EOF on " ++ name ++
                if short.isEmpty then " which is empty"
                else " after byte " ++ toString short.length ++
                  if r.has 'l' then ""
                  else if short.getLast? = some lineEnd then
                    ", line " ++ toString (short.countP (· == lineEnd))
                  else ", in line " ++ toString (short.countP (· == lineEnd) + 1))
          let e : Effect := match found with
            | [] => atEnd
            | (n, x, y) :: _ =>
              if r.has 's' then { status := 1 }
              else if r.has 'l' then
                let width := (toString (min as.length bs.length)).length
                let told := say (String.join (found.map fun (n, x, y) =>
                  padded width n ++ " " ++ octalText x ++ " " ++ octalText y ++ "\n"))
                { told with status := 1 }.andThen atEnd
              else
                let shownBytes := if r.has 'b' then
                    let shown := fun (b : UInt8) => octalText b ++ " " ++
                      String.singleton (Char.ofNat b.toNat)
                    " is " ++ shown x ++ " " ++ shown y
                  else ""
                { say (first ++ " " ++ second ++ " differ: byte " ++ toString n ++ ", line " ++
                  toString (lineOf n) ++ shownBytes ++ "\n") with status := 1 }
          Sources.reading c [first, second] e
      | _, _, _, _ => mistaken c ("invalid --ignore-initial value " ++ c.quotedAlways
          ((r.value? 'i').getD ((rest.drop 1).headD "")))

/-! ## Lines -/

namespace Lines

/-- A step from one row of lines to another one. -/
inductive Step where
  | kept (line : Bytes)
  | removed (line : Bytes)
  | added (line : Bytes)

/-- Whether lines stay the same in a step. -/
def Step.isKept : Step → Bool
  | .kept _ => true
  | _ => false

/-- How lines are compared. -/
structure Style where
  caseless : Bool := false
  /-- Whether blanks do not count at all. -/
  ignoresBlanks : Bool := false
  /-- Whether any row of blanks is like one blank, and none at the end of a line. -/
  joinsBlanks : Bool := false

/-- What of a line counts. -/
def Style.counted (s : Style) (line : Bytes) : Bytes :=
  let isBlank := fun (b : UInt8) => b == 32 || (9 ≤ b && b ≤ 13)
  let line := if s.caseless then line.map fun b => if 65 ≤ b && b ≤ 90 then b + 32 else b else line
  if s.ignoresBlanks then line.filter (!isBlank ·)
  else if s.joinsBlanks then
    let parts := (line.splitBy fun a b => isBlank a == isBlank b).map fun part =>
      if (part.head?.map isBlank).getD false then [32] else part
    (if parts.getLast? == some [32] then parts.dropLast else parts).flatten
  else line

/-- For each line of a row and each line of another one, how many lines the rows have in common in
order from there on. -/
def table (as bs : List Bytes) : Array (Array Nat) :=
  (as.foldr (fun a (rows : List (List Nat)) =>
    let next := rows.headD []
    (((bs.zip (next.zip (next.drop 1)))).foldr (fun (b, here, after) (row : List Nat) =>
      (if a == b then after + 1 else max here (row.headD 0)) :: row) [0]) :: rows)
    [List.replicate (bs.length + 1) 0]).toArray.map List.toArray

/-- The steps from one row of lines, from some line on, to another one that keep as many lines as
can be. The first number bounds the steps. -/
def steps (s : Style) (common : Nat → Nat → Nat) :
    Nat → Nat → Nat → List Bytes → List Bytes → List Step
  | 0, _, _, _, _ => []
  | _, _, _, [], bs => bs.map .added
  | _, _, _, as, [] => as.map .removed
  | fuel + 1, i, j, a :: as, b :: bs =>
    if s.counted a == s.counted b then .kept a :: steps s common fuel (i + 1) (j + 1) as bs
    else if common i (j + 1) ≤ common (i + 1) j then
      .removed a :: steps s common fuel (i + 1) j as (b :: bs)
    else .added b :: steps s common fuel i (j + 1) (a :: as) bs

/-- The steps from one row of lines to another one. -/
def Style.steps (s : Style) (as bs : List Bytes) : List Step :=
  let t := table (as.map s.counted) (bs.map s.counted)
  Lines.steps s (fun i j => ((t[i]?).bind fun (row : Array Nat) => row[j]?).getD 0)
    (as.length + bs.length + 1) 0 0 as bs

/-- A place where lines differ: how many lines come before it in each row, and the lines. -/
structure Hunk where
  before : Nat × Nat
  removed : List Bytes
  added : List Bytes

/-- The places where lines differ. -/
def hunks (before : Nat × Nat) : Nat → List Step → List Hunk
  | 0, _ => []
  | _, [] => []
  | fuel + 1, .kept _ :: rest => hunks (before.1 + 1, before.2 + 1) fuel rest
  | fuel + 1, rest =>
    let (own, after) := rest.span (!·.isKept)
    let removed := own.filterMap fun
      | .removed l => some l
      | _ => none
    let added := own.filterMap fun
      | .added l => some l
      | _ => none
    ⟨before, removed, added⟩ ::
      hunks (before.1 + removed.length, before.2 + added.length) fuel after

/-- A line with a mark before it, and a note if it has no end. -/
def marked (mark : String) (line : Bytes) : Bytes :=
  Text.Octets.bytesOf mark ++ line ++ if line.getLast? = some lineEnd then []
    else Text.Octets.bytesOf "\n\\ No newline at end of file\n"

/-- The numbers of lines after some others: both ends, or the one line before if there are none. -/
def span (before count : Nat) : String :=
  if count = 0 then toString before
  else if count = 1 then toString (before + 1)
  else toString (before + 1) ++ "," ++ toString (before + count)

/-- A place where lines differ as a command and its lines. -/
def Hunk.plain (h : Hunk) : Bytes :=
  let letter := if h.removed.isEmpty then "a" else if h.added.isEmpty then "d" else "c"
  Text.Octets.bytesOf (span h.before.1 h.removed.length ++ letter ++
      span h.before.2 h.added.length ++ "\n") ++ h.removed.flatMap (marked "< ") ++
    (if letter == "c" then Text.Octets.bytesOf "---\n" else []) ++ h.added.flatMap (marked "> ")

/-- Steps with those that are kept around others, but not further away than some number. -/
def groups (context : Nat) (steps : List Step) : List (Nat × List Step) :=
  let numbered := steps.zip (List.range steps.length)
  let changed := (numbered.filter fun e => !e.1.isKept).map (·.2)
  let near := fun (i : Nat) => changed.any fun k => i ≤ k + context && k ≤ i + context
  let chosen := numbered.filter fun e => near e.2
  ((chosen.splitBy fun a b => a.2 + 1 == b.2).map fun g => ((g.headD (.kept [], 0)).2, g.map (·.1)))

/-- The numbers of lines in the head of a group. -/
def range (before count : Nat) : String :=
  if count = 0 then toString before ++ ",0"
  else toString (before + 1) ++ if count = 1 then "" else "," ++ toString count

/-- All groups of steps, with their context. -/
def unified (context : Nat) (steps : List Step) : Bytes :=
  (groups context steps).flatMap fun (start, group) =>
    let count := fun (side : Step → Bool) (steps : List Step) => steps.countP side
    let first : Step → Bool := fun
      | .added _ => false
      | _ => true
    let second : Step → Bool := fun
      | .removed _ => false
      | _ => true
    let earlier := steps.take start
    Text.Octets.bytesOf ("@@ -" ++ range (count first earlier) (count first group) ++ " +" ++
        range (count second earlier) (count second group) ++ " @@\n") ++
      group.flatMap fun
        | .kept l => marked " " l
        | .removed l => marked "-" l
        | .added l => marked "+" l

end Lines

/-- Tells which lines make one content of the other one. -/
def diff (c : Call) : Effect :=
  let flags : List Flag := [⟨'q', "brief", .nothing⟩, ⟨'s', "report-identical-files", .nothing⟩,
    ⟨'i', "ignore-case", .nothing⟩, ⟨'w', "ignore-all-space", .nothing⟩,
    ⟨'b', "ignore-space-change", .nothing⟩, ⟨'u', "", .nothing⟩, ⟨'U', "", .value⟩,
    ⟨'\x02', "unified", .optional⟩,
    ⟨'L', "label", .value⟩, ⟨'a', "text", .nothing⟩, ⟨'d', "minimal", .nothing⟩,
    ⟨'\x01', "normal", .nothing⟩]
  withDifferenceOptions c flags fun r =>
    match r.operands with
    | [] => mistaken c ("missing operand after " ++ c.quotedAlways c.name)
    | [a] => mistaken c ("missing operand after " ++ c.quotedAlways a)
    | _ :: _ :: extra :: _ => mistaken c ("extra operand " ++ c.quotedAlways extra)
    | [a, b] =>
      let isDirectory := fun (p : String) => match c.files.find? c.directory p with
        | .ok (_, n) => n.isDirectory
        | .error _ => false
      let (a, b) := match isDirectory a, isDirectory b with
        | true, false => (Path.append a (.ofList (lastName b)), b)
        | false, true => (a, Path.append b (.ofList (lastName a)))
        | _, _ => (a, b)
      match Sources.of c [a, b] with
      | [x, y] =>
        match x.content, y.content with
        | .error e, .error e' => { (Sources.refused c a e 2).andThen (Sources.refused c b e' 2) with
            status := 2 }
        | .error e, _ => Sources.refused c a e 2
        | _, .error e => Sources.refused c b e 2
        | .ok i, .ok j =>
          let style : Lines.Style := {
            caseless := r.has 'i'
            ignoresBlanks := r.has 'w'
            joinsBlanks := r.has 'b' }
          let steps := style.steps (lines i.bytes) (lines j.bytes)
          let isSame := steps.all Lines.Step.isKept
          let e : Effect :=
            if isSame then
              if r.has 's' then say ("Files " ++ a ++ " and " ++ b ++ " are identical\n") else {}
            else if r.has 'q' then say ("Files " ++ a ++ " and " ++ b ++ " differ\n")
            else if i.bytes.contains 0 || j.bytes.contains 0 then
              say ("Binary files " ++ a ++ " and " ++ b ++ " differ\n")
            else if r.has 'u' || r.has 'U' || r.has '\x02' then
              let labels := (r.given.filter fun g => g.1 == 'L').filterMap (·.2)
              let date := "\t1970-01-01 00:00:00.000000000 +0000"
              let heads := "--- " ++ (labels[0]?).getD (a ++ date) ++ "\n+++ " ++
                (labels[1]?).getD (b ++ date) ++ "\n"
              let context := (((r.value? 'U').or (r.value? '\x02')).bind String.toNat?).getD 3
              (say heads).andThen (Effect.write (Lines.unified context steps))
            else
              Effect.write ((Lines.hunks (0, 0) (steps.length + 1) steps).flatMap Lines.Hunk.plain)
          let e := { e with status := if isSame then 0 else if r.has 'q' then 1 else
            if i.bytes.contains 0 || j.bytes.contains 0 then 2 else 1 }
          Sources.reading c [a, b] e
      | _ => {}

end Errand.Host.Program
