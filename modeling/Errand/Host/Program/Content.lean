import Errand.Host.Program.Basic
import Errand.Host.Program.Sources

/-! # Programs that show contents

They show what they read as it is, or with numbers and marks, or from its end to its beginning. -/

namespace Errand.Host.Program

/-! ## All of it -/

/-- How a content is shown: which lines have numbers, and what is marked. -/
structure Display where
  numbersAll : Bool := false
  numbersFilled : Bool := false
  squeezes : Bool := false
  marksEnds : Bool := false
  marksTabs : Bool := false
  marksHidden : Bool := false

/-- How far the showing of contents has come: the number of the last line, how many empty lines
there were in a row, and whether a line begins. -/
structure Progress where
  number : Nat := 0
  blanks : Nat := 0
  atStart : Bool := true

/-- The marks of a byte that is not shown as it is. -/
def hiddenMark (b : UInt8) : Bytes :=
  let low := if b < 32 then [94, b + 64] else if b = 127 then [94, 63] else [b]
  if b < 128 then low
  else
    let b := b - 128
    [77, 45] ++ if b < 32 then [94, b + 64] else if b = 127 then [94, 63] else [b]

/-- A byte as it is shown. -/
def Display.byte (d : Display) (b : UInt8) : Bytes :=
  if b = 9 then if d.marksTabs then [94, 73] else [9]
  else if d.marksHidden then hiddenMark b else [b]

/-- The number before a line. -/
def lineNumber (n : Nat) : Bytes := Text.Octets.bytesOf (padded 6 n ++ "\t")

/-- A line as it is shown, and the progress after it. -/
def Display.line (d : Display) (p : Progress) (line : Bytes) : Bytes × Progress :=
  let ends := line.getLast? = some lineEnd
  let body := chomp line
  let isBlank := p.atStart && ends && body.isEmpty
  let blanks := if isBlank then p.blanks + 1 else 0
  if d.squeezes && 2 ≤ blanks then ([], { p with blanks })
  else
    let isNumbered := p.atStart && if d.numbersFilled then !isBlank else d.numbersAll
    let number := if isNumbered then p.number + 1 else p.number
    let carriage := d.marksEnds && ends && body.getLast? = some 13
    let body := if carriage then body.dropLast.flatMap d.byte ++ [94, 77]
      else body.flatMap d.byte
    ((if isNumbered then lineNumber number else []) ++ body ++
      (if d.marksEnds && ends then [36] else []) ++ (if ends then [lineEnd] else []),
      ⟨number, blanks, ends⟩)

/-- A content as it is shown, and the progress after it. -/
def Display.content (d : Display) (p : Progress) (bs : Bytes) : Bytes × Progress :=
  let (parts, p) := (lines bs).foldl (fun (done, p) line =>
    let (shown, p) := d.line p line
    (shown :: done, p)) (([] : List Bytes), p)
  (parts.reverse.flatten, p)

/-- The effects of showing contents one after the other. -/
def Display.all (d : Display) (c : Call) : Progress → List Source → Effect
  | _, [] => {}
  | p, s :: rest =>
    match s.content with
    | .ok i =>
      let (shown, p) := d.content p i.bytes
      (Effect.write shown).andThen (d.all c p rest)
    | .error r => (Sources.refused c s.name r).andThen (d.all c p rest)

/-- Whether all operands are the input. -/
def readsInputOnly (operands : List String) : Bool :=
  (Sources.namesOf operands).all (· == Sources.inputName)

/-- Shows contents one after the other. -/
def cat (c : Call) : Effect :=
  let flags : List Flag := [⟨'b', "number-nonblank", .nothing⟩, ⟨'n', "number", .nothing⟩,
    ⟨'s', "squeeze-blank", .nothing⟩, ⟨'v', "show-nonprinting", .nothing⟩,
    ⟨'E', "show-ends", .nothing⟩, ⟨'T', "show-tabs", .nothing⟩, ⟨'A', "show-all", .nothing⟩,
    ⟨'e', "", .nothing⟩, ⟨'t', "", .nothing⟩, ⟨'u', "", .nothing⟩]
  c.withOptions flags fun r =>
    let has := fun (letters : String) => letters.toList.any r.has
    let isPlain := !has "AbeEnstTv"
    if isPlain && readsInputOnly r.operands && c.unreadable.isNone then
      { left := some { c.input with bytes := [] }, copies := true }
    else
      let d : Display := ⟨has "n", has "b", has "s", has "AeE", has "AtT", has "Aetv"⟩
      Sources.reading c r.operands (d.all c {} (Sources.of c r.operands))

/-- A content in pieces that end after a mark, or begin with it; the number bounds the pieces. -/
def markedPieces (mark : Bytes) (before : Bool) : Nat → Bytes → Bytes → List Bytes
  | 0, done, bs => [done.reverse ++ bs]
  | _ + 1, done, [] => if done.isEmpty then [] else [done.reverse]
  | fuel + 1, done, b :: bs =>
    if mark.isPrefixOf (b :: bs) then
      let rest := (b :: bs).drop mark.length
      if before then
        (if done.isEmpty then [] else [done.reverse]) ++
          markedPieces mark before fuel mark.reverse rest
      else (done.reverse ++ mark) :: markedPieces mark before fuel [] rest
    else markedPieces mark before fuel (b :: done) bs

/-- Shows the lines of contents in reverse order. -/
def tac (c : Call) : Effect :=
  let flags : List Flag := [⟨'b', "before", .nothing⟩, ⟨'r', "regex", .nothing⟩,
    ⟨'s', "separator", .value⟩]
  c.withOptions flags fun r =>
    let mark := match (r.value? 's').getD "\n" with
      | "" => [0]
      | s => Text.Octets.bytesOf s
    let effects := (Sources.of c r.operands).map fun s => match s.content with
      | .ok i => Effect.write
        (markedPieces mark (r.has 'b') (i.bytes.length + 1) [] i.bytes).reverse.flatten
      | .error .isDirectory =>
        c.complain (c.shown s.name ++ ": read error: " ++ Refusal.isDirectory.reason)
      | .error e => c.complain
        ("failed to open " ++ c.quotedAlways s.name ++ " for reading: " ++ e.reason)
    Sources.reading c r.operands (Effect.all effects).buffered

/-- The characters of a line, each as its bytes. -/
def characters (unicode : Bool) (bs : Bytes) : List Bytes :=
  if unicode then (Text.Utf8.pieces bs).map fun
    | .bad run _ => run
    | .char ch => String.utf8EncodeChar ch
  else bs.map fun b => [b]

/-- Shows every line of contents from its end to its beginning. -/
def rev (c : Call) : Effect :=
  c.withOptions [] fun r =>
    let effects := (Sources.of c r.operands).map fun s => match s.content with
      | .ok i => Effect.write ((lines i.bytes).flatMap fun line =>
        (characters c.isUnicode (chomp line)).reverse.flatten ++
          if line.getLast? = some lineEnd then [lineEnd] else [])
      | .error e => c.complain ("cannot open " ++ s.name ++ ": " ++ e.reason)
    Sources.reading c r.operands (Effect.all effects).buffered

end Errand.Host.Program
