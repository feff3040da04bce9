import Errand.Host.Program.Content
import Errand.Text.Width

/-! # Programs that count

They tell how much there is in what they read: lines, words, characters, bytes, and how wide the
widest line is. -/

namespace Errand.Host.Program

/-- What can be counted, in the order in which it is told. -/
structure Counts where
  lineEnds : Nat := 0
  words : Nat := 0
  characters : Nat := 0
  bytes : Nat := 0
  longest : Nat := 0

/-- The number of words: what stands between blanks. -/
def wordCount (bs : Bytes) : Nat :=
  (bs.foldl (fun (n, inside) b =>
    let isGap := b = 32 || (9 ≤ b && b ≤ 13)
    if isGap then (n, false) else (if inside then n else n + 1, true)) (0, false)).1

/-- The width of a line; a tab goes on to the next of its stops. -/
def widthOf (unicode : Bool) (line : Bytes) : Nat :=
  (characters unicode line).foldl (fun (n : Nat) (ch : Bytes) =>
    match ch with
    | [9] => (n / 8 + 1) * 8
    | [b] => if 32 ≤ b && b < 127 then n + 1 else n
    | _ => match Text.Utf8.pieces ch with
      | [.char c] => if c.toNat < 160 then n else n + Text.columnsOf c
      | _ => n) 0

/-- The counts of a content. -/
def Counts.of (unicode : Bool) (bs : Bytes) : Counts where
  lineEnds := bs.countP (· == lineEnd)
  words := wordCount bs
  characters := if unicode then bs.countP fun b => b < 128 || 192 ≤ b else bs.length
  bytes := bs.length
  longest := ((lines bs).map fun l => widthOf unicode (chomp l)).foldl max 0

/-- Counts together. -/
def Counts.add (a b : Counts) : Counts :=
  ⟨a.lineEnds + b.lineEnds, a.words + b.words, a.characters + b.characters, a.bytes + b.bytes,
    max a.longest b.longest⟩

/-- The counts that letters ask for. -/
def Counts.chosen (n : Counts) (letters : List Char) : List Nat :=
  let all := [('l', n.lineEnds), ('w', n.words), ('m', n.characters), ('c', n.bytes),
    ('L', n.longest)]
  all.filterMap fun e => if letters.contains e.1 then some e.2 else none

/-- The line that tells counts. -/
def Counts.line (n : Counts) (letters : List Char) (width : Nat) (name : Option String) : Effect :=
  say (" ".intercalate ((n.chosen letters).map (padded width) ++ name.toList) ++ "\n")

/-- The option that says when there is a line for all contents together. -/
def totalLetter : Char := '\x01'

/-- Counts lines, words, characters and bytes. Counts are as wide as the largest that there can be,
and wider where that is not known. -/
def wc (c : Call) : Effect :=
  let flags : List Flag := [⟨'c', "bytes", .nothing⟩, ⟨'m', "chars", .nothing⟩,
    ⟨'l', "lines", .nothing⟩, ⟨'w', "words", .nothing⟩, ⟨'L', "max-line-length", .nothing⟩,
    ⟨totalLetter, "total", .value⟩]
  c.withOptions flags fun r =>
    match c.choice "--total" ["auto", "always", "only", "never"]
        ((r.value? totalLetter).getD "auto") with
    | .error text => c.misuse text
    | .ok totals =>
      let letters := (r.given.map (·.1)).filter (· != totalLetter)
      let letters := if letters.isEmpty then ['l', 'w', 'c'] else letters
      let sources := Sources.of c r.operands
      let isSingle := sources.length = 1 && (Counts.chosen {} letters).length = 1
      let isOdd := fun (s : Source) => match s.content with
        | .ok i => !i.seekable
        | .error .isDirectory => true
        | .error _ => false
      let total := (sources.map fun s => (s.content.toOption.map (·.bytes.length)).getD 0).foldr
        (· + ·) 0
      let width := if isSingle || totals == "only" then 1
        else max (toString total).length (if sources.any isOdd then 7 else 1)
      let countsOf := fun (s : Source) => Counts.of c.isUnicode
        ((s.content.toOption.map (·.bytes)).getD [])
      let name := fun (s : Source) => if r.operands.isEmpty then none else some s.name
      let line := fun (n : Counts) (s : Source) =>
        if totals == "only" then {} else n.line letters width (name s)
      let told := sources.map fun s => match s.content with
        | .ok _ => line (countsOf s) s
        | .error .isDirectory => (Sources.refused c s.name .isDirectory).andThen (line {} s)
        | .error e => Sources.refused c s.name e
      let sum := (sources.map countsOf).foldl Counts.add {}
      let hasSum := match totals with
        | "auto" => decide (1 < sources.length)
        | "never" => false
        | _ => true
      let named := if totals == "only" then none else some "total"
      Sources.reading c r.operands ((Effect.all told).andThen
        (if hasSum then sum.line letters width named else {}))

end Errand.Host.Program
