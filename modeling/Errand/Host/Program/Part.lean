import Errand.Host.Count
import Errand.Host.Program.Basic
import Errand.Host.Program.Sources

/-! # Programs that show a part

They show the beginning or the end of what they read. A part is so many lines or bytes, counted from
the usual end of a content or from the other one; `Extent` says which. -/

namespace Errand.Host.Program

/-- A part of a content: so many lines or bytes, counted from the usual end of it or from the
other one. -/
structure Extent where
  ofBytes : Bool := false
  count : Nat := 10
  isReversed : Bool := false

/-- The options of programs that show a part, each with its value. -/
def partFlags : List Flag :=
  [⟨'c', "bytes", .value⟩, ⟨'n', "lines", .value⟩, ⟨'q', "quiet", .nothing⟩,
    ⟨'q', "silent", .nothing⟩, ⟨'v', "verbose", .nothing⟩, ⟨'z', "zero-terminated", .nothing⟩]

/-- The extent that options ask for, by the sign that reverses it; or what is wrong. -/
def extentOf (c : Call) (reversing plain : Char) (r : Options.Read) : Except String Extent :=
  match (r.given.filter fun g => g.1 == 'c' || g.1 == 'n').getLast? with
  | none => .ok {}
  | some (letter, value) =>
    let text := value.getD ""
    let (isReversed, cs) := match text.toList with
      | sign :: cs =>
        if sign == reversing then (true, cs) else if sign == plain then (false, cs)
        else (false, sign :: cs)
      | [] => (false, [])
    match if cs.head? == some '+' then .error .unreadable else Count.read Count.sizes cs with
    | .ok n => .ok ⟨letter == 'c', n, isReversed⟩
    | .error f =>
      let shown := if plain == '+' then cs else if isReversed then text.toList else cs
      .error ("invalid number of " ++ (if letter == 'c' then "bytes" else "lines") ++ ": " ++
        c.quoted (String.ofList shown) ++ f.reason)

/-- How many bytes are read at once. -/
def blockSize : Nat := 8192

/-- What is left of an input of which the first bytes are used. -/
def leftAfter (i : Input) (used : Nat) (exactly : Bool) : Input :=
  if i.seekable || exactly then i.drop used
  else i.drop ((max 1 ((used + blockSize - 1) / blockSize)) * blockSize)

/-- The bytes of an input as far as a number of lines goes: what comes again and again is written
out as often as may be needed. -/
def Input.written (i : Input) (count : Nat) (mark : UInt8) : Bytes :=
  if i.period.contains mark then i.bytes ++ (List.replicate count i.period).flatten else i.bytes

/-- The first part of an input, and whether nothing more of it has to be read. -/
def Extent.first (e : Extent) (mark : UInt8) (i : Input) : Bytes × Bool :=
  if e.ofBytes then
    if e.isReversed then (i.bytes.take (i.bytes.length - e.count), false)
    else
      let bs := i.take e.count
      (bs, bs.length = e.count)
  else if e.isReversed then
    let ls := lines i.bytes mark
    ((ls.take (ls.length - e.count)).flatten, false)
  else
    let taken := (lines (Input.written i e.count mark) mark).take e.count
    (taken.flatten, taken.length = e.count && (taken.getLast?.map fun l =>
      l.getLast? == some mark).getD true)

/-- The last part of an input. -/
def Extent.final (e : Extent) (mark : UInt8) (i : Input) : Bytes :=
  if e.ofBytes then
    if e.isReversed then i.bytes.drop (e.count - 1) else i.bytes.drop (i.bytes.length - e.count)
  else
    let ls := lines i.bytes mark
    (if e.isReversed then ls.drop (e.count - 1) else ls.drop (ls.length - e.count)).flatten

/-- The head above a part, by its place among all of them. -/
def partHead (r : Options.Read) (isFirst : Bool) (name : String) : Effect :=
  let wanted := match (r.given.filter fun g => g.1 == 'q' || g.1 == 'v').getLast? with
    | some (letter, _) => letter == 'v'
    | none => 1 < r.operands.length
  let name := if name == Sources.inputName then "standard input" else name
  if wanted then say ((if isFirst then "" else "\n") ++ "==> " ++ name ++ " <==\n") else {}

/-- The parts of contents, one after the other; the number counts the heads. -/
def parts (c : Call) (r : Options.Read) (f : Source → Input → Effect) :
    Nat → List Source → Effect
  | _, [] => {}
  | n, s :: rest =>
    let name := if s.name == Sources.inputName then "standard input" else s.name
    match s.content with
    | .ok i => (partHead r (n = 0) s.name).andThen ((f s i).andThen (parts c r f (n + 1) rest))
    | .error .isDirectory =>
      (partHead r (n = 0) s.name).andThen
        ((c.complain ("error reading " ++ c.quotedAlways name ++ ": " ++
          Refusal.isDirectory.reason)).andThen (parts c r f (n + 1) rest))
    | .error e =>
      (c.complain ("cannot open " ++ c.quotedAlways name ++ " for reading: " ++ e.reason)).andThen
        (parts c r f n rest)

/-! ## The beginning -/

/-- The arguments that stand for an option of digits and the letters after them; the first letter
that means nothing is an error. -/
def leadingCount (ds letters : List Char) : Except Char (List String) := do
  let (option, unit, flags) ← letters.foldlM (fun (option, unit, flags) l =>
    match l with
    | 'c' => .ok ("-c", "", flags)
    | 'b' | 'k' | 'm' => .ok ("-c", String.singleton l, flags)
    | 'l' => .ok ("-n", unit, flags)
    | 'q' | 'v' | 'z' => .ok (option, unit, flags ++ [String.ofList ['-', l]])
    | _ => .error l) ("-n", "", ([] : List String))
  return option :: (String.ofList ds ++ unit) :: flags

/-- Shows the first part of contents. -/
def head (c : Call) : Effect :=
  let arguments : Except Char (List String) := match c.arguments with
    | a :: rest => match a.toList with
      | '-' :: d :: cs =>
        let ds := (d :: cs).takeWhile Char.isDigit
        if ds.isEmpty then .ok c.arguments
        else (leadingCount ds ((d :: cs).drop ds.length)).map (· ++ rest)
      | _ => .ok c.arguments
    | [] => .ok []
  match arguments with
  | .error l => c.misuse ("invalid trailing option -- " ++ String.singleton l)
  | .ok arguments =>
    let digits := (List.range 10).map fun n => (⟨Char.ofNat (48 + n), "", .nothing⟩ : Flag)
    { c with arguments : Call }.withOptions (partFlags ++ digits) fun r =>
      match r.given.find? (·.1.isDigit), extentOf c '-' '+' r with
      | some (d, _), _ => c.misuse ("invalid trailing option -- " ++ String.singleton d)
      | _, .error text => c.complain text
      | _, .ok e =>
        let mark : UInt8 := if r.has 'z' then 0 else lineEnd
        parts c r (fun s i =>
          let (bs, isDone) := e.first mark i
          let shown := Effect.write bs
          if s.name != Sources.inputName then shown
          else if e.count = 0 && !e.isReversed then shown
          else if isDone then
            { shown with left := some (leftAfter i bs.length e.ofBytes), awaits := some bs.length }
          else { shown with left := some { i with bytes := [] }, isEndless := i.isEndless })
          0 (Sources.of c r.operands)

/-! ## The end -/

/-- The arguments with an option of digits at their beginning written out. It stands alone or before
one operand. -/
def withCount (arguments : List String) : List String :=
  let isAlone := fun (rest : List String) => match rest with
    | [] => true
    | [b] => !(b.startsWith "-" && b != "-") || b == "--"
    | ["--", _] => true
    | _ => false
  match arguments with
  | a :: rest =>
    match a.toList with
    | sign :: cs =>
      let ds := cs.takeWhile Char.isDigit
      let letters := cs.drop ds.length
      let follows := letters.getLast? == some 'f'
      let letters := if follows then letters.dropLast else letters
      let number := (if sign == '+' then "+" else "") ++ String.ofList ds
      let written := fun (option number : String) =>
        option :: number :: (if follows then ["-f"] else []) ++ rest
      if !isAlone rest || !(sign == '-' || sign == '+') || ds.isEmpty then arguments
      else match letters with
        | [] | ['l'] => written "-n" number
        | ['c'] => written "-c" number
        | ['b'] => written "-c" (number ++ "b")
        | _ => arguments
    | [] => arguments
  | [] => []

/-- Shows the last part of contents. -/
def tail (c : Call) : Effect :=
  let flags := partFlags ++ [⟨'f', "follow", .optional⟩, ⟨'F', "", .nothing⟩,
    ⟨'s', "sleep-interval", .value⟩, ⟨'\x01', "pid", .value⟩, ⟨'\x02', "retry", .nothing⟩]
  let digits := (List.range 10).map fun n => (⟨Char.ofNat (48 + n), "", .nothing⟩ : Flag)
  let short := (c.arguments.filter fun a => !a.startsWith "--").flatMap String.toList
  let c := { c with arguments := withCount c.arguments }
  c.withOptions (flags ++ digits) fun r =>
    match r.given.find? (·.1.isDigit), extentOf c '+' '-' r with
    | some (d, _), _ => c.complain ("option used in invalid context -- " ++ String.singleton d)
    | _, .error text => c.complain text
    | none, .ok e =>
      let mark : UInt8 := if r.has 'z' then 0 else lineEnd
      let follows := r.has 'f' || r.has 'F'
      let warnings := Effect.all ([
        ('\x02', "--retry ignored; --retry is useful only when following"),
        ('\x01', "PID ignored; --pid=PID is useful only when following")].filterMap fun e =>
          if r.has e.1 && !follows then some (c.complain ("warning: " ++ e.2) 0) else none)
      let sources := Sources.of c r.operands
      let shown := Sources.reading c r.operands
        (parts c r (fun _ i => Effect.write (e.final mark i)) 0 sources)
      let shown := warnings.andThen shown
      let isOver := sources.all fun s => s.name == Sources.inputName || s.content.toOption.isNone
      let isMissing := sources.any fun s => s.content.toOption.isNone
      if follows && isOver && isMissing && !short.contains 'F'
      then shown.andThen (c.complain "no files remaining")
      else { shown with isEndless := shown.isEndless || follows && !isOver }

end Errand.Host.Program
