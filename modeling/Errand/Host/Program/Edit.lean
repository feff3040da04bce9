import Errand.Host.Program.Content
import Errand.Host.Program.Edit.Script

/-! # The line editor

The editor reads one line after the other into a space, carries out the instructions of a script for
it, and shows what the space holds then. A second space keeps what instructions put there.

`Program.sed` edits the lines of contents by a script. -/

namespace Errand.Host.Program

namespace Edit

open Text (Regular)

/-- A line of input: its codes, whether it has an end, its source, and whether it is the last
one. -/
structure Line where
  codes : List Nat
  hasEnd : Bool := true
  source : String := "-"
  isLast : Bool := false

/-- How the editor was asked to work. -/
structure Setting where
  quiet : Bool := false
  mark : UInt8 := lineEnd
  unicode : Bool := true
  script : Array Instruction
  /-- What files can be read for. -/
  contentOf : String → Option Bytes

/-- Where the editor stands. -/
structure State where
  space : List Nat := []
  hasEnd : Bool := true
  source : String := "-"
  isLast : Bool := false
  kept : List Nat := []
  number : Nat := 0
  rest : List Line
  /-- What was shown, the last part first, and whether it lacks the end of its last line. -/
  out : List Bytes := []
  lacksEnd : Bool := false
  queue : List Bytes := []
  replaced : Bool := false
  /-- The instructions whose rows of lines are open, and the number of the last line if it is
  known. -/
  open' : List (Nat × Option Nat) := []
  /-- The instructions whose rows of lines are over for good. -/
  closed : List Nat := []
  last : Option Regular := none
  /-- What was written to files, the last part first. -/
  written : List (String × Bytes) := []
  /-- The lines of files that are still to be read. -/
  pending : List (String × List Bytes) := []

/-- How the instructions for a line end. -/
inductive Outcome where
  | ended
  /-- Nothing is shown, and the next line is read. -/
  | dropped
  /-- Nothing is shown, and the instructions are carried out again for what is left. -/
  | again
  | quits (status : Nat) (shows : Bool)
  | wrong (text : String)

/-- The bytes of codes. -/
def bytesOf (ns : List Nat) : Bytes := Text.Codes.toBytes ns

/-- Shows bytes, after the end of a line that was lacking. -/
def State.show (s : State) (g : Setting) (bs : Bytes) (hasEnd : Bool := true) : State :=
  let head := if s.lacksEnd then [g.mark] else []
  { s with out := (head ++ bs ++ if hasEnd then [g.mark] else []) :: s.out, lacksEnd := !hasEnd }

/-- Shows the space. -/
def State.showSpace (s : State) (g : Setting) : State := s.show g (bytesOf s.space) s.hasEnd

/-- Shows a text as it is. -/
def State.showText (s : State) (g : Setting) (bs : Bytes) : State :=
  let head := if s.lacksEnd then [g.mark] else []
  { s with out := (head ++ bs) :: s.out, lacksEnd := false }

/-- Shows what was put off until the end of a line. -/
def State.flush (s : State) (g : Setting) : State :=
  { s.queue.reverse.foldl (fun s bs => State.showText s g bs) s with queue := [] }

/-- Takes the next line into the space, or behind what is there. -/
def State.advance (s : State) (g : Setting) (joins : Bool) : State :=
  let s := s.flush g
  match s.rest with
  | l :: rest =>
    { s with space := if joins then s.space ++ g.mark.toNat :: l.codes else l.codes
             hasEnd := l.hasEnd, source := l.source, isLast := l.isLast
             number := s.number + 1, rest, replaced := s.replaced && joins }
  | [] => s

/-- The expression that is meant, and the state that remembers it. -/
def State.expression (s : State) (r : Option Regular) : Option (Regular × State) :=
  match r.or s.last with
  | some e => some (e, { s with last := some e })
  | none => none

/-- What is told if there is no expression that was used last. -/
def noExpression : String := "no previous regular expression"

/-- Whether an address means the line, and the state that remembers its expression. -/
def State.isAt (s : State) (a : Address) : Except String (Bool × State) :=
  match a with
  | .line n => .ok (s.number == n, s)
  | .final => .ok (s.isLast, s)
  | .step first by' =>
    .ok (if by' = 0 then s.number == first
      else first ≤ s.number && (s.number - first) % by' = 0, s)
  | .matching r =>
    match s.expression r with
    | some (e, s) => .ok (e.isIn s.space, s)
    | none => .error noExpression

/-- Opens a row of lines, or closes it at once. -/
def State.openRow (s : State) (index : Nat) (f : Finish) : State :=
  let upTo := fun (n : Nat) =>
    if n ≤ s.number then s else { s with open' := (index, some n) :: s.open' }
  match f with
  | .at' (.line n) => upTo n
  | .at' _ => { s with open' := (index, none) :: s.open' }
  | .after n => upTo (s.number + n)
  | .multipleOf n => if n = 0 then s else upTo ((s.number / n + 1) * n)

/-- Closes a row of lines. -/
def State.closeRow (s : State) (index : Nat) : State :=
  { s with open' := s.open'.filter fun o => o.1 != index }

/-- Whether an instruction is for the line, and the state after looking at that. -/
def State.selects (s : State) (index : Nat) (sel : Selection) : Except String (Bool × State) := do
  let (r, s) ← match sel.start, sel.finish with
    | none, _ => pure (true, s)
    | some a, none => s.isAt a
    | some a, some f =>
      let isZero := a == .line 0 && !s.closed.contains index
      match if isZero then some none else s.open'.lookup index with
      | some (some n) =>
        pure (s.number ≤ n, if n ≤ s.number then s.closeRow index else s)
      | some none =>
        match f with
        | .at' b => do
          let (ends, s) ← s.isAt b
          let s := if ends then { s.closeRow index with closed := index :: s.closed } else s
          pure (true, s)
        | _ => pure (true, s)
      | none =>
        let (starts, s) ← s.isAt a
        pure (starts, if starts then s.openRow index f else s)
  return (r != sel.negated, s)

/-! ## Replacing -/

/-- How the next letters are changed: all of them, and the first one of them. -/
structure Cased where
  all : Casing := .plain
  first : Option Casing := none
  done : List Nat := []

/-- More codes, changed. -/
def Cased.push (c : Cased) (ns : List Nat) : Cased :=
  let change := fun (k : Casing) (n : Nat) => match k with
    | .upper | .nextUpper => Text.Codes.toUpper n
    | .lower | .nextLower => Text.Codes.toLower n
    | .plain => n
  match ns, c.first with
  | [], _ => c
  | n :: rest, some k =>
    { c with first := none, done := c.done ++ change k n :: rest.map (change c.all) }
  | ns, none => { c with done := c.done ++ ns.map (change c.all) }

/-- What stands in the place of a match. -/
def replacementOf (parts : List Part) (p q : Regular.Point) (c : Cased) : Cased :=
  parts.foldl (fun (c : Cased) part => match part with
    | .text ns => c.push ns
    | .group 0 => c.push (p.textTo q)
    | .group n => c.push ((q.groups.lookup n).getD [])
    | .casing .nextUpper => { c with first := some .nextUpper }
    | .casing .nextLower => { c with first := some .nextLower }
    | .casing k => { c with all := k, first := none }) c

/-- A text with matches replaced from one of them on; how many there were, and the rest. The number
bounds the matches. -/
def replacedFrom (r : Replacement) (e : Regular) :
    Nat → Nat → Option Nat → Regular.Point → List Nat × Nat
  | 0, count, _, p => (p.rest, count)
  | fuel + 1, count, lastEnd, p =>
    match e.search? { p with groups := [] } with
    | none => (p.rest, count)
    | some (a, b) =>
      let before := p.textTo a
      let isEmpty := a.index = b.index
      if isEmpty && lastEnd == some a.index then
        match a.rest with
        | [] => (before, count)
        | n :: _ =>
          let (rest, count) := replacedFrom r e fuel count none (a.advance 1)
          (before ++ n :: rest, count)
      else
        let count := count + 1
        let isWanted := count = r.number || r.all && r.number ≤ count
        let new := if isWanted then (replacementOf r.parts a b {}).done else a.textTo b
        if isWanted && !r.all then (before ++ new ++ b.rest, count)
        else if isEmpty then
          match a.rest with
          | [] => (before ++ new, count)
          | n :: _ =>
            let (rest, count) := replacedFrom r e fuel count none (a.advance 1)
            (before ++ new ++ n :: rest, count)
        else
          let (rest, count) := replacedFrom r e fuel count (some b.index) b
          (before ++ new ++ rest, count)

/-! ## Showing what cannot be seen -/

/-- A byte as it is shown where everything can be seen. -/
def visible (b : UInt8) : List Char :=
  let c := Char.ofNat b.toNat
  match ([('\\', '\\'), ('\x07', 'a'), ('\x08', 'b'), ('\x0c', 'f'), ('\n', 'n'), ('\r', 'r'),
    ('\t', 't'), ('\x0b', 'v')] : List (Char × Char)).lookup c with
  | some l => ['\\', l]
  | none =>
    if 32 ≤ b && b < 127 then [c]
    else
      let ds := Nat.toDigits 8 b.toNat
      '\\' :: List.replicate (3 - ds.length) '0' ++ ds

/-- Parts on lines of a width, each of which but the last ends with a backslash. -/
def broken (width : Nat) (parts : List (List Char)) : List Char :=
  let (done, line) := parts.foldl (fun ((done, line) : List Char × List Char) part =>
    if 1 < width && width ≤ line.length + part.length then
      (done ++ line ++ ['\\', '\n'], part)
    else (done, line ++ part)) ([], [])
  done ++ line ++ ['$', '\n']

/-! ## Instructions -/

/-- Writes bytes to a file by its name. -/
def State.writeTo (s : State) (g : Setting) (file : String) (bs : Bytes) : State :=
  if file == "/dev/stdout" then s.showText g bs
  else { s with written := (file, bs) :: s.written }

/-- The codes up to the end of the first line. -/
def firstLine (ns : List Nat) : List Nat := ns.takeWhile (· != 10)

/-- What an instruction leads to: going on, going on elsewhere, or an end. -/
inductive Step where
  | on (s : State)
  | jump (label : String) (s : State)
  | past (index : Nat) (s : State)
  | ends (o : Outcome) (s : State)

/-- Replaces in the space. -/
def State.replace (s : State) (g : Setting) (r : Replacement) : Step :=
  match s.expression r.expression with
  | none => .ends (.wrong noExpression) s
  | some (e, s) =>
    let (space, count) := replacedFrom r e (2 * s.space.length + 2) 0 none { rest := s.space }
    if count < r.number then .on s
    else
      let s := { s with space, replaced := true }
      let s := if r.prints then s.showSpace g else s
      .on (match r.file with
        | some f => s.writeTo g f (bytesOf s.space ++ [g.mark])
        | none => s)

/-- Goes to a label; an empty one is the end of the script. -/
def goTo (label : String) (s : State) : Step :=
  if label.isEmpty then .ends .ended s else .jump label s

/-- Carries out what an instruction does. -/
def State.act (s : State) (g : Setting) (index : Nat) (i : Instruction) : Step :=
  match i.action with
  | .opens _ | .nothing | .label _ => .on s
  | .append t => .on { s with queue := bytesOf t :: s.queue }
  | .insert t => .on (s.showText g (bytesOf t))
  | .change t =>
    let isInside := i.selection.finish.isSome && !i.selection.negated &&
      (s.open'.lookup index).isSome
    .ends .dropped (if isInside then s else s.showText g (bytesOf t))
  | .delete => .ends .dropped s
  | .deleteFirst =>
    if s.space.contains 10 then
      .ends .again { s with space := s.space.drop ((firstLine s.space).length + 1) }
    else .ends .dropped s
  | .print => .on (s.showSpace g)
  | .printFirst => .on (s.show g (bytesOf (firstLine s.space)))
  | .show width => .on (s.showText g (Text.Octets.toBytes
      (broken (width.getD 70) ((bytesOf s.space).map visible))))
  | .next =>
    if s.rest.isEmpty then .ends (.quits 0 true) s
    else .on ((if g.quiet then s else s.showSpace g).advance g false)
  | .join =>
    if s.rest.isEmpty then .ends (.quits 0 true) s else .on (s.advance g true)
  | .number => .on (s.showText g (Text.Octets.bytesOf (toString s.number ++ "\n")))
  | .name => .on (s.showText g (Text.Octets.bytesOf (s.source ++ "\n")))
  | .clear => .on { s with space := [] }
  | .keep => .on { s with kept := s.space }
  | .keepMore => .on { s with kept := s.kept ++ 10 :: s.space }
  | .recall => .on { s with space := s.kept }
  | .recallMore => .on { s with space := s.space ++ 10 :: s.kept }
  | .swap => .on { s with space := s.kept, kept := s.space }
  | .quit n => .ends (.quits n true) s
  | .quitSilently n => .ends (.quits n false) s
  | .branch l => goTo l s
  | .branchIf l => if s.replaced then goTo l { s with replaced := false } else .on s
  | .branchUnless l => if s.replaced then .on { s with replaced := false } else goTo l s
  | .read f =>
    match g.contentOf f with
    | some bs => .on { s with queue := bs :: s.queue }
    | none => .on s
  | .readLine f =>
    let ls := (s.pending.lookup f).getD (((g.contentOf f).map (lines ·)).getD [])
    let pending := (f, ls.drop 1) :: s.pending.filter fun e => e.1 != f
    .on { s with pending, queue := match ls with
      | l :: _ => (chomp l ++ [lineEnd]) :: s.queue
      | [] => s.queue }
  | .write f => .on (s.writeTo g f (bytesOf s.space ++ [g.mark]))
  | .writeFirst f => .on (s.writeTo g f (bytesOf (firstLine s.space) ++ [10]))
  | .exchange pairs => .on { s with space := s.space.map fun n => (pairs.lookup n).getD n }
  | .replace r => s.replace g r

/-- Carries out the instructions from one on; the number bounds how many. -/
def State.perform (g : Setting) : Nat → Nat → State → Outcome × State
  | 0, _, s => (.ended, s)
  | fuel + 1, index, s =>
    match g.script[index]? with
    | none => (.ended, s)
    | some i =>
      match s.selects index i.selection with
      | .error text => (.wrong text, s)
      | .ok (false, s) =>
        perform g fuel (match i.action with
          | .opens past => past
          | _ => index + 1) s
      | .ok (true, s) =>
        match s.act g index i with
        | .on s => perform g fuel (index + 1) s
        | .past n s => perform g fuel n s
        | .jump l s => perform g fuel
            ((g.script.findIdx? fun i => i.action == .label l).getD g.script.size) s
        | .ends o s => (o, s)

/-- How many instructions may be carried out for one line. -/
def limit : Nat := 100000

/-- Edits the lines that are left: the status or what is wrong, and the state in the end. The number
bounds the rounds. -/
def State.run (g : Setting) : Nat → Bool → State → Except String Nat × State
  | 0, _, s => (.ok 0, s)
  | fuel + 1, reads, s =>
    if reads && s.rest.isEmpty then (.ok 0, s)
    else
      let s := if reads then s.advance g false else s
      let finish := fun (s : State) => (if g.quiet then s else s.showSpace g).flush g
      match s.perform g limit 0 with
      | (.ended, s) => run g fuel true (finish s)
      | (.dropped, s) => run g fuel true (s.flush g)
      | (.again, s) => run g fuel false (s.flush g)
      | (.quits n true, s) => (.ok n, finish s)
      | (.quits n false, s) => (.ok n, s)
      | (.wrong text, s) => (.error text, s)

/-- The lines of a content. -/
def linesOf (g : Setting) (source : String) (bs : Bytes) : List Line :=
  (lines bs g.mark).map fun l =>
    { codes := Text.Codes.ofBytes g.unicode (chomp l g.mark), hasEnd := l.getLast? == some g.mark,
      source }

/-- Marks the last one of some lines. -/
def withLast (ls : List Line) : List Line :=
  match ls.reverse with
  | l :: rest => ({ l with isLast := true } :: rest).reverse
  | [] => []

/-- How the arguments are used. -/
def usage (name : String) : String :=
  "Usage: " ++ name ++ " [OPTION]... \x7bscript-only-if-no-other-script\x7d [input-file]...\n\n" ++
  "  -n, --quiet, --silent\n                 suppress automatic printing of pattern space\n" ++
  "      --debug\n                 annotate program execution\n" ++
  "  -e script, --expression=script\n" ++
  "                 add the script to the commands to be executed\n" ++
  "  -f script-file, --file=script-file\n" ++
  "                 add the contents of script-file to the commands to be executed\n" ++
  "  --follow-symlinks\n                 follow symlinks when processing in place\n" ++
  "  -i[SUFFIX], --in-place[=SUFFIX]\n" ++
  "                 edit files in place (makes backup if SUFFIX supplied)\n" ++
  "  -l N, --line-length=N\n" ++
  "                 specify the desired line-wrap length for the \x60l' command\n" ++
  "  --posix\n                 disable all GNU extensions.\n" ++
  "  -E, -r, --regexp-extended\n" ++
  "                 use extended regular expressions in the script\n" ++
  "                 (for portability use POSIX -E).\n" ++
  "  -s, --separate\n                 consider files as separate rather than as a single,\n" ++
  "                 continuous long stream.\n" ++
  "      --sandbox\n                 operate in sandbox mode (disable e/r/w commands).\n" ++
  "  -u, --unbuffered\n" ++
  "                 load minimal amounts of data from the input files and flush\n" ++
  "                 the output buffers more often\n" ++
  "  -z, --null-data\n                 separate lines by NUL characters\n" ++
  "      --help     display this help and exit\n" ++
  "      --version  output version information and exit\n\n" ++
  "If no -e, --expression, -f, or --file option is given, then the first\n" ++
  "non-option argument is taken as the sed script to interpret.  All\n" ++
  "remaining arguments are names of input files; if no input files are\n" ++
  "specified, then the standard input is read.\n\n"

/-- The options. -/
def flags : List Flag :=
  [⟨'n', "quiet", .nothing⟩, ⟨'n', "silent", .nothing⟩, ⟨'e', "expression", .value⟩,
    ⟨'f', "file", .value⟩, ⟨'i', "in-place", .optional⟩, ⟨'l', "line-length", .value⟩,
    ⟨'E', "regexp-extended", .nothing⟩, ⟨'r', "", .nothing⟩, ⟨'s', "separate", .nothing⟩,
    ⟨'u', "unbuffered", .nothing⟩, ⟨'z', "null-data", .nothing⟩, ⟨'\x01', "posix", .nothing⟩]

/-- A complaint about a script by the number of the expression and the place in it. -/
def flawText (fragments : List String) (f : Script.Flaw) : String :=
  match f.place with
  | none => f.text
  | some place =>
    let (n, place) := fragments.foldl (fun ((n, left) : Nat × Nat) s =>
      if n < fragments.length && s.length < left && 0 < left then (n + 1, left - s.length - 1)
      else (n, left)) (1, place)
    "-e expression #" ++ toString n ++ ", char " ++ toString place ++ ": " ++ f.text

/-- The files with what was written to them. -/
def writeFiles (c : Call) (names : List String) (written : List (String × Bytes)) :
    Effect :=
  names.eraseDups.foldl (fun (e : Effect) name =>
    if name == "/dev/stdout" || name == "/dev/stderr" then e
    else
      let content := (written.reverse.filter fun w => w.1 == name).flatMap (·.2)
      match { c with files := e.files.getD c.files : Call }.withContent name content with
      | .ok files => { e with files := some files }
      | .error r => e.andThen
          (c.complain ("couldn't open file " ++ name ++ ": " ++ r.reason) 4)) {}

/-- The name under which a file is kept that is edited: the star in a pattern stands for its name,
and a pattern without one comes after it. -/
def keptName (pattern name : String) : String :=
  let base := String.ofList (lastName name)
  if !pattern.contains '*' then name ++ pattern
  else
    let new := base.intercalate (pattern.splitOn "*")
    if new.contains '/' then new
    else String.ofList (name.toList.take (name.length - base.length)) ++ new

/-- The call in which a file is kept under another name before it is edited. -/
def backedUp (c : Call) (r : Options.Read) (name : String) : Call :=
  match r.value? 'i', c.open? name with
  | some pattern, .ok i =>
    match c.withContent (keptName pattern name) i.bytes with
    | .ok files => { c with files }
    | .error _ => c
  | _, _ => c

end Edit

open Edit

/-- Edits lines by a script. -/
def sed (c : Call) : Effect :=
  match Options.read flags false c.arguments with
  | .error e => { writes := [(errorNumber, Text.Octets.bytesOf
      (c.name ++ ": " ++ e ++ "\n" ++ usage c.name))], status := 1 }
  | .ok r =>
    let fragments : Except (String × Refusal) (List String) :=
      (r.given.filter fun g => g.1 == 'e' || g.1 == 'f').mapM fun g =>
        let v := g.2.getD ""
        if g.1 == 'e' then .ok v
        else match Sources.of c [v] with
          | [⟨_, .ok i⟩] => .ok (.ofList (Text.Octets.ofBytes (chomp i.bytes)))
          | [⟨_, .error e⟩] => .error (v, e)
          | _ => .ok ""
    match fragments with
    | .error (name, e) => c.complain ("couldn't open file " ++ name ++ ": " ++ e.reason) 4
    | .ok fragments =>
      let (scripts, names) := if fragments.isEmpty
        then ((r.operands.take 1), r.operands.drop 1) else (fragments, r.operands)
      if r.has 'i' && !scripts.isEmpty && names.isEmpty then c.complain "no input files" 4
      else if scripts.isEmpty then
        { writes := [(errorNumber, Text.Octets.bytesOf (usage c.name))], status := 1 }
      else
        let texts := scripts.map Text.Octets.toText
        match Script.read (r.has 'E' || r.has 'r') ("\n".intercalate texts) with
        | .error f =>
          c.complain (flawText texts f) (if f.place.isNone then 4 else 1)
        | .ok (isQuiet, script) =>
          let g : Setting := {
            quiet := isQuiet || r.has 'n'
            mark := if r.has 'z' then 0 else lineEnd
            unicode := c.isUnicode
            script := script.toArray
            contentOf := fun name => ((c.open? name).toOption).map (·.bytes) }
          let sources := Sources.of c names
          let complaints := Effect.all (sources.filterMap fun s => match s.content with
            | .ok _ => none
            | .error .isDirectory => some (c.complain
                ((if r.has 'i' then "couldn't edit " ++ s.name ++ ": not a regular file"
                  else "read error on " ++ s.name ++ ": " ++ Refusal.isDirectory.reason)) 4)
            | .error e => some
                (c.complain ("can't read " ++ s.name ++ ": " ++ e.reason) 2))
          let contents := sources.filterMap fun s => s.content.toOption.map fun i =>
            (s.name, linesOf g s.name i.bytes)
          let separate := r.has 'i' || r.has 's'
          let inputs := if separate then contents.map fun e => (e.1, withLast e.2)
            else [("-", withLast (contents.flatMap (·.2)))]
          let (ended, _, outs, state) : Option (Except String Nat) × Nat ×
              List (String × Bytes) × State := inputs.foldl
            (fun (ended, number, outs, s) (name, ls) =>
              if ended.isSome then (ended, number, outs, s)
              else
                let s := { s with
                  rest := ls, out := [], number := if separate then 0 else number }
                let fuel := 2 * ls.foldl (fun n l => n + l.codes.length + 2) 2
                let (result, s) := s.run g fuel true
                let isOver := match result with
                  | .ok _ => !s.rest.isEmpty
                  | .error _ => true
                let rest := s.rest.flatMap fun l =>
                  bytesOf l.codes ++ if l.hasEnd then [g.mark] else []
                let out := s.out.reverse.flatten ++ if r.has 'i' then rest else []
                (if isOver then some result else if result.toOption == some 0 then none
                  else some result, s.number, outs ++ [(name, out)], s))
            (none, 0, [], { rest := [] })
          let status := match ended with
            | some (.ok n) => n
            | _ => 0
          let files := script.filterMap fun i => match i.action with
            | .write f | .writeFirst f => some f
            | .replace x => x.file
            | _ => none
          let stored := writeFiles c files state.written
          let shown := if r.has 'i' then
              outs.foldl (fun (e : Effect) (name, bs) =>
                let c := { c with files := e.files.getD c.files : Call }
                match (backedUp c r name).withContent name bs with
                | .ok files => { e with files := some files }
                | .error _ => e) stored
            else stored.andThen (Effect.write (outs.flatMap (·.2)))
          let e := Sources.reading c names (complaints.andThen shown)
          match ended with
          | some (.error text) =>
            e.andThen (c.complain ("-e expression #1, char 0: " ++ text) 1)
          | _ => if status = 0 then e else { e with status }

end Errand.Host.Program
