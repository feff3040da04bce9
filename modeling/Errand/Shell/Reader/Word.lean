import Errand.Shell.Reader.State

/-! # Reading words

A word goes on until a character that ends it, but not inside quotes or braces. Inside it the reader
is in a mode: outside of quotes, in single or double quotes, or in an arithmetic expression; and the
modes nest, because a parameter in double quotes may hold a piece that is read as if it stood alone.

`Reader.readWord` reads a word, a redirection, or the text of a document. It reads a command inside
a word by its first argument. -/

namespace Errand.Shell.Reader

/-- How characters are read. -/
inductive Mode where
  | bare
  | single
  | double
  | arithmetic
  deriving DecidableEq, Repr

/-- A level at which a word is read. -/
structure Level where
  mode : Mode
  /-- Whether double quotes are open around here. -/
  isDouble : Bool := false
  /-- Whether double quotes are open inside braces. -/
  isInner : Bool := false
  /-- How many braces are open, and how many of them in double quotes. -/
  braces : Nat := 0
  doubleBraces : Nat := 0
  /-- Whether the level ends with its last brace. -/
  endsWithBrace : Bool := false
  /-- How many brackets are open in an expression. -/
  brackets : Nat := 0

/-- What a word consists of in the order of reading: whole parts, and where parts begin and end. -/
inductive Mark where
  | part (p : Part)
  | opensParameter (name : List Char) (use : Use) (emptyToo : Bool)
  | opensArithmetic
  | closes

/-- A word so far: the levels, and the marks with the last one first. -/
structure Draft where
  level : Level
  outer : List Level := []
  marks : List Mark := []
  isQuoted : Bool := false

/-- The text of a document, which ends before its mark if it has one. -/
structure Body where
  mark : Option (List Char)
  strips : Bool

namespace Draft

/-- Adds a mark. -/
def push (d : Draft) (m : Mark) : Draft := { d with marks := m :: d.marks }

/-- Adds a part. -/
def add (d : Draft) (p : Part) : Draft := d.push (.part p)

/-- Adds a character as the mode takes it. -/
def addChar (d : Draft) (c : Char) : Draft :=
  d.add (if d.level.mode == .double || d.level.mode == .single then .quoted c else .plain c)

/-- Adds an inner level. -/
def descend (d : Draft) (level : Level) : Draft :=
  { d with level, outer := d.level :: d.outer }

/-- Leaves the innermost level. -/
def ascend (d : Draft) : Draft :=
  match d.outer with
  | level :: outer => { d with level, outer }
  | [] => d

/-- Changes the innermost level. -/
def onLevel (d : Draft) (f : Level → Level) : Draft := { d with level := f d.level }

end Draft

/-- Builds the parts of marks up to one that closes; the rest follows it. -/
def build : Nat → List Mark → List Part × List Mark
  | 0, _ => ([], [])
  | _ + 1, [] => ([], [])
  | _ + 1, .closes :: rest => ([], rest)
  | fuel + 1, .part p :: rest =>
    let (ps, rest) := build fuel rest
    (p :: ps, rest)
  | fuel + 1, .opensParameter name use emptyToo :: rest =>
    let (inner, rest) := build fuel rest
    let (ps, rest) := build fuel rest
    (.parameter name use emptyToo inner :: ps, rest)
  | fuel + 1, .opensArithmetic :: rest =>
    let (inner, rest) := build fuel rest
    let (ps, rest) := build fuel rest
    (.arithmetic inner :: ps, rest)

/-- The word of a draft. -/
def Draft.word (d : Draft) : Word := (build (d.marks.length + 1) d.marks.reverse).1

/-- The next character, as the mode takes it. -/
def takeFor (d : Draft) : Reader (Option Char) :=
  if d.level.mode == .single then take else takeNext

/-! ## The ends of documents -/

/-- Drops tabs. -/
def dropTabs : Nat → Option Char → Reader (Option Char)
  | 0, c => return c
  | fuel + 1, c => if c == some '\t' then do dropTabs fuel (← take) else return c

/-- Whether the mark of a document comes next, and the characters that were taken for that, the
last one first. -/
def meetsMark (d : Draft) : List Char → List Char → Option Char → Reader (Bool × List Char)
  | [], done, c => return (c == none || c == some '\n', c.toList ++ done)
  | m :: rest, done, c =>
    if c == some m then do meetsMark d rest (m :: done) (← takeFor d)
    else return (false, c.toList ++ done)

/-- At the beginning of a line of a document: the character that the line goes on with, or none if
the document ends here. -/
def beginLine (d : Draft) (body : Option Body) (c : Option Char) : Reader (Option Char) := do
  match body with
  | some ⟨some mark, strips⟩ =>
    let c ← if strips then dropTabs ((← left) + 1) c else pure c
    let (ends, taken) ← meetsMark d mark [] c
    if ends then
      countLine
      return none
    match taken.reverse with
    | first :: rest =>
      putBack rest
      return some first
    | [] => return none
  | _ => return c

/-! ## Parameters -/

/-- The characters that go on with a name or a number. -/
def takeWhileNext (p : Char → Bool) : Nat → List Char → Option Char →
    Reader (List Char × Option Char)
  | 0, done, c => return (done.reverse, c)
  | fuel + 1, done, c =>
    match c with
    | some d => if p d then do takeWhileNext p fuel (d :: done) (← takeNext)
      else return (done.reverse, c)
    | none => return (done.reverse, c)

/-- The use that a character after a name stands for. -/
def useOf? (c : Option Char) : Option Use :=
  match c with
  | some '\x7d' => some .value
  | some '-' => some .default
  | some '+' => some .replaced
  | some '?' => some .required
  | some '=' => some .assigned
  | _ => none

/-- The use of a parameter after its name, and whether an empty one counts as none. -/
def readUse (c : Option Char) : Reader (Use × Bool) := do
  if c == some '%' || c == some '#' then
    let d ← takeNext
    let greedy := d == c
    if !greedy then putOne d
    return (if c == some '#' then .withoutStart greedy else .withoutEnd greedy, false)
  let emptyToo := c == some ':'
  let c ← if emptyToo then takeNext else pure c
  return ((useOf? c).getD .bad, emptyToo)

/-- The name of a parameter in braces after its first character, and its use. -/
def readBraced (c : Option Char) : Reader (List Char × Use × Bool) := do
  let size := (← left) + 1
  match c with
  | some d =>
    if beginsName d then
      let (name, c) ← takeWhileNext inName size [] c
      let (use, emptyToo) ← readUse c
      return (name, use, emptyToo)
    else if d.isDigit then
      let (name, c) ← takeWhileNext Char.isDigit size [] c
      let (use, emptyToo) ← readUse c
      return (name, use, emptyToo)
    else if d == '\x7d' then
      putOne c
      return ([], .bad, false)
    else
      let e ← takeNext
      if d == '#' && (e.map fun e => e == '_' || e.isAlphanum).getD false then
        let isNumber := (e.map Char.isDigit).getD false
        let (name, c) ← takeWhileNext (if isNumber then Char.isDigit else inName) size [] e
        putOne c
        return (name, if c == some '\x7d' then .length else .bad, false)
      if d == '#' && e != some '\x7d' then
        let f ← takeNext
        if f == some '\x7d' then
          putOne f
          match e with
          | some e => if isSpecialParameter e then return ([e], .length, false)
          | none => pure ()
          return ([], .bad, false)
        putOne f
        let (use, emptyToo) ← readUse e
        return (['#'], use, emptyToo)
      if isSpecialParameter d then
        let (use, emptyToo) ← readUse e
        return ([d], use, emptyToo)
      putOne e
      return ([], .bad, false)
  | none => return ([], .bad, false)

/-- The level for what stands in the braces of a parameter. -/
def braced (d : Draft) (use : Use) (emptyToo : Bool) : Draft :=
  let outer := d.level
  let mode := match use with
    | .withoutEnd _ | .withoutStart _ => .bare
    | _ => outer.mode
  let mode := if mode == .arithmetic then .double else mode
  let d := if mode != outer.mode || outer.isInner then
      d.descend { mode, isDouble := mode != .bare, endsWithBrace := true }
    else d
  let _ := emptyToo
  d.onLevel fun l => { l with
    braces := l.braces + 1
    doubleBraces := if l.isDouble then l.doubleBraces + 1 else l.doubleBraces }

/-- The text of a command in backquotes, the last character first. -/
def readBackquoted (isDouble : Bool) : Nat → List Char → Reader (List Char)
  | 0, _ => fail "EOF in backquote substitution"
  | fuel + 1, done => do
    match ← takeNext with
    | none => fail "EOF in backquote substitution"
    | some c =>
      if c == '\x60' then return done
      else if c == '\\' then
        let d ← take
        let isTaken := match d with
          | some d => "\\\x60$".toList.contains d || isDouble && d == '"'
          | none => false
        readBackquoted isDouble fuel (d.toList ++ if isTaken then done else '\\' :: done)
      else
        if c == '\n' then countLine
        readBackquoted isDouble fuel (c :: done)

/-- Reads a command in backquotes. -/
def backquoted (list : Reader Command) (isDouble : Bool) : Reader Command := do
  let text ← readBackquoted isDouble ((← left) + 1) []
  let s ← get
  set { s with
    items := itemsOf text.reverse, line := 1, awaited := [], again := false, busy := [],
    spent := [] }
  let c ← list
  modify fun t => { s with documents := t.documents, again := false }
  return c

/-- Reads a command in brackets. -/
def bracketed (list : Reader Command) : Reader Command := do
  let awaited := (← get).awaited
  modify fun s => { s with awaited := [] }
  let c ← list
  modify fun s => { s with awaited }
  return c

/-- How commands inside words are read: up to a closing bracket, or to the end of a text. -/
structure Inside where
  toBracket : Reader Command
  toEnd : Reader Command

/-- What a dollar begins. -/
def readDollar (inside : Inside) (d : Draft) : Reader Draft := do
  let c ← takeNext
  let begins := match c with
    | some c => c == '(' || c == '\x7b' || beginsName c || isSpecialParameter c
    | none => false
  if (← get).check.mark || !begins then
    putOne c
    return d.addChar '$'
  if c == some '(' then
    let e ← takeNext
    if e == some '(' then
      return (d.push .opensArithmetic).descend { mode := .arithmetic, isDouble := true }
    putOne e
    return d.add (.substitution (← bracketed inside.toBracket))
  if c == some '\x7b' then
    let (name, use, emptyToo) ← readBraced (← takeNext)
    if use == .value && !emptyToo then return d.add (.parameter name .value false [])
    return (braced d use emptyToo).push (.opensParameter name use emptyToo)
  match c with
  | some e =>
    if beginsName e then
      let (name, after) ← takeWhileNext inName ((← left) + 1) [] c
      putOne after
      return d.add (.parameter name .value false [])
    return d.add (.parameter [e] .value false [])
  | none => return d

/-! ## Words -/

/-- The characters that end a word outside of quotes. -/
def isEnding (c : Char) : Bool := "<>();&| \t".toList.contains c

/-- Adds the mark of a quote, which documents do not have. -/
def addQuote (body : Option Body) (d : Draft) : Draft :=
  if body.isNone then d.add .quote else d

/-- Opens or closes double quotes inside braces. -/
def toggled (d : Draft) : Draft :=
  if d.level.braces = 0 then d else d.onLevel fun l => { l with isInner := !l.isInner }

/-- A backslash and the character after it. -/
def readBackslash (body : Option Body) (d : Draft) : Reader Draft := do
  match ← take with
  | none => return d.add (.quoted '\\')
  | some c =>
    let inBraces := d.level.braces ≠ 0
    let isKept := d.level.isDouble && c != '\\' && c != '\x60' && c != '$' &&
      (c != '"' || body.isSome && !inBraces) && (c != '\x7d' || !inBraces)
    let d := if isKept then d.add (.quoted '\\') else d
    return { d.add (.quoted c) with isQuoted := true }

/-- A quote that closes. -/
def closeQuote (body : Option Body) (d : Draft) (c : Char) : Draft :=
  if body.isSome && d.level.braces = 0 then d.addChar c
  else
    let d := if d.level.doubleBraces = 0 then
        d.onLevel fun l => { l with mode := .bare, isDouble := false }
      else d
    let d := { d with isQuoted := true }
    addQuote body (if c == '"' then toggled d else d)

/-- A brace that may close a parameter. -/
def closeBrace (d : Draft) : Draft :=
  if !d.level.isInner && 0 < d.level.braces then
    let isLast := d.level.braces = 1
    let d := d.onLevel fun l => { l with braces := l.braces - 1 }
    let d := if isLast && d.level.endsWithBrace then d.ascend
      else d.onLevel fun l => { l with doubleBraces := l.doubleBraces - 1 }
    d.push .closes
  else d.addChar '\x7d'

/-- A bracket that may close an expression. -/
def closeBracket (d : Draft) : Reader Draft := do
  if 0 < d.level.brackets then
    return (d.addChar ')').onLevel fun l => { l with brackets := l.brackets - 1 }
  let c ← takeNext
  if c == some ')' then return d.ascend.push .closes
  putOne c
  return d.addChar ')'

/-- What a character does in the mode of a draft; none if it ends the word. -/
def step (inside : Inside) (body : Option Body) (d : Draft) (c : Char) :
    Reader (Option Draft) := do
  let mode := d.level.mode
  if mode == .single then
    return some (if c == '\'' then closeQuote body d c else d.add (.quoted c))
  if c == '\\' then return some (← readBackslash body d)
  if c == '$' then return some (← readDollar inside d)
  if c == '\x60' then
    if (← get).check.mark then return some (d.addChar c)
    return some (d.add (.substitution (← backquoted inside.toEnd d.level.isDouble)))
  if c == '\x7d' then return some (closeBrace d)
  if mode == .double then
    return some (if c == '"' then closeQuote body d c else d.addChar c)
  if mode == .arithmetic then
    if c == '(' then
      return some ((d.addChar c).onLevel fun l => { l with brackets := l.brackets + 1 })
    if c == ')' then return some (← closeBracket d)
    return some (d.addChar c)
  if c == '\'' then return some (addQuote body (d.onLevel fun l => { l with mode := .single }))
  if c == '"' then
    return some (addQuote body (toggled
      (d.onLevel fun l => { l with mode := .double, isDouble := true })))
  if isEnding c && d.level.braces = 0 then return none
  return some (d.addChar c)

/-- Reads on from a character; the last part of the result is the character that ended the word. -/
def readOn (inside : Inside) (body : Option Body) :
    Nat → Draft → Option Char → Reader (Draft × Option Char)
  | 0, d, c => return (d, c)
  | _ + 1, d, none => return (d, none)
  | fuel + 1, d, some c => do
    if c == '\n' then
      if d.level.mode == .bare && d.level.braces = 0 then return (d, some c)
      countLine
      let d := d.addChar c
      readOn inside body fuel d (← beginLine d body (← take))
    else
      match ← step inside body d c with
      | some d => readOn inside body fuel d (← takeFor d)
      | none => return (d, some c)

/-- The redirection that a character begins. -/
def readRedirection (c : Char) (number : Option Nat) : Reader Unit := do
  let d ← takeNext
  let announced ← if c == '>' then
      let n := number.getD 1
      match d with
      | some '>' => pure (Announced.file n .append)
      | some '|' => pure (.file n .overwrite)
      | some '&' => pure (.copy n)
      | _ =>
        putOne d
        pure (.file n .write)
    else
      let n := number.getD 0
      match d with
      | some '<' =>
        let e ← takeNext
        if e != some '-' then putOne e
        pure (.document n (e == some '-'))
      | some '&' => pure (.copy n)
      | some '>' => pure (.file n .readWrite)
      | _ =>
        putOne d
        pure (.file n .read)
  modify fun s => { s with announced }

/-- The number before a redirection, if the word so far is one digit or nothing. -/
def numberBefore? (d : Draft) : Option (Option Nat) :=
  if d.isQuoted then none
  else match d.word with
    | [] => some none
    | [.plain c] => if c.isDigit then some (some (c.toNat - 48)) else none
    | _ => none

/-- Reads a word or a redirection from its first character on, or a document to its end. -/
def readWord (inside : Inside) (mode : Mode) (body : Option Body) (c : Option Char) :
    Reader Token := do
  let draft : Draft := { level := { mode, isDouble := mode == .double } }
  let size := (← left) + 2
  let (d, c) ← readOn inside body size draft (← beginLine draft body c)
  if d.level.mode == .arithmetic then fail "Missing '))'"
  if d.level.mode != .bare && body.isNone then fail "Unterminated quoted string"
  if d.level.braces ≠ 0 then fail "Missing '\x7d'"
  if body.isNone then
    match c, numberBefore? d with
    | some r, some number =>
      if r == '<' || r == '>' then
        readRedirection r number
        return ← took .redirection
    | _, _ => pure ()
    putOne c
  modify fun s => { s with word := d.word, isQuoted := d.isQuoted }
  took .word

end Errand.Shell.Reader
