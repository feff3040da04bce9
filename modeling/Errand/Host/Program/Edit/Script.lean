import Errand.Text.Regular.Reader

/-! # Scripts of the line editor

A script is a row of instructions. Each of them may say for which lines it is: one line, the lines
that match an expression, or all lines from one to another one; or all others than those.

* `Instruction` is one instruction;
* `Script.read` reads a script, or tells what is wrong with it and where. -/

namespace Errand.Host.Program.Edit

open Text (Regular)

/-- A line that an instruction is for. -/
inductive Address where
  | line (n : Nat)
  | final
  /-- A line, and every so many lines after it. -/
  | step (first by' : Nat)
  /-- Lines that match an expression; none is the one that was used last. -/
  | matching (r : Option Regular)
  deriving DecidableEq, Repr

/-- The end of a row of lines. -/
inductive Finish where
  | at' (a : Address)
  | after (lines : Nat)
  | multipleOf (n : Nat)
  deriving DecidableEq, Repr

/-- The lines that an instruction is for. -/
structure Selection where
  start : Option Address := none
  finish : Option Finish := none
  negated : Bool := false
  deriving DecidableEq, Repr

/-- How the letters of a replacement are changed. -/
inductive Casing where
  | upper
  | lower
  | plain
  | nextUpper
  | nextLower
  deriving DecidableEq, Repr

/-- A part of a replacement. -/
inductive Part where
  | text (codes : List Nat)
  /-- What a group has matched; group zero is all of it. -/
  | group (n : Nat)
  | casing (c : Casing)
  deriving DecidableEq, Repr

/-- Replacing what matches an expression. -/
structure Replacement where
  expression : Option Regular
  parts : List Part
  /-- Which of the matches is the first one to be replaced. -/
  number : Nat := 1
  all : Bool := false
  prints : Bool := false
  file : Option String := none
  deriving DecidableEq, Repr

/-- What an instruction does. -/
inductive Action where
  /-- Opens a block; the number is that of its end. -/
  | opens (past : Nat)
  | nothing
  | append (text : List Nat)
  | insert (text : List Nat)
  | change (text : List Nat)
  | delete
  | deleteFirst
  | print
  | printFirst
  | show (width : Option Nat)
  | next
  | join
  | number
  | name
  | clear
  | keep
  | keepMore
  | recall
  | recallMore
  | swap
  | quit (status : Nat)
  | quitSilently (status : Nat)
  | branch (label : String)
  | branchIf (label : String)
  | branchUnless (label : String)
  | label (name : String)
  | read (file : String)
  | readLine (file : String)
  | write (file : String)
  | writeFirst (file : String)
  | exchange (pairs : List (Nat × Nat))
  | replace (r : Replacement)
  deriving DecidableEq, Repr

/-- An instruction. -/
structure Instruction where
  selection : Selection := {}
  action : Action
  deriving DecidableEq, Repr

namespace Script

/-- How a script is read: what is left of it, how much was taken, and the instructions so far, the
last one first, with the numbers of the blocks that are open. -/
structure Reading where
  rest : List Char
  taken : Nat := 0
  done : List Instruction := []
  blocks : List Nat := []
  deriving Repr

/-- What is wrong with a script: the number of characters up to there, if a place can be told. -/
structure Flaw where
  place : Option Nat
  text : String

/-- A step of reading. -/
abbrev Step := StateT Reading (Except Flaw)

/-- Refuses the script at the place that is reached. -/
def fail {α : Type} (text : String) : Step α := do throw ⟨some (← get).taken, text⟩

/-- Takes the next character. -/
def take : Step (Option Char) := do
  let s ← get
  match s.rest with
  | c :: rest =>
    set { s with rest, taken := s.taken + 1 }
    return some c
  | [] => return none

/-- Puts a character back, if it is one. -/
def putBack (c : Option Char) : Step Unit :=
  match c with
  | some c => modify fun s => { s with rest := c :: s.rest, taken := s.taken - 1 }
  | none => return ()

/-- Whether a character is a blank or an end of a line. -/
def isSpace (c : Char) : Bool := c == ' ' || (9 ≤ c.toNat && c.toNat ≤ 13)

/-- Takes characters of a kind. -/
def takeWhile (p : Char → Bool) : Step (List Char) := do
  let s ← get
  let cs := s.rest.takeWhile p
  set { s with rest := s.rest.drop cs.length, taken := s.taken + cs.length }
  return cs

/-- Takes the next character that is no blank. -/
def takeVisible : Step (Option Char) := do
  let _ ← takeWhile fun c => c == ' ' || c == '\t'
  take

/-- Takes a number. -/
def takeNumber : Step Nat := do
  return (← takeWhile Char.isDigit).foldl (fun n c => n * 10 + (c.toNat - 48)) 0

/-- The end of an instruction. -/
def endInstruction : Step Unit := do
  let c ← takeVisible
  if c == some '\x7d' || c == some '#' then putBack c
  else if !(c == none || c == some '\n' || c == some ';') then fail "extra characters after command"

/-! ## Texts -/

/-- The codes of a text. -/
def codesOf (cs : List Char) : List Nat := cs.map Char.toNat

/-- The escapes that are one letter. -/
def letters : List (Char × Char) :=
  [('a', '\x07'), ('f', '\x0c'), ('n', '\n'), ('r', '\r'), ('t', '\t'), ('v', '\x0b')]

/-- A character by its number after a backslash, and what follows. -/
def numbered? (cs : List Char) : Option (Nat × List Char) :=
  let value := fun (base : Nat) (ds : List Char) => ds.foldl (fun n c => n * base +
    (if c.isDigit then c.toNat - 48 else c.toLower.toNat - 87)) 0
  let isHex := fun (c : Char) => c.isDigit || ('a' ≤ c.toLower && c.toLower ≤ 'f')
  match cs with
  | 'x' :: rest =>
    let ds := (rest.take 2).takeWhile isHex
    if ds.isEmpty then none else some (value 16 ds, rest.drop ds.length)
  | 'd' :: rest =>
    let ds := (rest.take 3).takeWhile Char.isDigit
    if ds.length < 3 then none else some (value 10 ds % 256, rest.drop 3)
  | 'o' :: rest =>
    let ds := (rest.take 3).takeWhile fun c => '0' ≤ c && c ≤ '7'
    if ds.length < 3 then none else some (value 8 ds % 256, rest.drop 3)
  | _ => none

/-- The rest of a set inside an expression, up to its end; the last character first. -/
def restOfSet : Nat → List Char → Bool → List Char → Option (List Char × List Char)
  | 0, _, _, _ => none
  | fuel + 1, done, isFirst, cs =>
    match cs with
    | [] => none
    | ']' :: rest => if isFirst then restOfSet fuel (']' :: done) false rest
        else some (']' :: done, rest)
    | '[' :: k :: rest =>
      if k == ':' || k == '.' || k == '=' then
        match Regular.readMarked k rest with
        | some (name, after) =>
          restOfSet fuel ([']', k] ++ name.toList.reverse ++ [k, '['] ++ done) false after
        | none => none
      else restOfSet fuel ('[' :: done) false (k :: rest)
    | '\\' :: 'n' :: rest => restOfSet fuel ('\n' :: done) false rest
    | '\n' :: _ => none
    | c :: rest => restOfSet fuel (c :: done) (isFirst && c == '^') rest

/-- The text up to a mark, the last character first; none if there is no mark. -/
def upTo (mark : Char) (isExpression : Bool) : Nat → List Char → List Char →
    Option (List Char × List Char)
  | 0, _, _ => none
  | fuel + 1, done, cs =>
    match cs with
    | [] => none
    | '\\' :: c :: rest =>
      if c == mark then upTo mark isExpression fuel
        (if !isExpression && c == '&' then c :: '\\' :: done else c :: done) rest
      else if c == 'n' && isExpression then upTo mark isExpression fuel ('\n' :: done) rest
      else if c == '\n' then
        let done := if isExpression then done else '\\' :: done
        upTo mark isExpression fuel ('\n' :: done) rest
      else upTo mark isExpression fuel (c :: '\\' :: done) rest
    | c :: rest =>
      if c == mark then some (done, rest)
      else if c == '\n' && isExpression then none
      else if c == '[' && isExpression then
        match restOfSet (rest.length + 1) ['['] true rest with
        | some (set, rest) => upTo mark isExpression fuel (set ++ done) rest
        | none => none
      else upTo mark isExpression fuel (c :: done) rest

/-- Takes the text up to a mark. -/
def takeTo (mark : Char) (isExpression : Bool) (missing : String) : Step (List Char) := do
  let s ← get
  match upTo mark isExpression (s.rest.length + 1) [] s.rest with
  | some (cs, rest) =>
    set { s with rest, taken := s.taken + (s.rest.length - rest.length) }
    return cs.reverse
  | none =>
    set { s with rest := [], taken := s.taken + s.rest.length }
    fail missing

/-- Replaces numbered characters in an expression; those that mean something stand for themselves
then. -/
def plainNumbers : Nat → List Char → List Char
  | 0, cs => cs
  | fuel + 1, cs =>
    match cs with
    | '\\' :: rest =>
      match numbered? rest with
      | some (n, after) =>
        let c := Char.ofNat n
        (if ".*[]^$\\+?(){}|".toList.contains c then ['\\', c] else [c]) ++ plainNumbers fuel after
      | none =>
        match rest with
        | c :: after => '\\' :: c :: plainNumbers fuel after
        | [] => ['\\']
    | c :: rest => c :: plainNumbers fuel rest
    | [] => []

/-- An expression as it is written; an empty one is the one that was used last. -/
def expressionOf (extended caseless : Bool) (cs : List Char) : Step (Option Regular) := do
  if cs.isEmpty then return none
  let text := String.ofList (plainNumbers (cs.length + 1) cs)
  match Regular.read { extended, caseless, knowsEscapes := true, strict := true } text with
  | .ok (r, _) => return some r
  | .error e => fail e

/-- The text after an instruction for texts: a backslash takes away what follows from all
meaning. -/
def textFrom : Nat → List Char → List Char → List Char × List Char
  | 0, done, cs => (done.reverse, cs)
  | fuel + 1, done, cs =>
    match cs with
    | [] => (('\n' :: done).reverse, [])
    | '\n' :: rest => (('\n' :: done).reverse, rest)
    | ['\\'] => (('\n' :: done).reverse, [])
    | '\\' :: rest =>
      match numbered? rest with
      | some (n, after) => textFrom fuel (Char.ofNat n :: done) after
      | none =>
        match rest with
        | c :: after => textFrom fuel ((letters.lookup c).getD c :: done) after
        | [] => (done.reverse, [])
    | c :: rest => textFrom fuel (c :: done) rest

/-- Takes the text of an instruction. -/
def takeText : Step (List Nat) := do
  let c ← takeVisible
  if c == none then fail "expected \\ after \x60a', \x60c' or \x60i'"
  let mut escaped := none
  if c == some '\\' then
    let s ← get
    match s.rest.dropWhile fun c => c == ' ' || c == '\t' with
    | '\n' :: rest =>
      set { s with rest, taken := s.taken + (s.rest.length - rest.length) }
    | d :: _ =>
      if s.rest.head? == some d then
        let _ ← take
        escaped := some d
    | [] => set { s with rest := [] }
  else putBack c
  let s ← get
  if s.rest.isEmpty && escaped.isNone then return []
  let (text, rest) := textFrom (s.rest.length + 1) escaped.toList s.rest
  set { s with rest, taken := s.taken + (s.rest.length - rest.length) }
  return codesOf text

/-- Takes a label or another word. -/
def takeLabel : Step String := do
  let _ ← takeWhile fun c => c == ' ' || c == '\t'
  let cs ← takeWhile fun c => !isSpace c && c != ';'
  return .ofList cs

/-- Takes the name of a file: the rest of the line. -/
def takeFile : Step String := do
  let _ ← takeWhile fun c => c == ' ' || c == '\t'
  let cs ← takeWhile (· != '\n')
  let _ ← take
  if cs.isEmpty then fail "missing filename in r/R/w/W commands"
  return .ofList cs

/-! ## Addresses -/

/-- Takes the letters after an expression of an address; whether the case of letters counts. -/
def takeFlags : Nat → Bool → Step Bool
  | 0, caseless => return caseless
  | fuel + 1, caseless => do
    let c ← take
    if c == some 'I' then takeFlags fuel true
    else if c == some 'M' then takeFlags fuel caseless
    else
      putBack c
      return caseless

/-- Takes an expression of an address. -/
def takeMatching (extended : Bool) (mark : Char) : Step Address := do
  let cs ← takeTo mark true "unterminated address regex"
  let caseless ← takeFlags ((← get).rest.length + 1) false
  return .matching (← expressionOf extended caseless cs)

/-- Takes an address that begins with a character, if it does. -/
def takeAddress (extended : Bool) (c : Option Char) : Step (Option Address) := do
  match c with
  | some '$' => return some .final
  | some '/' => return some (← takeMatching extended '/')
  | some '\\' =>
    match ← take with
    | some mark => return some (← takeMatching extended mark)
    | none => fail "unexpected \x60,'"
  | some d =>
    if !d.isDigit then
      putBack c
      return none
    putBack c
    let n ← takeNumber
    let e ← takeVisible
    if e == some '~' then
      let _ ← takeWhile fun c => c == ' ' || c == '\t'
      return some (.step n (← takeNumber))
    putBack e
    return some (.line n)
  | none => return none

/-- Takes the end of a row of lines. -/
def takeFinish (extended : Bool) : Step Finish := do
  let c ← takeVisible
  if c == some '+' then return .after (← takeNumber)
  if c == some '~' then return .multipleOf (← takeNumber)
  match ← takeAddress extended c with
  | some a => return .at' a
  | none =>
    let _ ← take
    fail "unexpected \x60,'"

/-- Takes the lines that an instruction is for, and its first character. -/
def takeSelection (extended : Bool) (c : Option Char) : Step (Selection × Option Char) := do
  let start ← takeAddress extended c
  let c ← takeVisible
  let (finish, c) ← if start.isSome && c == some ',' then do
      let f ← takeFinish extended
      pure (some f, ← takeVisible)
    else pure (none, c)
  let isZero := start == some (.line 0)
  let endsByMatch := match finish with
    | some (.at' (.matching _)) => true
    | _ => false
  if isZero && !endsByMatch then fail "invalid usage of line address 0"
  if c != some '!' then return ({ start, finish }, c)
  let c ← takeVisible
  if c == some '!' then fail "multiple \x60!'s"
  return ({ start, finish, negated := true }, c)

/-! ## Replacing -/

/-- The parts of a replacement; the number bounds the characters. -/
def partsOf : Nat → List Char → List Char → List Part
  | 0, done, _ => [.text (codesOf done.reverse)]
  | fuel + 1, done, cs =>
    let before : List Part := if done.isEmpty then [] else [.text (codesOf done.reverse)]
    let casings : List (Char × Casing) := [('U', .upper), ('L', .lower), ('E', .plain),
      ('u', .nextUpper), ('l', .nextLower)]
    match cs with
    | [] => before
    | '&' :: rest => before ++ .group 0 :: partsOf fuel [] rest
    | '\\' :: rest =>
      match numbered? rest with
      | some (n, after) => partsOf fuel (Char.ofNat n :: done) after
      | none =>
        match rest with
        | [] => partsOf fuel ('\\' :: done) []
        | c :: rest =>
          if c.isDigit then before ++ .group (c.toNat - 48) :: partsOf fuel [] rest
          else match casings.lookup c with
            | some k => before ++ .casing k :: partsOf fuel [] rest
            | none => partsOf fuel ((letters.lookup c).getD c :: done) rest
    | c :: rest => partsOf fuel (c :: done) rest

/-- The number of groups of an expression. -/
def groupCount : Regular → Nat
  | .group n r => max n (groupCount r)
  | .both a b | .either a b => max (groupCount a) (groupCount b)
  | .repeated r _ _ => groupCount r
  | _ => 0

/-- Takes the letters after a replacement; whether the case of letters counts. -/
def takeOptions : Nat → Bool → Bool → Replacement → Step (Bool × Replacement)
  | 0, caseless, _, r => return (caseless, r)
  | fuel + 1, caseless, hasNumber, r => do
    let c ← take
    match c with
    | none | some '\n' | some ';' => return (caseless, r)
    | some '\x7d' | some '#' =>
      putBack c
      return (caseless, r)
    | some ' ' | some '\t' => takeOptions fuel caseless hasNumber r
    | some 'i' | some 'I' => takeOptions fuel true hasNumber r
    | some 'm' | some 'M' | some 'e' => takeOptions fuel caseless hasNumber r
    | some 'p' =>
      if r.prints then fail "multiple \x60p' options to \x60s' command"
      takeOptions fuel caseless hasNumber { r with prints := true }
    | some 'g' =>
      if r.all then fail "multiple \x60g' options to \x60s' command"
      takeOptions fuel caseless hasNumber { r with all := true }
    | some 'w' => return (caseless, { r with file := some (← takeFile) })
    | some d =>
      if !d.isDigit then fail "unknown option to \x60s'"
      if hasNumber then fail "multiple number options to \x60s' command"
      putBack c
      let n ← takeNumber
      if n = 0 then fail "number option to \x60s' command may not be zero"
      takeOptions fuel caseless true { r with number := n }

/-- Takes a replacement. -/
def takeReplacement (extended : Bool) : Step Action := do
  let missing := "unterminated \x60s' command"
  match ← take with
  | none | some '\n' | some '\\' => fail missing
  | some mark =>
    let expression ← takeTo mark true missing
    let text ← takeTo mark false missing
    let (caseless, r) ← takeOptions ((← get).rest.length + 1) false false
      { expression := none, parts := partsOf (text.length + 1) [] text }
    let e ← expressionOf extended caseless expression
    let most := r.parts.foldl (fun n p => match p with
      | .group m => max n m
      | _ => n) 0
    if (e.map fun e => decide (groupCount e < most)).getD false then
      fail ("invalid reference \\" ++ toString most ++ " on \x60s' command's RHS")
    return .replace { r with expression := e }

/-- The characters of a text for exchanging. -/
def exchanged : List Char → List Nat
  | '\\' :: c :: rest => (if c == '\\' then '\\' else (letters.lookup c).getD c).toNat ::
      exchanged rest
  | c :: rest => c.toNat :: exchanged rest
  | [] => []

/-- Takes the texts for exchanging characters. -/
def takeExchange : Step Action := do
  let missing := "unterminated \x60y' command"
  match ← take with
  | none | some '\n' | some '\\' => fail missing
  | some mark =>
    let a := exchanged (← takeTo mark false missing)
    let b := exchanged (← takeTo mark false missing)
    if a.length ≠ b.length then fail "strings for \x60y' command are different lengths"
    endInstruction
    return .exchange (a.zip b)

/-! ## Instructions -/

/-- The instructions that are one letter. -/
def plainActions : List (Char × Action) :=
  [('=', .number), ('d', .delete), ('D', .deleteFirst), ('F', .name), ('g', .recall),
    ('G', .recallMore), ('h', .keep), ('H', .keepMore), ('n', .next), ('N', .join), ('p', .print),
    ('P', .printFirst), ('z', .clear), ('x', .swap)]

/-- Takes the number after a letter, if there is one, and the end of the instruction. -/
def takeCount : Step (Option Nat) := do
  let c ← takeVisible
  putBack c
  let n ← if (c.map Char.isDigit).getD false then pure (some (← takeNumber)) else pure none
  endInstruction
  return n

/-- What an instruction does, after its letter. -/
def takeAction (extended : Bool) (s : Selection) (c : Char) : Step Action := do
  match plainActions.lookup c with
  | some a =>
    endInstruction
    return a
  | none =>
    match c with
    | 'a' => return .append (← takeText)
    | 'i' => return .insert (← takeText)
    | 'c' => return .change (← takeText)
    | ':' =>
      if s.start.isSome then fail ": doesn't want any addresses"
      let l ← takeLabel
      if l.isEmpty then fail "\":\" lacks a label"
      return .label l
    | 'b' => return .branch (← takeLabel)
    | 't' => return .branchIf (← takeLabel)
    | 'T' => return .branchUnless (← takeLabel)
    | 'q' | 'Q' =>
      if s.finish.isSome then fail "command only uses one address"
      let n := (← takeCount).getD 0
      return if c == 'q' then .quit n else .quitSilently n
    | 'l' => return .show (← takeCount)
    | 'r' => return .read (← takeFile)
    | 'R' => return .readLine (← takeFile)
    | 'w' => return .write (← takeFile)
    | 'W' => return .writeFirst (← takeFile)
    | 's' => takeReplacement extended
    | 'y' => takeExchange
    | 'v' =>
      let _ ← takeLabel
      return .nothing
    | _ => fail ("unknown command: \x60" ++ String.singleton c ++ "'")

/-- Adds an instruction. -/
def add (i : Instruction) : Step Unit := modify fun s => { s with done := i :: s.done }

/-- Closes the last block that is open: the instruction that opens it gets to know its end. -/
def closeBlock : Step Unit := do
  let s ← get
  match s.blocks with
  | [] => fail "unexpected \x60\x7d'"
  | n :: blocks =>
    let past := s.done.length
    let done := (s.done.zip (List.range past)).map fun (i, k) =>
      if k + n + 1 = past then { i with action := .opens past } else i
    set { s with done, blocks }

/-- Takes instructions up to the end; the number bounds them. -/
def takeAll (extended : Bool) : Nat → Step Unit
  | 0 => return ()
  | fuel + 1 => do
    let _ ← takeWhile fun c => isSpace c || c == ';'
    match ← take with
    | none => return ()
    | first =>
      let (selection, c) ← takeSelection extended first
      match c with
      | none => fail "missing command"
      | some '#' =>
        if selection.start.isSome then fail "comments don't accept any addresses"
        let _ ← takeWhile (· != '\n')
        takeAll extended fuel
      | some '\x7b' =>
        modify fun s => { s with blocks := s.done.length :: s.blocks }
        add ⟨selection, .opens 0⟩
        takeAll extended fuel
      | some '\x7d' =>
        if selection.start.isSome then fail "\x7d doesn't want any addresses"
        closeBlock
        endInstruction
        takeAll extended fuel
      | some c =>
        let action ← takeAction extended selection c
        add ⟨selection, action⟩
        takeAll extended fuel

/-- The label that a branch goes to. -/
def Action.target? : Action → Option String
  | .branch l | .branchIf l | .branchUnless l => if l.isEmpty then none else some l
  | _ => none

/-- Reads a script; whether its first line says that lines are not shown by themselves. -/
def read (extended : Bool) (text : String) : Except Flaw (Bool × List Instruction) := do
  let cs := text.toList
  let isQuiet := cs.take 2 == ['#', 'n'] && (cs.drop 2).head?.getD '\n' == '\n'
  let ((), s) ← (takeAll extended (cs.length + 1)).run { rest := cs }
  if !s.blocks.isEmpty then throw ⟨some 0, "unmatched \x60\x7b'"⟩
  let script := s.done.reverse
  let labels := script.filterMap fun i => match i.action with
    | .label l => some l
    | _ => none
  match (script.filterMap fun i => Action.target? i.action).find? fun l => !labels.contains l with
  | some l => throw ⟨none, "can't find label for jump to \x60" ++ l ++ "'"⟩
  | none => return (isQuiet, script)

end Script

end Errand.Host.Program.Edit
