import Errand.Shell.Caller.Basic

/-! # Programs for words

A program is called for the words of the input. Words stand between blanks and lines, quotes and
backslashes keep them together, or they stand between marks. Each call gets as many of them as
options allow: so many words, the words of so many lines, or as many as fit into a size; or a word
takes the place of a mark in the arguments.

`Caller.xargs` calls programs like that. -/

namespace Errand.Shell

open Errand.Host

namespace Caller

/-- What is read of the input so far: the words, the one that is being read, and the quote that is
open. -/
structure Reading where
  words : List String := []
  word : Option (List Char) := none
  quote : Option Char := none
  /-- Whether a blank came last. -/
  afterBlank : Bool := false
  /-- The words of earlier lines, the latest first. -/
  lines : List (List String) := []

/-- The end of a word. -/
def Reading.endWord (r : Reading) : Reading :=
  match r.word with
  | some w => { r with words := .ofList w.reverse :: r.words, word := none }
  | none => r

/-- The end of a line. -/
def Reading.endLine (r : Reading) : Reading :=
  let r := r.endWord
  if r.words.isEmpty then r else { r with lines := r.words.reverse :: r.lines, words := [] }

/-- One more character of a word. -/
def Reading.push (r : Reading) (ch : Char) : Reading :=
  { r with word := some (ch :: r.word.getD []) }

/-- The lines of words that were read. -/
def Reading.all (r : Reading) : List (List String) :=
  (if r.words.isEmpty then r.lines else r.words.reverse :: r.lines).reverse

/-- Reads lines of words; blanks inside of a line belong to a word if lines are words. A blank at
the end of a line says that the line goes on. A quote that has no end is what may be wrong; the
words before it are read. -/
def readWords (wholeLines : Bool) (r : Reading) : List Char → Reading × Option Char
  | [] =>
    match r.quote with
    | some q => (r, some q)
    | none => (r.endLine, none)
  | ch :: rest =>
    match r.quote with
    | some q =>
      if ch == '\n' then (r, some q)
      else if ch == q then readWords wholeLines { r with quote := none } rest
      else readWords wholeLines (r.push ch) rest
    | none =>
      let isBlank := ch == ' ' || ch == '\t'
      let goesOn := r.afterBlank && !wholeLines
      let r := { r with afterBlank := isBlank }
      if ch == '\n' then readWords wholeLines (if goesOn then r.endWord else r.endLine) rest
      else if isBlank then
        readWords wholeLines (if wholeLines then (if r.word.isNone then r else r.push ch)
          else r.endWord) rest
      else if ch == '\'' || ch == '"' then
        readWords wholeLines { r with quote := some ch, word := some (r.word.getD []) } rest
      else if ch == '\\' then
        match rest with
        | e :: rest => readWords wholeLines (r.push e) rest
        | [] => (r.endLine, none)
      else readWords wholeLines (r.push ch) rest

/-- The words between marks; the last one may lack its mark. -/
def splitWords (mark : Char) (cs : List Char) : List String :=
  let parts := (String.ofList cs).splitOn (String.singleton mark)
  if parts.getLast? == some "" then parts.dropLast else parts

/-- The mark between words that an option asks for; or what is wrong with it. -/
def markOf (s : String) : Except String Char :=
  match s.toList with
  | [ch] => .ok ch
  | '\\' :: l :: rest =>
    let invalid := "Invalid escape sequence " ++ s ++ " in input delimiter specification."
    match Printing.letters.lookup l, rest with
    | some ch, [] => .ok ch
    | _, _ =>
      let octal := (l :: rest).takeWhile (Numeral.isDigitOf 8)
      if l == 'x' && !rest.isEmpty && rest.all (Numeral.isDigitOf 16) then
        .ok (Printing.octet (Numeral.valueOf 16 rest))
      else if !octal.isEmpty && octal.length = rest.length + 1 then
        .ok (Printing.octet (Numeral.valueOf 8 octal))
      else .error invalid
  | _ => .error ("Invalid input delimiter specification " ++ s ++
      ": the delimiter must be either a single character or an escape sequence starting with \\.")

/-- How many words and lines a call gets, and how large it may be. -/
structure Sharing where
  words : Option Nat := none
  lines : Option Nat := none
  size : Option Nat := none
  /-- The mark that a word takes the place of. -/
  mark : Option String := none

/-- The size of arguments, each with its end. -/
def sizeOf (arguments : List String) : Nat :=
  (arguments.map fun a => a.length + 1).foldr (· + ·) 0

/-- The words of so many lines, again and again. -/
def lineGroups (size : Nat) : Nat → List (List String) → List (List String)
  | 0, _ => []
  | fuel + 1, ls =>
    if ls.isEmpty then [] else (ls.take size).flatten :: lineGroups size fuel (ls.drop size)

/-- The words that go together: a number of them at most, and not more than fit. -/
def wordGroups (most : Option Nat) (room : Option Nat) (ws : List String) : List (List String) :=
  (ws.foldl (fun (done : List (List String)) w =>
    match done with
    | group :: rest =>
      let isFull := (most.map fun n => decide (n ≤ group.length)).getD false ||
        (room.map fun n => decide (n < sizeOf (w :: group))).getD false
      if isFull then [w] :: group :: rest else (w :: group) :: rest
    | [] => [[w]]) []).reverse.map List.reverse

/-- A text with another one in the place of a third one. -/
def substituted (mark word text : String) : String := word.intercalate (text.splitOn mark)

/-- The calls that words lead to; or what is wrong with their size. -/
def callsOf (s : Sharing) (command : List String) (lines : List (List String)) :
    Except String (List (List String)) :=
  let room := s.size.map fun n => n - sizeOf command
  let calls : List (List String) := match s.mark, s.lines with
    | some mark, _ => lines.flatten.map fun w =>
        command.headD "" :: (command.drop 1).map (substituted mark w)
    | none, some n => (lineGroups n lines.length lines).map (command ++ ·)
    | none, none => (wordGroups s.words room lines.flatten).map (command ++ ·)
  let isTooLong := fun (a : List String) =>
    (s.size.map fun n => decide (n < sizeOf a)).getD false
  if calls.any isTooLong then .error "argument line too long" else .ok calls

/-- Calls programs one after the other; the worst of their statuses counts. -/
def callAll (i : Interpreter) (c : Call) (tells : Bool) : Nat → List (List String) → Run Nat
  | worst, [] => return worst
  | worst, arguments :: rest => do
    let name := arguments.headD ""
    if tells then Run.write 2 (" ".intercalate (arguments.map c.shown) ++ "\n")
    match ← find (← Run.surroundings) arguments with
    | .error r => tell c "" (c.shown name) r
    | .ok image =>
      match ← Run.child (i.image image) with
      | .status 0 => callAll i c tells worst rest
      | .status 255 => complain c (name ++ ": exited with status 255; aborting") 124
      | .status _ => callAll i c tells (max worst 123) rest
      | .signal n => complain c (name ++ ": terminated by signal " ++ toString n) 125

/-- What an option that shares words out stands for, after the options before it. -/
def sharingAfter (s : Sharing) (g : Host.Options.Given) : Except String Sharing :=
  let number := fun (least : Nat) (v : String) =>
    match Numeral.readAny (some 10) v.toList with
    | (some n, []) =>
      if n < least then
        Except.error ("value " ++ toString n ++ " for -" ++ String.singleton g.1 ++
          " option should be >= " ++ toString least)
      else .ok n.toNat
    | _ => .error ("invalid number \"" ++ v ++ "\" for -" ++ String.singleton g.1 ++ " option")
  match g.1 with
  | 'n' => do
    let n ← number 1 (g.2.getD "")
    if s.mark.isSome && n = 1 then return s
    return { s with words := some n, lines := none, mark := none }
  | 'L' | 'l' => do
    return { s with lines := some (← number 1 (g.2.getD "1")), words := none, mark := none }
  | 's' => do return { s with size := some (← number 1 (g.2.getD "")) }
  | 'P' => do
    let _ ← number 0 (g.2.getD "")
    return s
  | 'I' | 'i' => .ok { s with
      mark := some (g.2.getD "\x7b\x7d"), words := none, lines := none }
  | _ => .ok s

/-- Calls a program for the words of the input. -/
def xargs (i : Interpreter) (c : Call) : Run Nat :=
  let flags : List Host.Flag := [⟨'0', "null", .nothing⟩, ⟨'a', "arg-file", .value⟩,
    ⟨'d', "delimiter", .value⟩, ⟨'e', "eof", .optional⟩, ⟨'E', "", .value⟩,
    ⟨'i', "replace", .optional⟩, ⟨'I', "", .value⟩, ⟨'l', "max-lines", .optional⟩,
    ⟨'L', "", .value⟩, ⟨'n', "max-args", .value⟩, ⟨'P', "max-procs", .value⟩,
    ⟨'r', "no-run-if-empty", .nothing⟩, ⟨'s', "max-chars", .value⟩, ⟨'t', "verbose", .nothing⟩,
    ⟨'x', "exit", .nothing⟩]
  withOptions c flags (fun r => do
    let marked : Except String (Option Char) := match r.has '0', r.value? 'd' with
      | true, _ => .ok (some '\x00')
      | false, some d => (markOf d).map some
      | false, none => .ok none
    match r.given.foldlM sharingAfter ({} : Sharing), marked with
    | .error text, _ => misuse c text 1
    | _, .error text => complain c text 1
    | .ok sharing, .ok mark =>
      let source : Except Refusal (List Char) ← match r.value? 'a' with
        | some name => pure ((c.open? name).map fun i => Text.Octets.ofBytes i.bytes)
        | none => do
          let cs := Text.Octets.ofBytes (← Run.readAll 0)
          let nothing ← Run.addOpened { channel := .device .null, reads := true }
          Run.setDescriptor 0 (some nothing)
          pure (.ok cs)
      match source with
      | .error e => complain c ("Cannot open input file " ++ c.quoted ((r.value? 'a').getD "") ++
          ": " ++ e.reason) 1
      | .ok cs =>
        let (lines, flaw) : List (List String) × Option Char := match mark with
          | some m => (if sharing.lines.isSome then (splitWords m cs).map fun w => [w]
              else [splitWords m cs], none)
          | none =>
            let (r, flaw) := readWords sharing.mark.isSome {} cs
            (r.all, flaw)
        let stop := (r.given.filter fun g => g.1 == 'E' || g.1 == 'e').getLast?.bind (·.2)
        let lines := match stop with
          | some stop => [lines.flatten.takeWhile (· != stop)]
          | none => lines
        let command := if r.operands.isEmpty then ["echo"] else r.operands
        let isEmpty := lines.flatten.isEmpty
        let isWhole := sharing.mark.isSome || sharing.lines.isSome || r.has 'x'
        match callsOf sharing command lines with
        | .error text => complain c text 1
        | .ok calls =>
          let calls := if isEmpty && flaw.isNone && !r.has 'r' && sharing.mark.isNone
            then [command] else calls
          let calls := if flaw.isSome && isWhole && sharing.mark.isNone then calls.dropLast
            else calls
          -- Words that wait for more of them are used only after the complaint.
          let (calls, waiting) := if flaw.isSome && !isWhole
            then (calls.dropLast, calls.getLast?.toList) else (calls, [])
          let status ← callAll i c (r.has 't') 0 calls
          match flaw with
          | some q =>
            let status ← complain c ("unmatched " ++ (if q == '"' then "double" else "single") ++
              " quote; by default quotes are special to xargs unless you use the -0 option") 1
            let _ ← callAll i c (r.has 't') 0 waiting
            return status
          | none => return status) 1

end Caller

end Errand.Shell
