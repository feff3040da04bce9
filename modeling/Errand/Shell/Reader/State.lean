import Errand.Shell.Command

/-! # Readers of scripts

A reader takes characters from a script and knows what it took last, so that it can go back by one
token. A name that stands for a text puts that text in front of the script; it does not stand for
anything as long as that text is being read. A document that a redirection announces is read when
the line ends.

* `Reader` is what reads, `Reader.take` the next character, `Reader.fail` a script that is wrong. -/

namespace Errand.Shell

/-- What is wrong with a script, and on which line. -/
structure ReadError where
  text : String
  line : Nat
  deriving DecidableEq, Repr

/-- What is left of a script: characters, and the ends of texts that names stand for. -/
inductive Reader.Item where
  | char (c : Char)
  /-- The text ends here, maybe with a blank. -/
  | close (name : String) (afterBlank : Bool)
  deriving DecidableEq, Repr

/-- What a script is made of between blanks. -/
inductive Token where
  | word
  | redirection
  | newline
  | finish
  | operator (s : String)
  | keyword (s : String)
  deriving DecidableEq, Repr

/-- What a token is called where it should not be. -/
def Token.title : Token → String
  | word => "word"
  | redirection => "redirection"
  | newline => "newline"
  | finish => "end of file"
  | operator s | keyword s => "\"" ++ s ++ "\""

namespace Reader

/-- What the next token is looked at for. -/
structure Check where
  newlines : Bool := false
  keywords : Bool := false
  aliases : Bool := false
  /-- The token is the mark of a document, in which nothing is put in. -/
  mark : Bool := false
  deriving DecidableEq, Repr

/-- A document that is still to be read. -/
structure Awaited where
  index : Nat
  mark : List Char
  /-- Whether tabs at the beginning of lines count as nothing. -/
  strips : Bool
  /-- Whether something may be put in. -/
  expands : Bool

/-- A redirection whose target is still to be read. -/
inductive Announced where
  | file (number : Nat) (access : Access)
  | copy (number : Nat)
  | document (number : Nat) (strips : Bool)

/-- Where a reader is. -/
structure State where
  items : List Item
  line : Nat := 1
  /-- The token that was taken last, and whether it is to be taken again. -/
  last : Token := .newline
  again : Bool := false
  /-- The word that was taken last, and whether some of it is quoted. -/
  word : Word := []
  isQuoted : Bool := false
  announced : Announced := .copy 0
  check : Check := {}
  awaited : List Awaited := []
  documents : Array Word := #[]
  /-- The texts that names stand for. -/
  aliases : List (String × String) := []
  /-- The names whose texts are being read, and those whose texts were just left. -/
  busy : List String := []
  spent : List String := []

end Reader

/-- Reads from a script. -/
abbrev Reader := StateT Reader.State (Except ReadError)

namespace Reader

/-- The items of characters. -/
def itemsOf (cs : List Char) : List Item := cs.map .char

/-- Refuses the script. -/
def fail {α : Type} (text : String) : Reader α := do
  throw ⟨"Syntax error: " ++ text, (← get).line⟩

/-- Refuses the last token, where another one may be expected. -/
def unexpected {α : Type} (expecting : Option Token := none) : Reader α := do
  fail ((← get).last.title ++ " unexpected" ++ match expecting with
    | some t => " (expecting " ++ t.title ++ ")"
    | none => "")

/-- Passes the ends of texts. -/
def passEnds (s : State) : List Item → State
  | .close name afterBlank :: rest =>
    passEnds { s with
      spent := name :: s.spent
      check := if afterBlank then { s.check with aliases := true } else s.check } rest
  | items => { s with items }

/-- Takes the next character. -/
def take : Reader (Option Char) := fun s =>
  let s := { s with busy := s.busy.filter fun n => !s.spent.contains n, spent := [] }
  let s := passEnds s s.items
  match s.items with
  | .char c :: rest => .ok (some c, { s with items := rest })
  | _ => .ok (none, s)

/-- Puts characters back. -/
def putBack (cs : List Char) : Reader Unit :=
  modify fun s => { s with items := itemsOf cs ++ s.items }

/-- Puts one character back, if it is one. -/
def putOne (c : Option Char) : Reader Unit := putBack c.toList

/-- Begins another line. -/
def countLine : Reader Unit := modify fun s => { s with line := s.line + 1 }

/-- How many characters are left. -/
def left : Reader Nat := do return (← get).items.length

/-- Goes on after a backslash, which takes away an end of a line. The number bounds the lines. -/
def afterBackslash : Nat → Reader (Option Char)
  | 0 => return '\\'
  | fuel + 1 => do
    let c ← take
    if c != some '\n' then
      putOne c
      return '\\'
    countLine
    let c ← take
    if c != some '\\' then return c
    afterBackslash fuel

/-- Takes the next character past ends of lines that a backslash takes away. -/
def takeNext : Reader (Option Char) := do
  let c ← take
  if c == some '\\' then afterBackslash ((← left) + 1) else return c

/-- Sets what the next token is looked at for. -/
def checkFor (check : Check) : Reader Unit := modify fun s => { s with check }

/-- The last token is to be taken again. -/
def pushBack : Reader Unit := modify fun s => { s with again := true }

/-- A token was taken. -/
def took (t : Token) : Reader Token := do
  modify fun s => { s with last := t }
  return t

end Reader

end Errand.Shell
