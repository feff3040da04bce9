import Errand.Fault

/-! # The words of a command line

A command line is a text of words with blanks between them. A word is made of pieces: characters
that stand for themselves, a backslash and the character it makes ordinary, and quoted stretches.
Nothing is special between single quotes; between double quotes a backslash takes the meaning from
a double quote or a backslash and is an ordinary character before any other.

* `Words.split` reads the words of a command line;
* `Words.quote` writes one word so that it is read as itself, `Words.join` a list of words. -/

namespace Errand.Words

/-- The characters that separate words. -/
def isSeparator (c : Char) : Bool :=
  c == ' ' || c == '\t' || c == '\r' || c == '\n'

/-- Where a reader of words stands. -/
inductive Mode where
  | between
  | inWord
  | inSingle
  | inDouble
  /-- After a backslash, outside quotes. -/
  | escaped
  /-- After a backslash, between double quotes. -/
  | escapedInDouble
  deriving DecidableEq, Repr

/-- A reader on its way: its mode, the characters of the word it is in and the words before it,
both with the last one first. -/
structure Reader where
  mode : Mode := .between
  word : List Char := []
  words : List String := []
  deriving DecidableEq, Repr

namespace Reader

/-- The same reader in another mode. -/
def enter (r : Reader) (mode : Mode) : Reader := { r with mode }

/-- One more character of the word. -/
def take (r : Reader) (c : Char) (mode : Mode) : Reader := { r with mode, word := c :: r.word }

/-- The end of the word. -/
def close (r : Reader) : Reader :=
  { mode := .between, word := [], words := .ofList r.word.reverse :: r.words }

/-- A character that is not quoted and ends no word: it opens a quotation, takes the meaning from
the next one, or belongs to the word. -/
def unquoted (r : Reader) (c : Char) : Reader :=
  if c = '\'' then r.enter .inSingle
  else if c = '"' then r.enter .inDouble
  else if c = '\\' then r.enter .escaped
  else r.take c .inWord

/-- Reads one more character. -/
def push (r : Reader) (c : Char) : Reader :=
  match r.mode with
  | .between => if isSeparator c then r else r.unquoted c
  | .inWord => if isSeparator c then r.close else r.unquoted c
  | .inSingle => if c = '\'' then r.enter .inWord else r.take c .inSingle
  | .inDouble =>
    if c = '"' then r.enter .inWord
    else if c = '\\' then r.enter .escapedInDouble
    else r.take c .inDouble
  | .escaped => r.take c .inWord
  | .escapedInDouble =>
    if c = '"' ∨ c = '\\' then r.take c .inDouble
    else (r.take '\\' .inDouble).take c .inDouble

/-- The words, once no character follows. -/
def finish (r : Reader) : Except Fault (List String) :=
  match r.mode with
  | .between => .ok r.words.reverse
  | .inWord => .ok r.close.words.reverse
  | .inSingle | .inDouble => .error .unclosedQuote
  | .escaped | .escapedInDouble => .error .nothingEscaped

end Reader

/-- The words of a command line. -/
def split (line : String) : Except Fault (List String) :=
  (line.toList.foldl Reader.push {}).finish

/-- The characters that need no quotes. -/
def isPlain (c : Char) : Bool :=
  c.isAlphanum || "_@%+=:,./-".toList.contains c

/-- The characters of a word between single quotes; a single quote is written between double
quotes outside them. -/
def encodeChars : List Char → List Char
  | [] => []
  | c :: cs => if c = '\'' then "'\"'\"'".toList ++ encodeChars cs else c :: encodeChars cs

/-- A word as a command line writes it. -/
def quote (word : String) : String :=
  let cs := word.toList
  if !cs.isEmpty && cs.all isPlain then word
  else .ofList ('\'' :: encodeChars cs ++ ['\''])

/-- Words as a command line writes them, one space between any two. -/
def join (words : List String) : String :=
  " ".intercalate (words.map quote)

example : join ["a b", "", "it's"] = "'a b' '' 'it'\"'\"'s'" := by decide +kernel

end Errand.Words
