import Errand.Text.Octets

/-! # Commands of the shell

A script is a row of commands, and a command is made of words. A word is a row of parts: characters
that stand for themselves, and places where something is put in when the word is expanded. A place
may hold a word or a command in turn.

* `Word` and `Command` are what a script consists of;
* `Word.assignment?` tells whether a word gives a variable a value. -/

namespace Errand.Shell

/-- What is made of a parameter in a word. Where a `greedy` piece is cut off, it is the longest one
that fits. -/
inductive Use where
  | value
  | length
  | default
  | assigned
  | required
  | replaced
  | withoutEnd (greedy : Bool)
  | withoutStart (greedy : Bool)
  | bad
  deriving DecidableEq, Repr

/-- How a redirection opens a file. -/
inductive Access where
  | read
  | write
  /-- Writing to a file that may be there even if files are protected. -/
  | overwrite
  | append
  | readWrite
  deriving DecidableEq, Repr

mutual

/-- A part of a word. A quote opens or closes a quoted text; a quoted character stands for itself
wherever it is. -/
inductive Part where
  | plain (c : Char)
  | quoted (c : Char)
  | quote
  /-- A parameter; for some uses an empty one counts as none. -/
  | parameter (name : List Char) (use : Use) (emptyToo : Bool) (word : List Part)
  | arithmetic (expression : List Part)
  | substitution (body : Command)

/-- A redirection of a number. The text of a document is known by its number. -/
inductive Redirect where
  | file (number : Nat) (access : Access) (name : List Part)
  | copy (number : Nat) (source : List Part)
  | document (number index : Nat)

/-- A command; some know the line that they are on. -/
inductive Command where
  | nothing
  | simple (line : Nat) (assignments words : List (List Part)) (redirects : List Redirect)
  | negated (c : Command)
  | pipeline (stages : List Command) (inBackground : Bool)
  | both (first second : Command)
  | either (first second : Command)
  | sequence (first second : Command)
  | background (line : Nat) (c : Command) (redirects : List Redirect)
  | subshell (line : Nat) (c : Command) (redirects : List Redirect)
  | redirected (line : Nat) (c : Command) (redirects : List Redirect)
  | branch (condition consequence : Command) (alternative : Option Command)
  | loop (untilTrue : Bool) (condition body : Command)
  | each (line : Nat) (name : String) (words : List (List Part)) (body : Command)
  | select (line : Nat) (subject : List Part) (arms : List (List (List Part) × Command))
  | function (line : Nat) (name : String) (body : Command)

end

instance : Inhabited Command := ⟨.nothing⟩

/-- A word. -/
abbrev Word := List Part

/-- Whether a character may begin a name. -/
def beginsName (c : Char) : Bool := c.isAlpha || c == '_'

/-- Whether a character may stand in a name. -/
def inName (c : Char) : Bool := c.isAlphanum || c == '_'

/-- Whether a text is a name. -/
def isName (cs : List Char) : Bool :=
  match cs with
  | c :: rest => beginsName c && rest.all inName
  | [] => false

/-- The parameters whose name is one character that is not in names. -/
def isSpecialParameter (c : Char) : Bool := "@*#?-$!".toList.contains c || c.isDigit

namespace Word

/-- The characters at the head of a word that are not quoted. -/
def plainHead : Word → List Char
  | .plain c :: rest => c :: plainHead rest
  | _ => []

/-- The text of a word that is not quoted and takes nothing in. -/
def plain? (w : Word) : Option String :=
  let cs := plainHead w
  if cs.length = w.length then some (.ofList cs) else none

/-- The name and the value that a word assigns. -/
def assignment? (w : Word) : Option (String × Word) :=
  let name := (plainHead w).takeWhile inName
  match w.drop name.length with
  | .plain '=' :: value => if isName name then some (.ofList name, value) else none
  | _ => none

/-- The characters of a word that takes nothing in, without its quotes. -/
def characters : Word → List Char
  | .plain c :: rest | .quoted c :: rest => c :: characters rest
  | _ :: rest => characters rest
  | [] => []

end Word

end Errand.Shell
