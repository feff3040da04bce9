import Errand.Text.Blank
import Errand.Text.Newlines

/-! # Files of variables

A file of variables binds names to values, one binding a line. Comments start with `#`, `export`
may stand before a name, a name may stand in single quotes. A value in single or double quotes may
go on over lines and has escapes; any other value ends with its line or before a comment. A line
that is no binding is skipped.

* `EnvFile.bindings` reads the bindings as they are written;
* `EnvFile.read` also replaces `$` and a name in braces, with an optional default, by the value of
  the name: that of an earlier binding if there is one, else that of the environment. -/

namespace Errand.EnvFile

open Text

/-- A name and the value that is bound to it; a name may stand without any. -/
abbrev Binding := String × Option String

/-- The rest of a text after its blanks. -/
def skipInline (cs : List Char) : List Char := cs.dropWhile isInlineBlank

/-- Whether a character ends a line. -/
def isLineEnd (c : Char) : Bool := c == '\n' || c == '\r'

/-- The rest of a text after the end of its line. -/
def nextLine (cs : List Char) : List Char :=
  (cs.dropWhile fun c => !isLineEnd c).drop 1

/-- The characters up to a closing quote and what follows it. A backslash takes the next character
with it, so a quote behind one belongs to the value. -/
def quotedBody? (quote : Char) : List Char → Option (List Char × List Char)
  | [] => none
  | '\\' :: c :: cs => (quotedBody? quote cs).map fun (body, rest) => ('\\' :: c :: body, rest)
  | c :: cs =>
    if c = quote then some ([], cs)
    else if c = '\\' then none
    else (quotedBody? quote cs).map fun (body, rest) => (c :: body, rest)

/-- The escapes between double quotes: the character after the backslash and what it stands for. -/
def escapes : List (Char × Char) :=
  [('\\', '\\'), ('\'', '\''), ('"', '"'), ('a', '\x07'), ('b', '\x08'), ('f', '\x0c'),
    ('n', '\n'), ('r', '\r'), ('t', '\t'), ('v', '\x0b')]

/-- The escapes between single quotes. -/
def singleEscapes : List (Char × Char) := [('\\', '\\'), ('\'', '\'')]

/-- Replaces escapes; a backslash before any other character stays. -/
def unescape (table : List (Char × Char)) : List Char → List Char
  | [] => []
  | [c] => [c]
  | c :: d :: cs =>
    match if c = '\\' then table.lookup d else none with
    | some e => e :: unescape table cs
    | none => c :: unescape table (d :: cs)

/-- The part of an unquoted value before a comment, which starts at a `#` after a blank. -/
def beforeComment : List Char → List Char
  | [] => []
  | c :: cs =>
    if isBlank c && (cs.dropWhile isBlank).head? == some '#' then []
    else c :: beforeComment cs

/-- The value after an equals sign, and what follows it; `spaced` tells whether blanks came
before. -/
def readValue? (spaced : Bool) (cs : List Char) : Option (List Char × List Char) :=
  match cs with
  | '\'' :: rest => (quotedBody? '\'' rest).map fun (b, r) => (unescape singleEscapes b, r)
  | '"' :: rest => (quotedBody? '"' rest).map fun (b, r) => (unescape escapes b, r)
  | _ =>
    if spaced && cs.head? == some '#' then some ([], cs)
    else
      let line := cs.takeWhile fun c => !isLineEnd c
      some (trimEndBy isBlank (beforeComment line), cs.dropWhile fun c => !isLineEnd c)

/-- A name, and what follows it: none stands at a comment, an empty one is refused. -/
def readName? (cs : List Char) : Option (Option (List Char) × List Char) :=
  match cs with
  | '#' :: _ => some (none, cs)
  | '\'' :: rest =>
    let name := rest.takeWhile (· != '\'')
    match rest.dropWhile (· != '\'') with
    | _ :: after => if name.isEmpty then none else some (some name, after)
    | [] => none
  | _ =>
    let inName := fun c => !(c == '=' || c == '#' || isBlank c)
    let name := cs.takeWhile inName
    if name.isEmpty then none else some (some name, cs.dropWhile inName)

/-- The rest of a text after `export` and the blanks behind it, if that is how it begins. -/
def skipExport (cs : List Char) : List Char :=
  if "export".toList.isPrefixOf cs then
    let rest := cs.drop 6
    if (rest.head?.map isInlineBlank).getD false then skipInline rest else cs
  else cs

/-- What follows a line that ends here, but for blanks and a comment. -/
def endOfLine? (cs : List Char) : Option (List Char) :=
  let rest := match skipInline cs with
    | '#' :: more => more.dropWhile fun c => !isLineEnd c
    | _ => cs
  match skipInline rest with
  | [] => some []
  | c :: more => if isLineEnd c then some more else none

/-- What reading one binding leads to: the binding, if the line has one, and the rest; or the place
where the line stopped being a binding. -/
def readBinding (cs : List Char) : Except (List Char) (Option Binding × List Char) :=
  let start := skipExport cs
  match readName? start with
  | none => .error start
  | some (name, afterName) =>
    let here := skipInline afterName
    let valued : Except (List Char) (Option (List Char) × List Char) :=
      match here with
      | '=' :: more =>
        let body := skipInline more
        match readValue? (body.length < more.length) body with
        | some (v, rest) => .ok (some v, rest)
        | none => .error body
      | _ => .ok (none, here)
    match valued with
    | .error stopped => .error stopped
    | .ok (value, rest) =>
      match endOfLine? rest with
      | some after => .ok (name.map fun n => (.ofList n, value.map .ofList), after)
      | none => .error rest

/-- The bindings of a text in order; the first argument bounds their number. -/
def readBindings : Nat → List Char → List Binding
  | 0, _ => []
  | fuel + 1, cs =>
    match cs.dropWhile isBlank with
    | [] => []
    | start =>
      match readBinding start with
      | .ok (binding, rest) => binding.toList ++ readBindings fuel rest
      | .error stopped => readBindings fuel (nextLine stopped)

/-- The bindings of a file as they are written. A mark of the byte order at its start is
dropped. -/
def bindings (content : String) : List Binding :=
  let cs := (unifyNewlines content).toList
  let cs := match cs with
    | '\ufeff' :: rest => rest
    | _ => cs
  readBindings (cs.length + 1) cs

/-- The value of the name that was bound last. -/
def find? (bs : List Binding) (name : String) : Option (Option String) :=
  (bs.reverse.find? fun b => b.1 == name).map (·.2)

/-- A reference at the start of a text: the name, its default and what follows. -/
def reference? (cs : List Char) : Option (String × Option String × List Char) :=
  match cs with
  | '$' :: '\x7b' :: rest =>
    let inName := fun c => !(c == '\x7d' || c == ':')
    let name := String.ofList (rest.takeWhile inName)
    match rest.dropWhile inName with
    | '\x7d' :: after => some (name, none, after)
    | ':' :: '-' :: more =>
      match more.dropWhile (· != '\x7d') with
      | _ :: after => some (name, some (.ofList (more.takeWhile (· != '\x7d'))), after)
      | [] => none
    | _ => none
  | _ => none

/-- A text with its references replaced; the first argument bounds its length. -/
def expand (value : String → Option String → String) : Nat → List Char → List Char
  | 0, cs => cs
  | _, [] => []
  | fuel + 1, c :: cs =>
    match reference? (c :: cs) with
    | some (name, default, rest) => (value name default).toList ++ expand value fuel rest
    | none => c :: expand value fuel cs

/-- The text that a reference stands for: the value that was bound before, nothing if that was bound
without one; else the value in the environment, the default, or nothing. -/
def referenceText (environment : String → Option String) (before : List Binding) (name : String)
    (default : Option String) : String :=
  match find? before name with
  | some bound => bound.getD ""
  | none => ((environment name).orElse fun _ => default).getD ""

/-- Replaces the references of bindings in order, after those that come before. -/
def resolve (environment : String → Option String) (before : List Binding) :
    List Binding → List Binding
  | [] => before
  | (name, value) :: rest =>
    let value := value.map fun v =>
      String.ofList (expand (referenceText environment before) (v.length + 1) v.toList)
    resolve environment (before ++ [(name, value)]) rest

/-- The bindings of a file, with their references replaced. -/
def read (environment : String → Option String) (content : String) : List Binding :=
  resolve environment [] (bindings content)

end Errand.EnvFile
