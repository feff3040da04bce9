import Errand.Shell.Arithmetic
import Errand.Shell.Fields
import Errand.Shell.Variables

/-! # Expansion of words

A word expands to any number of fields. Its places are filled in from left to right: parameters,
results of expressions and what commands write. What was put in outside of quotes is taken apart,
and a field with a wildcard stands for the files that fit it.

* `Expansion.fields` expands the words of a command;
* `Expansion.text` expands a word to one text, `Expansion.pattern` to a pattern. -/

namespace Errand.Shell.Expansion

open Text (Wildcard)

open Errand.Host

/-- How what a command writes is taken in. -/
abbrev Substitute := Command → Run (List Char)

/-- How a part of a word is expanded. -/
structure Manner where
  /-- It is in double quotes. -/
  quoted : Bool := false
  /-- It stands in place of a parameter. -/
  inPlace : Bool := false
  /-- The word is taken apart into fields. -/
  splits : Bool := false
  /-- Homes are put in after colons. -/
  afterColons : Bool := false

/-- The cells of characters. -/
def cellsOf (quoted : Bool) (cs : List Char) : List Cell := cs.map (.char · quoted)

/-- A character in front of stretches. -/
def cons (splitting : Splitting) (cell : Cell) (rest : List Stretch) : List Stretch :=
  match rest with
  | s :: more =>
    if s.splitting == splitting then { s with cells := cell :: s.cells } :: more
    else ⟨splitting, [cell]⟩ :: rest
  | [] => [⟨splitting, [cell]⟩]

/-- Texts that were put in. -/
def inserted (quoted : Bool) (cs : List Char) : List Stretch :=
  [⟨if quoted then .none else .fields, cellsOf quoted cs⟩]

/-! ## Parameters -/

/-- The characters that take fields apart. -/
def separators : Run (List Char) := do
  match ← Run.binding? "IFS" with
  | some v => return (v.value.getD "").toList
  | none => return " \t\n".toList

/-- What stands between parameters, if anything does. -/
def between (name : Char) (m : Manner) : Run (Option Char) := do
  let ifs := (← Run.binding? "IFS").map fun v => (v.value.getD "").toList
  if name == '@' && m.quoted && m.splits then return some Field.boundary
  else if !m.quoted && m.splits then
    return some (if ifs.isSome then Field.boundary else ' ')
  else match ifs with
    | none => return some ' '
    | some cs => return cs.head?

/-- The letters of options in the order in which they are told. -/
def optionLetters : List Char := "pubaCEVvxsnmiIfe".toList

/-- The value of a parameter. -/
def value (name : List Char) (m : Manner) : Run (Option (List Char)) := do
  let p ← Run.process
  let number := fun (n : Nat) => some (toString n).toList
  match name with
  | ['@'] | ['*'] =>
    let mark ← between (name.headD '*') m
    let texts := p.parameters.map String.toList
    return some (match mark with
      | some c => [c].intercalate texts
      | none => texts.flatten)
  | ['#'] => return number p.parameters.length
  | ['?'] => return number p.status
  | ['$'] => return number p.shell
  | ['!'] => return p.lastJob.bind number
  | ['-'] => return some (optionLetters.filter p.options.contains)
  | _ =>
    if name.all Char.isDigit then
      match (Run.digits? (.ofList name)).getD 0 with
      | 0 => return some p.name.toList
      | n + 1 => return (p.parameters[n]?).map String.toList
    else return (← Run.valueOf (.ofList name)).map String.toList

/-- How a parameter is taken apart. -/
def splittingOf (name : List Char) (m : Manner) : Run Splitting := do
  if !m.quoted then return .fields
  if name == ['@'] && !(← Run.process).parameters.isEmpty then return .parameters
  return .none

/-- Refuses a parameter that is not set. -/
def refuse {α : Type} (name : List Char) (text : String) : Run α :=
  Run.fail (String.ofList name ++ ": " ++ text)

/-- A text without the piece at its beginning that fits a pattern. -/
def cutStart (greedy : Bool) (ws : List Wildcard) (cs : List Char) : List Char :=
  let lengths := List.range (cs.length + 1)
  let lengths := if greedy then lengths.reverse else lengths
  match lengths.find? fun n => Wildcard.isMatch ws (cs.take n) with
  | some n => cs.drop n
  | none => cs

/-- A text without the piece at its end that fits a pattern. -/
def cutEnd (greedy : Bool) (ws : List Wildcard) (cs : List Char) : List Char :=
  let lengths := List.range (cs.length + 1)
  let lengths := if greedy then lengths else lengths.reverse
  match lengths.find? fun n => Wildcard.isMatch ws (cs.drop n) with
  | some n => cs.take n
  | none => cs

/-! ## Homes -/

/-- The home of a user, by the list of users. -/
def homeOf? (user : String) : Run (Option String) := do
  match (← Run.machine).files.at? ["etc", "passwd"] with
  | some (.file content _) =>
    let entries := ((String.ofList (Text.Octets.ofBytes content)).splitOn "\n").map (·.splitOn ":")
    return (entries.find? fun e => e.head? == some user).bind fun e => e[5]?
  | _ => return none

/-- The home that a word begins with, and the rest of the word. -/
def home? (m : Manner) (w : Word) : Run (Option (List Char × Word)) := do
  match w with
  | .plain '~' :: rest =>
    let user := (Word.plainHead rest).takeWhile fun c => c != '/' && !(m.afterColons && c == ':')
    let after := rest.drop user.length
    let isWhole := match after with
      | [] => true
      | .plain _ :: _ => true
      | _ => false
    if !isWhole then return none
    let home ← if user.isEmpty then Run.valueOf "HOME" else homeOf? (.ofList user)
    return home.map fun h => (h.toList, after)
  | _ => return none

/-! ## Parts -/

/-- The number of a variable in an expression. -/
def evaluate (text : List Char) : Run (List Char) := do
  let p ← Run.process
  let value := fun name => ((p.bindings.lookup name).bind (·.value)).getD ""
  match Arithmetic.evaluate value text with
  | .ok (n, assigned) =>
    for (name, n) in assigned do Run.assign name (toString n)
    return (toString n).toList
  | .error (.malformed what) =>
    Run.fail ("arithmetic expression: " ++ what ++ ": \"" ++ String.ofList text ++ "\"")
  | .error (.badNumber t) => Run.fail ("Illegal number: " ++ t)
  | .error .trapped => throw (.signalled 8)

/-- The characters of stretches. -/
def charactersOf (ss : List Stretch) : List Char := Field.characters (ss.flatMap (·.cells))

/-- The pattern of stretches. -/
def patternOf (ss : List Stretch) : List Wildcard :=
  Wildcard.ofMarked (Field.marked (ss.flatMap (·.cells)))

/-- How deep words may stand in words. -/
def depthLimit : Nat := 1000

/-- Expands parts from one on. The flags tell whether a home may be put in here, and whether double
quotes are open. -/
def parts (substitute : Substitute) : Nat → Manner → Bool → Bool → Word → Run (List Stretch)
  | 0, _, _, _, _ => return []
  | _ + 1, _, _, _, [] => return []
  | depth + 1, m, atHome, inQuotes, w@(part :: rest) => do
    let go := parts substitute depth m
    match ← if atHome && !inQuotes then home? m w else pure none with
    | some (home, after) => return ⟨.none, cellsOf true home⟩ :: (← go false inQuotes after)
    | none =>
      let here := { m with quoted := m.quoted || inQuotes }
      match part with
      | .plain c =>
        let splitting := if m.inPlace && !m.quoted && !inQuotes then .literal else .none
        return cons splitting (.char c here.quoted)
          (← go (m.afterColons && c == ':') inQuotes rest)
      | .quoted c => return cons .none (.char c true) (← go false inQuotes rest)
      | .quote =>
        match rest with
        | .parameter ['@'] .value false _ :: .quote :: after =>
          if inQuotes then return cons .none .quote (← go false false rest)
          else
            let filled ← parameter substitute depth { m with quoted := true } ['@'] .value false []
            return filled ++ (← go false inQuotes after)
        | _ => return cons .none .quote (← go false (!inQuotes) rest)
      | .parameter name use emptyToo word =>
        let filled ← parameter substitute depth here name use emptyToo word
        return filled ++ (← go false inQuotes rest)
      | .arithmetic expression =>
        let text := charactersOf (← parts substitute depth {} false false expression)
        return inserted here.quoted (← evaluate text) ++ (← go false inQuotes rest)
      | .substitution body =>
        return inserted here.quoted (← substitute body) ++ (← go false inQuotes rest)
where
  /-- What a parameter expands to. -/
  parameter (substitute : Substitute) : Nat → Manner → List Char → Use → Bool → Word →
      Run (List Stretch)
    | 0, _, _, _, _, _ => return []
    | depth + 1, m, name, use, emptyToo, word => do
      if use == .bad then Run.fail "Bad substitution"
      let found ← value name m
      let counts := found.filter fun cs => !(emptyToo && cs.isEmpty)
      let put := fun (cs : List Char) => do
        return [⟨← splittingOf name m, cellsOf m.quoted cs⟩]
      let refuseUnset := fun (_ : Unit) => do
        if counts.isNone && (← Run.hasOption 'u') then refuse name "parameter not set"
      let inPlace := parts substitute depth { m with inPlace := true } true false word
      match use with
      | .default =>
        match counts with
        | some cs => put cs
        | none => inPlace
      | .replaced => if counts.isSome then inPlace else return []
      | .assigned =>
        match counts with
        | some cs => put cs
        | none =>
          let text := charactersOf (← parts substitute depth {} true false word)
          if !isName name then refuse name "bad variable name"
          Run.assign (.ofList name) (.ofList text)
          put text
      | .required =>
        match counts with
        | some cs => put cs
        | none =>
          let text := charactersOf (← parts substitute depth {} true false word)
          if word.isEmpty then
            refuse name (if emptyToo then "parameter not set or null" else "parameter not set")
          else refuse name (.ofList text)
      | .length =>
        refuseUnset ()
        return inserted m.quoted (toString (counts.getD []).length).toList
      | .withoutEnd greedy =>
        refuseUnset ()
        let ws := patternOf (← parts substitute depth {} true false word)
        match counts with
        | some cs => put (cutEnd greedy ws cs)
        | none => return []
      | .withoutStart greedy =>
        refuseUnset ()
        let ws := patternOf (← parts substitute depth {} true false word)
        match counts with
        | some cs => put (cutStart greedy ws cs)
        | none => return []
      | _ =>
        refuseUnset ()
        match counts with
        | some cs => put cs
        | none => return []

/-! ## Files -/

/-- The names of a place that fit a pattern: those that begin with a point only if the pattern
does. -/
def fitting (files : Files) (place : Location) (pattern : List Wildcard.Marked) : List String :=
  let ws := Wildcard.ofMarked pattern
  let wantsPoint := (Wildcard.unescaped pattern).head?.map (·.1) == some '.'
  let names := [".", ".."] ++ files.names place
  names.filter fun n => (wantsPoint || !n.startsWith ".") && Wildcard.isMatch ws n.toList

/-- The paths that a row of patterns stands for, one pattern for each name on the way. -/
def paths (files : Files) (directory : Location) :
    String → List (List Wildcard.Marked) → List String
  | start, [] => [start]
  | start, pattern :: rest =>
    let plain := String.ofList (Wildcard.unescaped pattern |>.map (·.1))
    let isWild := Wildcard.isPattern (Wildcard.ofMarked pattern)
    let slash := if rest.isEmpty then "" else "/"
    let names := if isWild then
        match files.directory? directory (if start.isEmpty then "." else start) with
        | .ok place => (fitting files place pattern).mergeSort fun a b => a ≤ b
        | .error _ => []
      else [plain]
    names.flatMap fun name =>
      let path := start ++ name ++ slash
      let isThere := match files.find? directory (if path.isEmpty then "." else path) false with
        | .ok _ => true
        | .error _ => false
      if name.isEmpty || isThere then paths files directory path rest else []

/-- Parts marked characters at slashes. -/
def atSlashes (cs : List Wildcard.Marked) : List (List Wildcard.Marked) :=
  cs.foldr (fun c parts =>
    if c.1 == '/' then [] :: parts
    else match parts with
      | p :: rest => (c :: p) :: rest
      | [] => [[c]]) [[]]

/-- The texts that a field stands for: files that fit it, or itself. -/
def texts (f : Field) : Run (List String) := do
  let itself := String.ofList (Field.characters f)
  let marked := Field.marked f
  let isWild := marked.any fun c => !c.2 && (c.1 == '*' || c.1 == '?' || c.1 == '[')
  if !isWild || (← Run.hasOption 'f') || !Wildcard.isPattern (Wildcard.ofMarked marked) then
    return [itself]
  let found := paths (← Run.machine).files (← Run.process).directory "" (atSlashes marked)
  return if found.isEmpty then [itself] else found.mergeSort fun a b => a ≤ b

/-! ## Words -/

/-- Expands a word to fields. -/
def field (substitute : Substitute) (w : Word) : Run (List String) := do
  let stretches ← parts substitute depthLimit { splits := true } true false w
  let fields := Field.split (← separators) none stretches
  let ts ← fields.mapM texts
  return ts.flatten

/-- Expands words to fields. -/
def fields (substitute : Substitute) (ws : List Word) : Run (List String) := do
  let ts ← ws.mapM (field substitute)
  return ts.flatten

/-- Expands a word to one text. -/
def text (substitute : Substitute) (w : Word) : Run String := do
  return .ofList (charactersOf (← parts substitute depthLimit {} true false w))

/-- Expands the value that a variable is given. -/
def assigned (substitute : Substitute) (w : Word) : Run String := do
  return .ofList (charactersOf
    (← parts substitute depthLimit { afterColons := true } true false w))

/-- Expands a document, in which no home is put in. -/
def document (substitute : Substitute) (w : Word) : Run String := do
  return .ofList (charactersOf (← parts substitute depthLimit {} false false w))

/-- Expands a word to a pattern. -/
def pattern (substitute : Substitute) (w : Word) : Run (List Wildcard) := do
  return patternOf (← parts substitute depthLimit {} true false w)

end Errand.Shell.Expansion
