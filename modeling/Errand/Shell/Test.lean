import Errand.Host.Files
import Errand.Host.Numeral

/-! # Tests of the shell

A test is a row of arguments: texts, operators before a text or between two texts, and what joins
tests. With few arguments it is clear what they mean; with more of them they are read from left to
right, and what is left over is wrong.

`Test.evaluate` gives the truth of a test, or what is wrong with it. -/

namespace Errand.Shell.Test

open Errand.Host

/-- What a test looks at. -/
structure Surroundings where
  files : Files
  directory : Location

/-- What an argument is. -/
inductive Token where
  | unary (name : String)
  | binary (name : String)
  | negation
  | both
  | either
  | opening
  | closing
  | text
  | finish
  deriving DecidableEq, Repr

/-- The operators before a text. -/
def unaryNames : List String :=
  ["-r", "-w", "-x", "-e", "-f", "-d", "-c", "-b", "-p", "-u", "-g", "-k", "-s", "-t", "-z", "-n",
    "-h", "-L", "-O", "-G", "-S"]

/-- The operators between two texts. -/
def binaryNames : List String :=
  ["=", "!=", "<", ">", "-eq", "-ne", "-ge", "-gt", "-le", "-lt", "-nt", "-ot", "-ef"]

/-- What an argument would be as an operator. -/
def operator? (s : String) : Option Token :=
  if unaryNames.contains s then some (.unary s)
  else if binaryNames.contains s then some (.binary s)
  else match s with
    | "!" => some .negation
    | "-a" => some .both
    | "-o" => some .either
    | "(" => some .opening
    | ")" => some .closing
    | _ => none

/-- Whether an argument is an operator between two texts. -/
def isBinary (s : String) : Bool := binaryNames.contains s

/-- What the first argument is: an operator before a text is one only where a text follows. -/
def token (ts : List String) : Token :=
  match ts with
  | [] => .finish
  | s :: rest =>
    match operator? s with
    | some (.unary name) =>
      match rest with
      | [] => .text
      | [_] => .unary name
      | a :: _ => if isBinary a then .text else .unary name
    | some .opening => if rest.isEmpty then .text else .opening
    | some t => t
    | none => .text

/-- The number of an argument. -/
def numberOf (s : String) : Except String Int :=
  let r := Numeral.readWhole (some 10) s.toList
  if r.outOfRange || r.rest.length = s.length || !(r.rest.all Numeral.isSpace) then
    .error ("Illegal number: " ++ s)
  else .ok r.value

/-- The truth of a test of a file. -/
def checkFile (s : Surroundings) (name path : String) : Bool :=
  let follows := name != "-h" && name != "-L"
  let node : Option Node := (s.files.find? s.directory path follows).toOption.map (·.2)
  match name, node with
  | _, none => false
  | "-d", some n => n.isDirectory
  | "-f", some (.file _ _) | "-f", some (.program _) => true
  | "-s", some (.file content _) => !content.isEmpty
  | "-s", some (.device _) => false
  | "-s", some _ => true
  | "-x", some n => n.isDirectory || n.isExecutable
  | "-h", some (.link _) | "-L", some (.link _) => true
  | "-c", some (.device _) => true
  | _, some _ => ["-e", "-r", "-w", "-O", "-G"].contains name

/-- The truth of an operator before a text. -/
def checkUnary (s : Surroundings) (name a : String) : Except String Bool :=
  match name with
  | "-z" => .ok a.isEmpty
  | "-n" => .ok (!a.isEmpty)
  | "-t" => (numberOf a).map fun _ => false
  | _ => .ok (checkFile s name a)

/-- The truth of an operator between two texts. -/
def checkBinary (s : Surroundings) (name a b : String) : Except String Bool := do
  match name with
  | "=" => return a == b
  | "!=" => return a != b
  | "<" => return a < b
  | ">" => return b < a
  | "-ef" =>
    match s.files.find? s.directory a, s.files.find? s.directory b with
    | .ok m, .ok n => return m.1 == n.1
    | _, _ => return false
  | "-nt" | "-ot" => return false
  | _ =>
    let m ← numberOf a
    let n ← numberOf b
    match name with
    | "-eq" => return m == n
    | "-ne" => return m != n
    | "-ge" => return n ≤ m
    | "-gt" => return n < m
    | "-le" => return m ≤ n
    | _ => return m < n

/-- A truth, and the arguments from the last one on that was used. -/
abbrev Reading := Except String (Bool × List String)

mutual

/-- Tests of which one is to be true. -/
def either (s : Surroundings) : Nat → Token → List String → Reading
  | 0, _, ts => .ok (false, ts)
  | fuel + 1, t, ts => do
    let (a, ts) ← both s fuel t ts
    if token (ts.drop 1) != .either then return (a, ts)
    let (b, ts) ← either s fuel (token (ts.drop 2)) (ts.drop 2)
    return (a || b, ts)

/-- Tests that are all to be true. -/
def both (s : Surroundings) : Nat → Token → List String → Reading
  | 0, _, ts => .ok (false, ts)
  | fuel + 1, t, ts => do
    let (a, ts) ← single s fuel t ts
    if token (ts.drop 1) != .both then return (a, ts)
    let (b, ts) ← both s fuel (token (ts.drop 2)) (ts.drop 2)
    return (a && b, ts)

/-- One test. -/
def single (s : Surroundings) : Nat → Token → List String → Reading
  | 0, _, ts => .ok (false, ts)
  | fuel + 1, t, ts => do
    match t with
    | .negation =>
      let t := token (ts.drop 1)
      let (a, ts) ← single s fuel t (if t == .finish then ts else ts.drop 1)
      return (!a, ts)
    | .finish => return (false, ts)
    | .opening =>
      let ts := ts.drop 1
      let t := token ts
      if t == .closing then return (false, ts)
      let (a, ts) ← either s fuel t ts
      if token (ts.drop 1) != .closing then throw "closing paren expected"
      return (a, ts.drop 1)
    | .unary name =>
      match ts.drop 1 with
      | [] => throw (name ++ ": argument expected")
      | a :: rest => return (← checkUnary s name a, a :: rest)
    | _ =>
      let a := ts.headD ""
      match token (ts.drop 1) with
      | .binary name =>
        match ts.drop 2 with
        | [] => throw (name ++ ": argument expected")
        | b :: rest => return (← checkBinary s name a b, b :: rest)
      | _ => return (!a.isEmpty, ts)

end

/-- The truth of a test, or what is wrong with it. -/
def evaluate (s : Surroundings) (ts : List String) : Except String Bool := do
  if ts.isEmpty then return false
  let isClear := ts.length = 3 && isBinary ((ts[1]?).getD "")
  let isNested := !isClear && (ts.length = 3 || ts.length = 4) && ts.head? == some "(" &&
    ts.getLast? == some ")"
  let isNegated := !isClear && (ts.length = 3 || ts.length = 4) && ts.head? == some "!"
  let ts := if isNested then (ts.drop 1).dropLast else ts
  let first := if isClear then .text else if isNegated && !isNested then .negation else token ts
  let (r, rest) ← either s (ts.length * 4 + 8) first ts
  match rest with
  | a :: _ :: _ => throw (if a.isEmpty then "unexpected operator" else a ++ ": unexpected operator")
  | _ => return r

end Errand.Shell.Test
