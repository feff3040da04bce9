import Errand.Host.Numeral
import Errand.Host.Options

/-! # Conditions

A program that tests something is told by its arguments what: texts, operators before a text or
between two texts, negations, and what joins conditions. Up to four arguments mean what their number
says; more of them are read from left to right.

`Program.condition` gives the truth of a condition, or what is wrong with it. -/

namespace Errand.Host.Program

namespace Condition

/-- The operators between two texts. -/
def binaryNames : List String :=
  ["=", "==", "!=", "<", ">", "-eq", "-ne", "-lt", "-le", "-gt", "-ge", "-nt", "-ot", "-ef"]

/-- What is read of arguments: a truth, and the arguments that are left; or what is wrong. -/
abbrev Reading := Except String (Bool × List String)

/-- The complaint about arguments that end too early, by the last of them all. -/
def missing (c : Call) (all : List String) : String :=
  "missing argument after " ++ c.quoted (all.getLastD "")

/-- A whole number of any size. -/
def whole (c : Call) (s : String) : Except String Int :=
  match Numeral.readAny (some 10) s.toList with
  | (some n, rest) =>
    if rest.all Numeral.isSpace then .ok n else .error ("invalid integer " ++ c.quoted s)
  | (none, _) => .error ("invalid integer " ++ c.quoted s)

/-- The truth of an operator between two numbers. -/
def compareWhole (name : String) (m n : Int) : Bool :=
  match name with
  | "-eq" => m == n
  | "-ne" => m != n
  | "-lt" => m < n
  | "-le" => m ≤ n
  | "-gt" => n < m
  | _ => n ≤ m

/-- The truth of an operator between two texts. -/
def binary (c : Call) (name a b : String) : Except String Bool := do
  match name with
  | "=" | "==" => return a == b
  | "!=" => return a != b
  | "<" => return a < b
  | ">" => return b < a
  | "-ef" =>
    match c.files.find? c.directory a, c.files.find? c.directory b with
    | .ok m, .ok n => return m.1 == n.1
    | _, _ => return false
  | "-nt" | "-ot" => return false
  | _ => return compareWhole name (← whole c a) (← whole c b)

/-- The letters of the tests of a file. -/
def fileLetters : List Char := "abcdefgGhkLNOprsSuwx".toList

/-- The truth of a test of a file. -/
def file (c : Call) (letter : Char) (path : String) : Bool :=
  let follows := letter != 'h' && letter != 'L'
  match (c.files.find? c.directory path follows).toOption.map (·.2) with
  | none => false
  | some node =>
    match letter, node with
    | 'd', n => n.isDirectory
    | 'f', .file _ _ | 'f', .program _ => true
    | 's', .file content _ => !content.isEmpty
    | 's', .device _ => false
    | 'x', n => n.isDirectory || n.isExecutable
    | 'h', .link _ | 'L', .link _ => true
    | 'c', .device _ => true
    | _, _ => "aeGOrsw".toList.contains letter

/-- The truth of an operator before a text. -/
def unary (c : Call) (all : List String) (name : String) (rest : List String) : Reading := do
  match name.toList with
  | ['-', letter] =>
    let a := rest.headD ""
    let known := fileLetters ++ ['t', 'n', 'z']
    if !known.contains letter then throw (c.quoted name ++ ": unary operator expected")
    if rest.isEmpty then throw (missing c all)
    let truth ← match letter with
      | 'n' => pure (!a.isEmpty)
      | 'z' => pure a.isEmpty
      | 't' => (whole c a).map fun _ => false
      | _ => pure (file c letter a)
    return (truth, rest.drop 1)
  | _ => throw (missing c all)

/-- Whether an argument looks like an operator before a text. -/
def isUnary (s : String) : Bool := s.startsWith "-" && s.length = 2

/-- The number of arguments inside parentheses, of which the opening one is gone. -/
def nestedCount (ts : List String) : Nat :=
  let inside := (ts.drop 1).takeWhile (· != ")")
  if inside.length < 3 || inside.length = 3 && inside.length + 1 < ts.length then inside.length + 1
  else ts.length

mutual

/-- Conditions of which one is to be true. -/
def either (c : Call) (all : List String) : Nat → List String → Reading
  | 0, ts => .ok (false, ts)
  | fuel + 1, ts => do
    let (a, ts) ← both c all fuel ts
    match ts with
    | "-o" :: rest =>
      let (b, ts) ← either c all fuel rest
      return (a || b, ts)
    | _ => return (a, ts)

/-- Conditions that are all to be true. -/
def both (c : Call) (all : List String) : Nat → List String → Reading
  | 0, ts => .ok (false, ts)
  | fuel + 1, ts => do
    let (a, ts) ← term c all fuel ts
    match ts with
    | "-a" :: rest =>
      let (b, ts) ← both c all fuel rest
      return (a && b, ts)
    | _ => return (a, ts)

/-- One condition. -/
def term (c : Call) (all : List String) : Nat → List String → Reading
  | 0, ts => .ok (false, ts)
  | fuel + 1, ts => do
    match ts with
    | [] => throw (missing c all)
    | "!" :: rest =>
      if rest.isEmpty then throw (missing c all)
      let (a, ts) ← term c all fuel rest
      return (!a, ts)
    | "(" :: rest =>
      if rest.isEmpty then throw (missing c all)
      let (a, ts) ← counted c all fuel (nestedCount rest) rest
      match ts with
      | [] => throw (c.quoted ")" ++ " expected")
      | ")" :: ts => return (a, ts)
      | t :: _ => throw (c.quoted ")" ++ " expected, found " ++ c.quoted t)
    | "-l" :: a :: op :: b :: rest =>
      if binaryNames.contains op then
        return (← binary c op (toString a.length) b, rest)
      else if binaryNames.contains a then return (← binary c a "-l" op, b :: rest)
      else unary c all "-l" (a :: op :: b :: rest)
    | a :: op :: b :: rest =>
      if binaryNames.contains op then return (← binary c op a b, rest)
      else if isUnary a then unary c all a (op :: b :: rest)
      else return (!a.isEmpty, op :: b :: rest)
    | a :: rest =>
      if isUnary a then unary c all a rest else return (!a.isEmpty, rest)

/-- A condition of so many arguments. -/
def counted (c : Call) (all : List String) : Nat → Nat → List String → Reading
  | 0, _, ts => .ok (false, ts)
  | fuel + 1, n, ts => do
    match n, ts with
    | 1, a :: rest => return (!a.isEmpty, rest)
    | 2, a :: b :: rest =>
      if a == "!" then return (b.isEmpty, rest)
      else if isUnary a then unary c all a (b :: rest)
      else throw (missing c all)
    | 3, a :: op :: b :: rest =>
      if binaryNames.contains op then return (← binary c op a b, rest)
      else if a == "!" then
        let (r, ts) ← counted c all fuel 2 (op :: b :: rest)
        return (!r, ts)
      else if a == "(" && b == ")" then return (!op.isEmpty, rest)
      else if op == "-a" || op == "-o" then either c all fuel ts
      else throw (c.quoted op ++ ": binary operator expected")
    | 4, "!" :: rest =>
      let (r, ts) ← counted c all fuel 3 rest
      return (!r, ts)
    | 4, "(" :: a :: b :: ")" :: rest =>
      let (r, _) ← counted c all fuel 2 [a, b]
      return (r, rest)
    | _, ts => either c all fuel ts

end

/-- The truth of a condition, or what is wrong with it. -/
def truth (c : Call) (ts : List String) : Except String Bool := do
  if ts.isEmpty then return false
  let (r, rest) ← counted c ts (ts.length * 4 + 8) ts.length ts
  match rest with
  | [] => return r
  | a :: _ => throw ("extra argument " ++ c.quoted a)

end Condition

/-- Tests something; under the name of a bracket, the last argument closes it. -/
def condition (isBracket : Bool) (c : Call) : Effect :=
  if isBracket && c.arguments.getLast? != some "]" then
    c.complain ("missing " ++ c.quoted "]") 2
  else
    match Condition.truth c (if isBracket then c.arguments.dropLast else c.arguments) with
    | .ok b => { status := if b then 0 else 1 }
    | .error text => c.complain text 2

end Errand.Host.Program
