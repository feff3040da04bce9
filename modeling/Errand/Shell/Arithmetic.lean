import Errand.Host.Numeral
import Errand.Shell.Command

/-! # Arithmetic of the shell

An expression has whole numbers of sixty-four bits, which go round at their ends, variables, and the
operators of the language that most systems are written in. An operand that does not count is read
but not evaluated: nothing is divided by zero in it, and nothing is assigned.

`Arithmetic.evaluate` evaluates an expression and gives the variables that it has assigned, in
order. -/

namespace Errand.Shell.Arithmetic

open Errand.Host

/-- Why an expression has no value. -/
inductive Problem where
  /-- Something else was expected, or a division has no result. -/
  | malformed (what : String)
  /-- The value of a variable is no number. -/
  | badNumber (text : String)
  /-- A quotient is too large. -/
  | trapped
  deriving DecidableEq, Repr

/-- A token of an expression. -/
inductive Token where
  | number (n : Int)
  | name (s : String)
  | operator (s : String)
  | bad
  deriving DecidableEq, Repr

/-- The operators, the longer ones first. -/
def operators : List String :=
  ["<<=", ">>=", "<<", ">>", "<=", ">=", "==", "!=", "&&", "||", "+=", "-=", "*=", "/=", "%=",
    "&=", "^=", "|=", "+", "-", "*", "/", "%", "<", ">", "=", "!", "~", "&", "^", "|", "?", ":",
    "(", ")"]

/-- The tokens of an expression; after one that is none there are no others. -/
def tokens : Nat → List Char → List Token
  | 0, _ => []
  | _ + 1, [] => []
  | fuel + 1, c :: cs =>
    if c == ' ' || c == '\t' || c == '\n' then tokens fuel cs
    else if c.isDigit then
      let r := Numeral.readWhole none (c :: cs)
      .number r.value :: tokens fuel r.rest
    else if beginsName c then
      let name := (c :: cs).takeWhile inName
      .name (.ofList name) :: tokens fuel ((c :: cs).drop name.length)
    else
      match operators.find? fun o => o.toList.isPrefixOf (c :: cs) with
      | some o => .operator o :: tokens fuel ((c :: cs).drop o.length)
      | none => [.bad]

/-- A number in the range of sixty-four bits with a sign. -/
def wrap (n : Int) : Int := n.bmod (Nat.pow 2 64)

/-- A truth as a number. -/
def ofBool (b : Bool) : Int := if b then 1 else 0

/-- The number of a text: an empty one is zero. -/
def numberOf (text : String) : Except Problem Int :=
  let r := Numeral.readWhole none text.toList
  if r.outOfRange || !(r.rest.all Numeral.isSpace) then .error (.badNumber text) else .ok r.value

/-- The bits of a number. -/
def bits (n : Int) : BitVec 64 := BitVec.ofInt 64 n

/-- A number shifted to the left. -/
def shiftLeft (a b : Int) : Int := wrap (a * (Nat.pow 2 (b.emod 64).toNat : Int))

/-- A number shifted to the right. -/
def shiftRight (a b : Int) : Int := a.fdiv (Nat.pow 2 (b.emod 64).toNat : Int)

/-- The quotient or the remainder of two numbers. -/
def divide (remainder : Bool) (a b : Int) : Except Problem Int :=
  if b = 0 then .error (.malformed "division by zero")
  else if a = Numeral.leastWhole ∧ b = -1 then .error .trapped
  else .ok (if remainder then a.tmod b else a.tdiv b)

/-- The result of an operator with two operands. -/
def operate (o : String) (a b : Int) : Except Problem Int :=
  match o with
  | "*" => .ok (wrap (a * b))
  | "/" => divide false a b
  | "%" => divide true a b
  | "+" => .ok (wrap (a + b))
  | "-" => .ok (wrap (a - b))
  | "<<" => .ok (shiftLeft a b)
  | ">>" => .ok (shiftRight a b)
  | "<" => .ok (ofBool (a < b))
  | "<=" => .ok (ofBool (a ≤ b))
  | ">" => .ok (ofBool (b < a))
  | ">=" => .ok (ofBool (b ≤ a))
  | "==" => .ok (ofBool (a == b))
  | "!=" => .ok (ofBool (a != b))
  | "&" => .ok (bits a &&& bits b).toInt
  | "^" => .ok (bits a ^^^ bits b).toInt
  | _ => .ok (bits a ||| bits b).toInt

/-- How loosely an operator binds its operands; none for one that does not stand between two. -/
def looseness? (o : String) : Option Nat :=
  [("*", 0), ("/", 0), ("%", 0), ("+", 1), ("-", 1), ("<<", 2), (">>", 2), ("<", 3), ("<=", 3),
    (">", 3), (">=", 3), ("==", 4), ("!=", 4), ("&", 5), ("^", 6), ("|", 7)].lookup o

/-- The looseness that no operator has. -/
def loosest : Nat := 8

/-- The operator of an assignment that changes a variable; none for one that does not assign. -/
def assigning? (o : String) : Option (Option String) :=
  if o == "=" then some none
  else if ["+=", "-=", "*=", "/=", "%=", "&=", "^=", "|=", "<<=", ">>="].contains o then
    some (some (String.ofList o.toList.dropLast))
  else none

/-- What was assigned so far, the last one first. -/
abbrev Assigned := List (String × Int)

/-- A value, the tokens after it, and what was assigned. -/
abbrev Reading := Except Problem (Int × List Token × Assigned)

/-- The value of a variable. -/
def lookup (value : String → String) (done : Assigned) (name : String) : Except Problem Int :=
  match done.lookup name with
  | some n => .ok n
  | none => numberOf (value name)

mutual

/-- An expression, which may assign something. -/
def expression (value : String → String) : Nat → Bool → Assigned → List Token → Reading
  | 0, _, _, _ => .error (.malformed "expecting primary")
  | fuel + 1, counts, done, ts =>
    match ts with
    | .name s :: .operator o :: rest =>
      match assigning? o with
      | none => choice value fuel counts done ts
      | some change => do
        let (n, rest, done) ← expression value fuel counts done rest
        if !counts then return (n, rest, done)
        let n ← match change with
          | none => pure n
          | some o => do operate o (← lookup value done s) n
        return (n, rest, (s, n) :: done)
    | _ => choice value fuel counts done ts

/-- An expression that may choose one of two others. -/
def choice (value : String → String) : Nat → Bool → Assigned → List Token → Reading
  | 0, _, _, _ => .error (.malformed "expecting primary")
  | fuel + 1, counts, done, ts => do
    let (a, rest, done) ← either value fuel counts done ts
    match rest with
    | .operator "?" :: rest =>
      let (b, rest, done) ← expression value fuel (counts && a != 0) done rest
      match rest with
      | .operator ":" :: rest =>
        let (c, rest, done) ← choice value fuel (counts && a == 0) done rest
        return (if a != 0 then b else c, rest, done)
      | _ => throw (.malformed "expecting ':'")
    | _ => return (a, rest, done)

/-- Expressions of which one is to be true. -/
def either (value : String → String) : Nat → Bool → Assigned → List Token → Reading
  | 0, _, _, _ => .error (.malformed "expecting primary")
  | fuel + 1, counts, done, ts => do
    let (a, rest, done) ← both value fuel counts done ts
    match rest with
    | .operator "||" :: rest =>
      let (b, rest, done) ← either value fuel (counts && a == 0) done rest
      return (ofBool (a != 0 || b != 0), rest, done)
    | _ => return (a, rest, done)

/-- Expressions that are all to be true. -/
def both (value : String → String) : Nat → Bool → Assigned → List Token → Reading
  | 0, _, _, _ => .error (.malformed "expecting primary")
  | fuel + 1, counts, done, ts => do
    let (a, rest, done) ← operand value fuel counts done ts
    let (a, rest, done) ← chain value fuel counts loosest a done rest
    match rest with
    | .operator "&&" :: rest =>
      let (b, rest, done) ← both value fuel (counts && a != 0) done rest
      return (ofBool (a != 0 && b != 0), rest, done)
    | _ => return (a, rest, done)

/-- The operators after an operand that bind tighter than a limit. -/
def chain (value : String → String) :
    Nat → Bool → Nat → Int → Assigned → List Token → Reading
  | 0, _, _, _, _, _ => .error (.malformed "expecting primary")
  | fuel + 1, counts, limit, a, done, ts =>
    match ts with
    | .operator o :: rest =>
      match looseness? o with
      | none => .ok (a, ts, done)
      | some looseness =>
        if limit ≤ looseness then .ok (a, ts, done)
        else do
          let (b, rest, done) ← operand value fuel counts done rest
          let (b, rest, done) ← chain value fuel counts looseness b done rest
          let n ← if counts then operate o a b else pure b
          chain value fuel counts limit n done rest
    | _ => .ok (a, ts, done)

/-- An operand. -/
def operand (value : String → String) : Nat → Bool → Assigned → List Token → Reading
  | 0, _, _, _ => .error (.malformed "expecting primary")
  | fuel + 1, counts, done, ts =>
    match ts with
    | .number n :: rest => .ok (n, rest, done)
    | .name s :: rest => do
      return (← if counts then lookup value done s else pure 0, rest, done)
    | .operator "+" :: rest => operand value fuel counts done rest
    | .operator "-" :: rest => do
      let (n, rest, done) ← operand value fuel counts done rest
      return (wrap (-n), rest, done)
    | .operator "!" :: rest => do
      let (n, rest, done) ← operand value fuel counts done rest
      return (ofBool (n == 0), rest, done)
    | .operator "~" :: rest => do
      let (n, rest, done) ← operand value fuel counts done rest
      return (-n - 1, rest, done)
    | .operator "(" :: rest => do
      let (n, rest, done) ← expression value fuel counts done rest
      match rest with
      | .operator ")" :: rest => return (n, rest, done)
      | _ => throw (.malformed "expecting ')'")
    | _ => .error (.malformed "expecting primary")

end

/-- Evaluates an expression by the values of variables; what it has assigned comes in order. -/
def evaluate (value : String → String) (text : List Char) : Except Problem (Int × Assigned) := do
  let ts := tokens (text.length + 1) text
  match ← expression value (ts.length * 8 + 8) true [] ts with
  | (n, [], done) => return (n, done.reverse)
  | _ => throw (.malformed "expecting EOF")

example : (evaluate (fun _ => "") "1 || 1/0".toList).toOption = some (1, []) := by
  decide +kernel
example : (evaluate (fun _ => "7") "x += 2 * 3".toList).toOption = some (13, [("x", 13)]) := by
  decide +kernel

end Errand.Shell.Arithmetic
