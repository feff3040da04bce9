import Errand.Host.Program.Basic
import Errand.Text.Regular.Reader

/-! # Formulas in arguments

A formula is a row of arguments: texts, operators between them and a few words for operations on
texts. A text that looks like a whole number counts as one where a number is needed. Operators bind
differently, and of those that bind alike the first one comes first.

`Program.expr` prints the value of a formula. -/

namespace Errand.Host.Program

namespace Formula

/-- The value of a formula. -/
inductive Result where
  | number (n : Int)
  | text (s : String)
  deriving DecidableEq, Repr

/-- A value as a text. -/
def Result.toText : Result → String
  | number n => toString n
  | text s => s

/-- The whole number that a text looks like. -/
def whole? (s : String) : Option Int :=
  let (negative, ds) := match s.toList with
    | '-' :: ds => (true, ds)
    | ds => (false, ds)
  if ds.isEmpty || !ds.all Char.isDigit then none
  else
    let n : Int := Numeral.valueOf 10 ds
    some (if negative then -n else n)

/-- The number that a value is. -/
def Result.toNumber? : Result → Option Int
  | number n => some n
  | text s => whole? s

/-- Whether a value counts as none. -/
def Result.isNull : Result → Bool
  | number n => n == 0
  | text s =>
    let ds := if s.startsWith "-" then s.toList.drop 1 else s.toList
    s.isEmpty || !ds.isEmpty && ds.all (· == '0')

/-- What is left of the arguments, and the last one that was taken. -/
structure Reading where
  last : String := ""
  rest : List String

/-- A step of reading a formula, which may be wrong. -/
abbrev Step := StateT Reading (Except String)

/-- What a formula is read with: how names are quoted, and the characters of the surroundings. -/
structure Setting where
  quoted : String → String
  unicode : Bool

/-- Takes the next argument, whatever it is. -/
def takeAny (s : Setting) : Step String := do
  match (← get).rest with
  | a :: rest =>
    set ({ last := a, rest } : Reading)
    return a
  | [] => throw ("syntax error: missing argument after " ++ s.quoted (← get).last)

/-- Takes the next argument if it is one of some texts. -/
def takeOneOf (texts : List String) : Step (Option String) := do
  match (← get).rest with
  | a :: rest =>
    if texts.contains a then
      set ({ last := a, rest } : Reading)
      return some a
    return none
  | [] => return none

/-- The numbers of the characters of a text. -/
def codes (s : Setting) (t : String) : List Nat :=
  Text.Codes.ofBytes s.unicode (Text.Octets.bytesOf t)

/-- The text of numbers of characters. -/
def textOf (ns : List Nat) : String :=
  .ofList (Text.Octets.ofBytes (Text.Codes.toBytes ns))

/-- What a text has of an expression at its beginning: the first group of it, or how much it is. -/
def matched (s : Setting) (a b : Result) : Step Result := do
  match Text.Regular.read { strict := true } (Text.Octets.toText b.toText) with
  | .error e => throw e
  | .ok (r, _) =>
    let hasGroup := ["\\("].any fun g => 1 < (b.toText.splitOn g).length
    let p : Text.Regular.Point := { rest := codes s a.toText }
    match r.matchAt? p, hasGroup with
    | some q, true => return .text (textOf ((q.groups.lookup 1).getD []))
    | some q, false => return .number q.index
    | none, true => return .text ""
    | none, false => return .number 0

/-- Whether two values are in an order: numbers by size, other texts by their bytes. -/
def compared (operator : String) (a b : Result) : Bool :=
  let (x, y) := (a.toText, b.toText)
  let order := match whole? x, whole? y with
    | some m, some n => compare m n
    | _, _ => if x == y then .eq else if x < y then .lt else .gt
  match operator with
  | "<" => order == .lt
  | "<=" => order != .gt
  | "=" | "==" => order == .eq
  | "!=" => order != .eq
  | ">=" => order != .lt
  | _ => order == .gt

/-- The value of an operator between two numbers. -/
def calculated (operator : String) (a b : Result) : Except String Result := do
  match a.toNumber?, b.toNumber? with
  | some m, some n =>
    match operator with
    | "+" => return .number (m + n)
    | "-" => return .number (m - n)
    | "*" => return .number (m * n)
    | _ =>
      if n = 0 then throw "division by zero"
      return .number (if operator == "/" then m.tdiv n else m.tmod n)
  | _, _ => throw "non-integer argument"

/-- A part of a text: where it begins, counted from one, and how long it is. -/
def part (s : Setting) (a b c : Result) : Result :=
  match b.toNumber?, c.toNumber? with
  | some i, some n =>
    if i ≤ 0 || n ≤ 0 then .text ""
    else .text (textOf (((codes s a.toText).drop (i - 1).toNat).take n.toNat))
  | _, _ => .text ""

/-- The place of the first character of a text that is one of some characters, counted from one. -/
def firstOf (s : Setting) (a b : Result) : Result :=
  let set := codes s b.toText
  match (codes s a.toText).findIdx? set.contains with
  | some i => .number ((i : Int) + 1)
  | none => .number 0

/-- The operators, those that bind least first. -/
def levels : List (List String) :=
  [["|"], ["&"], ["<", "<=", "=", "==", "!=", ">=", ">"], ["+", "-"], ["*", "/", "%"], [":"]]

/-- What an operator does with two values, of which the second one may not be looked at. -/
def applied (s : Setting) (counts : Bool) (operator : String) (a b : Result) : Step Result := do
  match operator with
  | "|" => return if !a.isNull then a else if b.isNull then .number 0 else b
  | "&" => return if a.isNull || b.isNull then .number 0 else a
  | ":" => if counts then matched s a b else return a
  | o =>
    if !counts then return a
    if ["<", "<=", "=", "==", "!=", ">=", ">"].contains o then
      return .number (if compared o a b then 1 else 0)
    calculated o a b

mutual

/-- The value of operators that bind at least as much as a level. Values that do not count are only
read. -/
def level (s : Setting) : Nat → Bool → List (List String) → Step Result
  | 0, _, _ => return .text ""
  | fuel + 1, counts, [] => word s fuel counts
  | fuel + 1, counts, operators :: inner => do
    let a ← level s fuel counts inner
    further s fuel counts operators inner a

/-- The value of the operators of a level after a value. -/
def further (s : Setting) : Nat → Bool → List String → List (List String) → Result → Step Result
  | 0, _, _, _, a => return a
  | fuel + 1, counts, operators, inner, a => do
    match ← takeOneOf operators with
    | none => return a
    | some o =>
      let looksAt := counts && !(o == "|" && !a.isNull) && !(o == "&" && a.isNull)
      let b ← level s fuel looksAt inner
      further s fuel counts operators inner (← applied s counts o a b)

/-- The value of a word with its texts, of a text, or of a formula in parentheses. -/
def word (s : Setting) : Nat → Bool → Step Result
  | 0, _ => return .text ""
  | fuel + 1, counts => do
    match ← takeOneOf ["+", "length", "match", "index", "substr"] with
    | some "+" => return .text (← takeAny s)
    | some "length" =>
      let a ← word s fuel counts
      return .number (codes s a.toText).length
    | some "match" =>
      let a ← word s fuel counts
      let b ← word s fuel counts
      if counts then matched s a b else return a
    | some "index" =>
      let a ← word s fuel counts
      let b ← word s fuel counts
      return firstOf s a b
    | some _ =>
      let a ← word s fuel counts
      let b ← word s fuel counts
      let c ← word s fuel counts
      return part s a b c
    | none =>
      let t ← takeAny s
      if t == ")" then throw "syntax error: unexpected ')'"
      if t != "(" then return .text t
      let a ← level s fuel counts levels
      match (← get).rest with
      | [] => throw ("syntax error: expecting ')' after " ++ s.quoted (← get).last)
      | u :: _ =>
        if (← takeOneOf [")"]).isNone then
          throw ("syntax error: expecting ')' instead of " ++ s.quoted u)
        return a

end

/-- The value of a formula, or what is wrong with it. -/
def value (s : Setting) (arguments : List String) : Except String Result := do
  let (r, left) ← (level s (16 * arguments.length + 16) true levels).run { rest := arguments }
  match left.rest with
  | [] => return r
  | a :: _ => throw ("syntax error: unexpected argument " ++ s.quoted a)

end Formula

/-- Prints the value of a formula. -/
def expr (c : Call) : Effect :=
  let arguments := if c.arguments.head? == some "--" then c.arguments.drop 1 else c.arguments
  if arguments.isEmpty then missingOperand c 2
  else match Formula.value ⟨c.quoted, c.isUnicode⟩ arguments with
    | .ok r => { say (r.toText ++ "\n") with status := if r.isNull then 1 else 0 }
    | .error e => c.complain e 2

end Errand.Host.Program
