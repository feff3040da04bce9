import Errand.Decimal.Nearest

/-! # Numbers in arguments

Programs read a number at the beginning of an argument: blanks, a sign and as many digits as there
are. What follows is looked at by the program, which may complain about it. A number that is out of
range counts as the nearest one that is in range.

* `Numeral.readWhole` reads a whole number, decimal, octal after a zero or hexadecimal after `0x`;
* `Numeral.readReal` reads a number with a point, an exponent or one of the words for none. -/

namespace Errand.Host.Numeral

/-- The blanks of a terminal: space and the characters from tab to carriage return. -/
def isSpace (c : Char) : Bool := c == ' ' || (9 ≤ c.toNat && c.toNat ≤ 13)

/-- The value of a digit in bases up to 16; another character has the value 16. -/
def digitValue (c : Char) : Nat :=
  if c.isDigit then c.toNat - 48
  else if 'a' ≤ c && c ≤ 'f' then c.toNat - 87
  else if 'A' ≤ c && c ≤ 'F' then c.toNat - 55
  else 16

/-- Whether a character is a digit of a base. -/
def isDigitOf (base : Nat) (c : Char) : Bool := digitValue c < base

/-- The value of digits in a base. -/
def valueOf (base : Nat) (cs : List Char) : Nat :=
  cs.foldl (fun n c => n * base + digitValue c) 0

/-- A number that was read, whether it is out of range, and what follows it. Without a number all
of the text follows. -/
structure Reading (α : Type) where
  value : α
  outOfRange : Bool := false
  rest : List Char

/-- The base of a number without its sign, and its digits with what follows. -/
def baseOf (cs : List Char) : Nat × List Char :=
  match cs with
  | '0' :: x :: d :: rest =>
    if (x == 'x' || x == 'X') && isDigitOf 16 d then (16, d :: rest) else (8, cs)
  | '0' :: _ => (8, cs)
  | _ => (10, cs)

/-- Reads a sign. -/
def splitSign : List Char → Bool × List Char
  | '-' :: cs => (true, cs)
  | '+' :: cs => (false, cs)
  | cs => (false, cs)

/-- Reads a whole number of any size in a base, or in the base that its beginning tells. -/
def readAny (base : Option Nat) (cs : List Char) : Option Int × List Char :=
  let (negative, body) := splitSign (cs.dropWhile isSpace)
  let (base, body) := match base with
    | some b => (b, body)
    | none => baseOf body
  let ds := body.takeWhile (isDigitOf base)
  if ds.isEmpty then (none, cs)
  else
    let n : Int := valueOf base ds
    (some (if negative then -n else n), body.drop ds.length)

/-- The least and the greatest whole number of sixty-four bits with a sign. -/
def leastWhole : Int := -(Nat.pow 2 63 : Int)

/-- The greatest whole number of sixty-four bits with a sign. -/
def greatestWhole : Int := Nat.pow 2 63 - 1

/-- Reads a whole number of sixty-four bits with a sign. -/
def readWhole (base : Option Nat) (cs : List Char) : Reading Int :=
  match readAny base cs with
  | (none, rest) => ⟨0, false, rest⟩
  | (some n, rest) =>
    if n < leastWhole then ⟨leastWhole, true, rest⟩
    else if greatestWhole < n then ⟨greatestWhole, true, rest⟩
    else ⟨n, false, rest⟩

/-- Reads a whole number of sixty-four bits without a sign; a minus counts down from the end of the
range. -/
def readNatural (base : Option Nat) (cs : List Char) : Reading Int :=
  match readAny base cs with
  | (none, rest) => ⟨0, false, rest⟩
  | (some n, rest) =>
    if (Nat.pow 2 64 : Int) ≤ n.natAbs then ⟨Nat.pow 2 64 - 1, true, rest⟩
    else ⟨n.emod (Nat.pow 2 64), false, rest⟩

/-! ## Numbers with a point -/

/-- Whether a text begins with a word in small or capital letters, and what follows. -/
def afterWord? (word : String) (cs : List Char) : Option (List Char) :=
  if (cs.take word.length).map Char.toLower == word.toList then some (cs.drop word.length)
  else none

/-- An exponent after one of two letters, if digits follow it; and what follows. -/
def readExponent (letter : Char) (cs : List Char) : Int × List Char :=
  match cs with
  | c :: rest =>
    let (negative, body) := splitSign rest
    let ds := body.takeWhile Char.isDigit
    if c.toLower == letter && !ds.isEmpty then
      let e : Int := min (valueOf 10 (ds.take 9)) 1000000
      (if negative then -e else e, body.drop ds.length)
    else (0, cs)
  | [] => (0, [])

/-- The digits of a number before and after its point, and what follows. -/
def readDigits (base : Nat) (cs : List Char) : List Char × List Char × List Char :=
  let whole := cs.takeWhile (isDigitOf base)
  match cs.drop whole.length with
  | '.' :: rest =>
    let part := rest.takeWhile (isDigitOf base)
    if whole.isEmpty && part.isEmpty then ([], [], cs) else (whole, part, rest.drop part.length)
  | rest => (whole, [], rest)

/-- The largest power of ten or two that is worked out; the numbers past it are out of range. -/
def powerLimit : Int := 40000

/-- The number of digits times a power of a base, rounded. -/
def powered (p : Precision) (negative : Bool) (n : Nat) (base : Nat) (e : Int) (size : Int) :
    Precision.Rounded :=
  if n = 0 then p.nearest negative 0 1
  else if powerLimit < size then ⟨.infinite negative, true⟩
  else if size < -powerLimit then ⟨.finite ⟨negative, 0, p.least⟩, true⟩
  else match e with
    | .ofNat k => p.nearest negative (n * Nat.pow base k) 1
    | .negSucc k => p.nearest negative n (Nat.pow base (k + 1))

/-- A number of digits with a point and an exponent, in base ten or sixteen. -/
def readFinite (p : Precision) (negative : Bool) (start cs : List Char) : Reading Magnitude :=
  let inHex := match cs with
    | '0' :: x :: rest =>
      if x == 'x' || x == 'X' then
        let (whole, part, after) := readDigits 16 rest
        if whole.isEmpty && part.isEmpty then none else some (whole, part, after)
      else none
    | _ => none
  match inHex with
  | some (whole, part, rest) =>
    let (e, rest) := readExponent 'p' rest
    let e := e - 4 * (part.length : Int)
    let r := powered p negative (valueOf 16 (whole ++ part)) 2 e
      (e + 4 * ((whole ++ part).length : Int))
    ⟨r.value, r.outOfRange, rest⟩
  | none =>
    let (whole, part, rest) := readDigits 10 cs
    if whole.isEmpty && part.isEmpty then ⟨.finite ⟨false, 0, p.least⟩, false, start⟩
    else
      let (e, rest) := readExponent 'e' rest
      let e := e - (part.length : Int)
      let r := powered p negative (valueOf 10 (whole ++ part)) 10 e
        (e + ((whole ++ part).length : Int))
      ⟨r.value, r.outOfRange, rest⟩

/-- Reads a number of a precision. -/
def readReal (p : Precision) (cs : List Char) : Reading Magnitude :=
  let (negative, body) := splitSign (cs.dropWhile isSpace)
  match (afterWord? "infinity" body).or (afterWord? "inf" body) with
  | some rest => ⟨.infinite negative, false, rest⟩
  | none =>
    match afterWord? "nan" body with
    | some rest => ⟨.notNumber, false, rest⟩
    | none => readFinite p negative cs body

example : (readWhole none "0x1g".toList).value = 1 := by decide +kernel
example : (readWhole none "99999999999999999999".toList).value = greatestWhole := by decide +kernel
example : (readReal .double "1e1x".toList).rest = ['x'] := by decide +kernel

end Errand.Host.Numeral
