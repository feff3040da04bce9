import Errand.Decimal.Dyadic
import Errand.Text.Blank

/-! # Reading numbers

The written form of a number: an optional sign, then digits with at most one point and an optional
exponent, or one of the words `inf`, `infinity` and `nan` in any case. A single underscore may
stand between two digits. White space around a number does not count.

* `Numeral.ofText?` reads a number, `readWhole?` a whole number; both take digits of any script;
* `Numeral.toDouble` is the nearest double to a number. -/

namespace Errand

open Text

/-- A number as it is written: `digits · 10 ^ exponent` with its sign, or one of the words. -/
inductive Numeral where
  | notNumber
  | infinite (negative : Bool)
  | finite (negative : Bool) (digits : Nat) (exponent : Int)
  deriving DecidableEq, Repr

namespace Numeral

/-- The most digits that a whole number may have to be read. -/
def digitLimit : Nat := 4300

/-- The value of a string of ASCII digits. -/
def natOfDigits (ds : List Char) : Nat :=
  ds.foldl (fun n c => n * 10 + (c.toNat - 48)) 0

/-- The characters without the underscores between two digits; none if an underscore stands
elsewhere. The first argument is the character before. -/
def dropUnderscores (before : Char) : List Char → Option (List Char)
  | [] => if before == '_' then none else some []
  | c :: cs =>
    if c == '_' then if before.isDigit then dropUnderscores '_' cs else none
    else if before == '_' && !c.isDigit then none
    else (dropUnderscores c cs).map (c :: ·)

/-- A sign, if there is one, and the rest. -/
def splitSign : List Char → Bool × List Char
  | '-' :: cs => (true, cs)
  | '+' :: cs => (false, cs)
  | cs => (false, cs)

/-- An exponent `e±digits` that is the whole rest of a number. -/
def readExponent? : List Char → Option Int
  | [] => some 0
  | c :: cs =>
    let (negative, ds) := splitSign cs
    if (c == 'e' || c == 'E') && !ds.isEmpty && ds.all Char.isDigit then
      some (if negative then -(natOfDigits ds : Int) else natOfDigits ds)
    else none

/-- A number without its sign: digits, a point and digits, an exponent. -/
def readUnsigned? (negative : Bool) (cs : List Char) : Option Numeral :=
  let word := String.ofList (cs.map Char.toLower)
  if word == "nan" then some .notNumber
  else if word == "inf" || word == "infinity" then some (.infinite negative)
  else
    let whole := cs.takeWhile Char.isDigit
    let rest := cs.dropWhile Char.isDigit
    let (part, rest) := match rest with
      | '.' :: more => (more.takeWhile Char.isDigit, more.dropWhile Char.isDigit)
      | _ => ([], rest)
    if whole.isEmpty && part.isEmpty then none
    else (readExponent? rest).map fun e =>
      .finite negative (natOfDigits (whole ++ part)) (e - part.length)

/-- A number written in ASCII, without blanks around it. -/
def ofChars? (cs : List Char) : Option Numeral := do
  let (negative, rest) := splitSign (← dropUnderscores ' ' cs)
  readUnsigned? negative rest

/-- The characters with the digits of every script written in ASCII. -/
def asciiDigits (cs : List Char) : List Char :=
  cs.map fun c => match digitValue? c with
    | some d => Char.ofNat (48 + d)
    | none => c

/-- A number whose digits may be of any script. -/
def ofText? (s : String) : Option Numeral :=
  ofChars? (asciiDigits (trimBy isWhite s.toList))

/-- The nearest double to a number, ties to even; numbers past the largest become infinite. The
size of the number is looked at first, so an exponent of any length is no work. -/
def toDouble : Numeral → Float
  | .notNumber => 0.0 / 0.0
  | .infinite negative => if negative then -1.0 / 0.0 else 1.0 / 0.0
  | .finite negative digits exponent =>
    let places : Int := (Nat.toDigits 10 digits).length + exponent
    let size : Float :=
      if digits = 0 ∨ places < -400 then 0.0
      else if 400 < places then 1.0 / 0.0
      else if exponent < 0 then Float.ofScientific digits true exponent.natAbs
      else Float.ofScientific digits false exponent.natAbs
    if negative then -size else size

end Numeral

/-- The digits of a whole number with an optional sign, written in ASCII. -/
def wholeDigits? (cs : List Char) : Option (Bool × List Char) := do
  let (negative, ds) := Numeral.splitSign cs
  let ds ← Numeral.dropUnderscores ' ' ds
  if ds.isEmpty || !ds.all Char.isDigit then none else some (negative, ds)

/-- The whole number with these digits. -/
def wholeOfDigits (negative : Bool) (ds : List Char) : Int :=
  if negative then -(Numeral.natOfDigits ds : Int) else Numeral.natOfDigits ds

/-- A whole number whose digits may be of any script; longer ones than the limit are refused. -/
def readWhole? (s : String) : Option Int := do
  let (negative, ds) ← wholeDigits? (Numeral.asciiDigits (trimBy isWhite s.toList))
  if Numeral.digitLimit < ds.length then none else some (wholeOfDigits negative ds)

example : Numeral.ofText? "+.5e+2" = some (.finite false 5 1) := by decide +kernel
example : readWhole? "１_2" = some 12 ∧ readWhole? "1__2" = none := by decide +kernel

end Errand
