import Errand.Decimal.Nearest

/-! # Forms of numbers

The forms in which a number is printed with a wanted number of digits: with a fixed number of
places, with a power of ten, with whichever of the two is shorter, and with a power of two. Numbers
are rounded from their exact value, a tie to the even digit.

* `Layout.digits` writes the magnitude of a number; the sign and the width are the caller's. -/

namespace Errand.Decimal.Conversion

/-- The forms; each may be written in capitals. -/
inductive Form where
  | fixed
  | scientific
  | general
  | binary
  deriving DecidableEq, Repr

/-- How a number is written: the form, the number of digits that is asked for, and whether the
point and zeros stay where nothing follows them. -/
structure Layout where
  form : Form
  precision : Option Nat := none
  alternate : Bool := false
  capital : Bool := false
  deriving DecidableEq, Repr

/-- Digits with so many of them after a point. -/
def withPlaces (ds : List Char) (places : Nat) (point : Bool) : List Char :=
  let ds := List.replicate (places + 1 - ds.length) '0' ++ ds
  let whole := ds.take (ds.length - places)
  whole ++ if 0 < places || point then '.' :: ds.drop whole.length else []

/-- A quotient with a fixed number of places. -/
def fixedText (n d places : Nat) (point : Bool) : List Char :=
  withPlaces (Nat.toDigits 10 (roundEven (n * Nat.pow 10 places) d)) places point

/-- The quotient divided by a power of ten. -/
def shifted (n d : Nat) (x : Int) : Nat × Nat :=
  match x with
  | .ofNat k => (n, d * Nat.pow 10 k)
  | .negSucc k => (n * Nat.pow 10 (k + 1), d)

/-- The power of ten of the first digit of a quotient. -/
def leadingPower (n d : Nat) : Int :=
  let x : Int := (Nat.toDigits 10 n).length - (Nat.toDigits 10 d).length
  let (a, b) := shifted n d x
  if b ≤ a then x else x - 1

/-- The digits of a quotient, one of them before the point, and the power of ten. -/
def rounded (n d places : Nat) : Nat × Int :=
  if n = 0 then (0, 0)
  else
    let x := leadingPower n d
    let (a, b) := shifted n d (x - places)
    let m := roundEven a b
    if m = Nat.pow 10 (places + 1) then (m / 10, x + 1) else (m, x)

/-- An exponent with a sign and at least two digits. -/
def exponentText (least : Nat) (x : Int) : List Char :=
  let ds := Nat.toDigits 10 x.natAbs
  (if x < 0 then '-' else '+') :: (List.replicate (least - ds.length) '0' ++ ds)

/-- Digits without the zeros at the end of their fraction. -/
def withoutZeros (cs : List Char) : List Char :=
  if cs.contains '.' then
    match cs.reverse.dropWhile (· == '0') with
    | '.' :: rest => rest.reverse
    | rest => rest.reverse
  else cs

/-- A quotient with a power of ten. -/
def scientificText (n d places : Nat) (point : Bool) : List Char × List Char :=
  let (m, x) := rounded n d places
  (withPlaces (Nat.toDigits 10 m) places point, 'e' :: exponentText 2 x)

/-- A quotient in the shorter form; so many digits count. -/
def generalText (n d digits : Nat) (alternate : Bool) : List Char :=
  let digits := max 1 digits
  let (_, x) := rounded n d (digits - 1)
  let keep := fun cs => if alternate then cs else withoutZeros cs
  if x < -4 || (digits : Int) ≤ x then
    let (m, e) := scientificText n d (digits - 1) alternate
    keep m ++ e
  else keep (fixedText n d ((digits : Int) - 1 - x).toNat alternate)

/-- The digits of a mantissa in base sixteen, of which the first holds so many bits, and the power
of two. -/
def binaryText (p : Precision) (v : Dyadic) (precision : Option Nat) (point : Bool) :
    List Char :=
  let leadBits := if p.bits % 4 = 0 then 4 else p.bits % 4
  let places := (p.bits - leadBits) / 4
  let isSmall := v.mantissa < Nat.pow 2 (p.bits - 1)
  let up := if isSmall && v.exponent = p.least then 0 else p.bits - 1 - Nat.log2 v.mantissa
  let m := v.mantissa * Nat.pow 2 up
  let x : Int := if v.mantissa = 0 then 0 else v.exponent - up + 4 * places
  let (m, places') := match precision with
    | some k =>
      if k < places then (roundEven m (Nat.pow 16 (places - k)), k)
      else (m * Nat.pow 16 (k - places), k)
    | none => (m, places)
  let ds := Nat.toDigits 16 m
  let cs := withPlaces ds places' point
  let cs := if precision.isNone then
      (if point then cs else withoutZeros cs) else cs
  '0' :: 'x' :: cs ++ 'p' :: exponentText 1 x

/-- The digits of the magnitude of a number of a precision. -/
def Layout.digits (s : Layout) (p : Precision) (v : Dyadic) : List Char :=
  let (n, d) := v.ratio
  let wanted := s.precision.getD 6
  let cs := match s.form with
    | .fixed => fixedText n d wanted s.alternate
    | .scientific =>
      let (m, e) := scientificText n d wanted s.alternate
      m ++ e
    | .general => generalText n d wanted s.alternate
    | .binary => binaryText p v s.precision s.alternate
  if s.capital then cs.map Char.toUpper else cs

example : fixedText 314159 100000 2 false = "3.14".toList := by decide +kernel
example : generalText 100000 1 6 false = "100000".toList := by decide +kernel
example : generalText 1 100000 6 false = "1e-05".toList := by decide +kernel
example : (scientificText 12345 10 2 false).1 = "1.23".toList := by decide +kernel

end Errand.Decimal.Conversion
