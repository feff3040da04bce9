import Errand.Decimal.Dyadic

/-! # The shortest decimal that reads back

A double stands for every real that rounds to it. `shortest` finds the decimal with the fewest
digits among them, and of two with equally many digits the nearer one; a tie goes to the even last
digit. For each number of digits it tests the two neighbours of the value on that decimal grid, in
exact arithmetic: if any point of the grid rounds to the double, one of its neighbours does.

`Decimal.show` writes such a decimal. A `Style` says from where on an exponent is used and how the
values that are no numbers are spelled. -/

namespace Errand

/-- The positive number `digits · 10 ^ exponent`. -/
structure Decimal where
  digits : Nat
  exponent : Int
  deriving DecidableEq, Repr

namespace Decimal

/-- The number of decimal digits. -/
def digitCount (n : Nat) : Nat := (Nat.toDigits 10 n).length

/-- The place `k` of the leading digit of the quotient: `10 ^ (k - 1) ≤ num / den < 10 ^ k`. -/
def leadingPlace (num den : Nat) : Int :=
  if den ≤ num then digitCount (num / den)
  else 1 - (digitCount ((den + num - 1) / num - 1) : Int)

/-- The quotient `num / den · 10 ^ e` as a quotient of natural numbers. -/
def scaleRatio (num den : Nat) (e : Int) : Nat × Nat :=
  match e with
  | .ofNat e => (num * Nat.pow 10 e, den)
  | .negSucc e => (num, den * Nat.pow 10 (e + 1))

/-- The reals that round to a double, in units of a quarter of its last place: its value is
`4 · mantissa`, and the ends belong to it when its mantissa is even. Below a power of two the
doubles are twice as close. -/
structure Interval where
  low : Nat
  value : Nat
  high : Nat
  closed : Bool

/-- The reals that round to a positive double. -/
def intervalOf (d : Dyadic) : Interval where
  low := if d.mantissa = Nat.pow 2 52 ∧ d.exponent ≠ -1074 then 4 * d.mantissa - 1
    else 4 * d.mantissa - 2
  value := 4 * d.mantissa
  high := 4 * d.mantissa + 2
  closed := d.mantissa % 2 == 0

/-- Whether the number `p / den` lies in the interval. -/
def Interval.holds (i : Interval) (p den : Nat) : Bool :=
  if i.closed then i.low * den ≤ p && p ≤ i.high * den else i.low * den < p && p < i.high * den

/-- The point of the grid of `n` digits that rounds to the double, if there is one. -/
def onGrid? (d : Dyadic) (place : Int) (n : Nat) : Option Decimal :=
  let i := intervalOf d
  let (un, ud) := Dyadic.ratio ⟨false, 1, d.exponent - 2⟩
  let e := place - n
  -- One step of the grid is `gn / gd` quarter units.
  let (gn, gd) := scaleRatio ud un e
  let below := i.value * gd / gn
  let near := i.holds (below * gn) gd
  let far := i.holds ((below + 1) * gn) gd
  let middle := (2 * below + 1) * gn
  let twice := 2 * (i.value * gd)
  if near ∧ (¬ far ∨ twice < middle ∨ (twice = middle ∧ below % 2 = 0)) then some ⟨below, e⟩
  else if far then some ⟨below + 1, e⟩
  else none

/-- The first grid with a hit among those of `n` digits and more; seventeen digits always do. -/
def firstGrid (d : Dyadic) (place : Int) : Nat → Nat → Decimal
  | 0, _ => ⟨0, 0⟩
  | fuel + 1, n => (onGrid? d place n).getD (firstGrid d place fuel (n + 1))

/-- The shortest decimal that reads back as the positive double. -/
def shortest (d : Dyadic) : Decimal :=
  let (num, den) := d.ratio
  firstGrid d (leadingPlace num den) 18 1

/-- How numbers are written. -/
structure Style where
  /-- The least place of the leading digit that is still written positionally, and the largest. -/
  leastPlace : Int
  greatestPlace : Int
  notNumber : String
  infinite : String
  minusInfinite : String

/-- An exponent with its sign and at least two digits. -/
def exponentText (e : Int) : String :=
  (if e < 0 then "-" else "+") ++ (if e.natAbs < 10 then "0" else "") ++ toString e.natAbs

/-- A string of digits with a point after `k` of them, or an exponent where the style asks for one;
a positional number has a digit on either side of its point. -/
def place (style : Style) (ds : List Char) (k : Int) : String :=
  if style.leastPlace ≤ k ∧ k ≤ style.greatestPlace then
    if k ≤ 0 then "0." ++ .ofList (List.replicate k.natAbs '0' ++ ds)
    else
      let whole := ds.take k.toNat
      let part := ds.drop k.toNat
      .ofList (whole ++ List.replicate (k.toNat - whole.length) '0') ++ "." ++
        .ofList (if part.isEmpty then ['0'] else part)
  else
    .ofList (ds.take 1) ++ (if ds.length ≤ 1 then "" else "." ++ .ofList (ds.drop 1)) ++ "e" ++
      exponentText (k - 1)

/-- The digits of a decimal without trailing zeros. -/
def significant (d : Decimal) : List Char :=
  (((Nat.toDigits 10 d.digits).reverse.dropWhile (· == '0'))).reverse

/-- A double, written with the shortest decimal that reads back. -/
def write (style : Style) (x : Float) : String :=
  match Dyadic.ofDouble x with
  | .notNumber => style.notNumber
  | .infinite negative => if negative then style.minusInfinite else style.infinite
  | .finite d =>
    let sign := if d.negative then "-" else ""
    if d.mantissa = 0 then sign ++ place style ['0'] 1
    else
      let s := shortest d
      sign ++ place style s.significant (digitCount s.digits + s.exponent)

end Decimal

end Errand
