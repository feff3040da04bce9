/-! # The exact value of a double

A finite double is a whole number times a power of two, `± mantissa · 2 ^ exponent`. Comparing a
double with a whole number, and asking whether it is one, is exact on this form. -/

namespace Errand

/-- The number `± mantissa · 2 ^ exponent`. -/
structure Dyadic where
  negative : Bool
  mantissa : Nat
  exponent : Int
  deriving DecidableEq, Repr

/-- What a double stands for. -/
inductive Magnitude where
  | notNumber
  | infinite (negative : Bool)
  | finite (value : Dyadic)
  deriving DecidableEq, Repr

namespace Dyadic

/-- The fields of the format: one bit of sign, eleven of exponent, fifty-two of fraction. The
least exponent has no implicit leading bit. -/
def ofDouble (x : Float) : Magnitude :=
  let bits := x.toBits.toNat
  let negative := bits / Nat.pow 2 63 == 1
  let e : Nat := bits / Nat.pow 2 52 % 2048
  let fraction := bits % Nat.pow 2 52
  if e = 2047 then
    if fraction = 0 then .infinite negative else .notNumber
  else if e = 0 then .finite ⟨negative, fraction, -1074⟩
  else .finite ⟨negative, Nat.pow 2 52 + fraction, (e : Int) - 1075⟩

/-- The value as a quotient of natural numbers, without its sign. -/
def ratio (d : Dyadic) : Nat × Nat :=
  match d.exponent with
  | .ofNat e => (d.mantissa * Nat.pow 2 e, 1)
  | .negSucc e => (d.mantissa, Nat.pow 2 (e + 1))

/-- The numerator of the value over the denominator of `ratio`, with its sign. -/
def numerator (d : Dyadic) : Int :=
  if d.negative then -(d.ratio.1 : Int) else d.ratio.1

/-- The whole number that the value is, if it is one. -/
def toInt? (d : Dyadic) : Option Int :=
  let (n, den) := d.ratio
  if n % den = 0 then
    some (if d.negative then -((n / den : Nat) : Int) else (n / den : Nat))
  else none

/-- How the value compares with a whole number. -/
def compareInt (d : Dyadic) (n : Int) : Ordering :=
  compare d.numerator (n * d.ratio.2)

end Dyadic

/-- How a double compares with a whole number; a NaN does not. -/
def Magnitude.compareInt? : Magnitude → Int → Option Ordering
  | .notNumber, _ => none
  | .infinite negative, _ => some (if negative then .lt else .gt)
  | .finite d, n => some (d.compareInt n)

/-- The nearest double to a whole number, ties to even; none where that is past the largest. -/
def doubleOfInt? (n : Int) : Option Float :=
  let x := Float.ofNat n.natAbs
  if x.isInf then none else some (if n < 0 then -x else x)

example : (Dyadic.ofDouble 0.5).compareInt? 0 = some .gt := by decide +kernel
example : Dyadic.ofDouble (-6.0) = .finite ⟨true, 6755399441055744, -50⟩ := by decide +kernel

end Errand
