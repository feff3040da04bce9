import Errand.Decimal.Dyadic

/-! # The nearest binary number

A written number is a quotient of natural numbers, and a binary number has a mantissa of so many
bits and an exponent in a range. `Precision.nearest` gives the binary number that is nearest to a
quotient; of two that are equally near it takes the one with an even mantissa. -/

namespace Errand

/-- A quotient rounded to the nearest whole number, a tie to the even one. -/
def roundEven (n d : Nat) : Nat :=
  let q := n / d
  let r := n % d
  if 2 * r < d then q else if d < 2 * r then q + 1 else q + q % 2

/-- Binary numbers: the bits of a mantissa and the range of the exponent of its last bit. -/
structure Precision where
  bits : Nat
  least : Int
  most : Int
  deriving DecidableEq, Repr

namespace Precision

/-- Numbers of sixty-four bits. -/
def double : Precision := ⟨53, -1074, 971⟩

/-- Numbers of eighty bits. -/
def extended : Precision := ⟨64, -16445, 16320⟩

/-- A rounded number, and whether it is out of the range in which it could be rounded well. -/
structure Rounded where
  value : Magnitude
  outOfRange : Bool := false
  deriving DecidableEq, Repr

/-- The quotient `n / d` divided by `2 ^ e`. -/
def scaled (n d : Nat) (e : Int) : Nat × Nat :=
  match e with
  | .ofNat k => (n, d * Nat.pow 2 k)
  | .negSucc k => (n * Nat.pow 2 (k + 1), d)

/-- The number that is nearest to a quotient. -/
def nearest (p : Precision) (negative : Bool) (n d : Nat) : Rounded :=
  if n = 0 then ⟨.finite ⟨negative, 0, p.least⟩, false⟩
  else
    let e : Int := (Nat.log2 n : Int) - Nat.log2 d - p.bits
    let (a, b) := scaled n d e
    let e := max p.least (if b * Nat.pow 2 p.bits ≤ a then e + 1 else e)
    let (a, b) := scaled n d e
    let m := roundEven a b
    if p.most < e ∨ (p.most = e ∧ Nat.pow 2 p.bits ≤ m) then ⟨.infinite negative, true⟩
    else ⟨.finite ⟨negative, m, e⟩, m < Nat.pow 2 (p.bits - 1) && a % b != 0⟩

end Precision

example : roundEven 5 2 = 2 ∧ roundEven 7 2 = 4 ∧ roundEven 8 3 = 3 := by decide

example : (Precision.double.nearest false 1 10).value =
    .finite ⟨false, 7205759403792794, -56⟩ := by decide +kernel

end Errand
