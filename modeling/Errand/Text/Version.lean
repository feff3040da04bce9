import Errand.Text.Octets

/-! # Names with versions

A name may have numbers in it that count as a whole, so that the ninth of something comes before the
tenth; and it may have endings that count only if nothing else tells two names apart.

* `Version.compare` is the order of such names. -/

namespace Errand.Text.Version

/-- The rank of a byte outside numbers; the end of a text comes before all but a tilde. -/
def rank (b : Option UInt8) : Int :=
  match b with
  | none => -1
  | some b =>
    let c := Char.ofNat b.toNat
    if c.isDigit then 0 else if c.isAlpha && b < 128 then b.toNat
    else if c == '~' then -2 else b.toNat + 256

/-- Two texts of bytes by their first difference. -/
def compareBytes (a b : Bytes) : Ordering :=
  if a == b then .eq else if a < b then .lt else .gt

/-- Compares two texts whose numbers count as a whole; the number bounds the parts. -/
def compareParts : Nat → Bytes → Bytes → Ordering
  | 0, _, _ => .eq
  | fuel + 1, a, b =>
    let isDigit := fun (b : UInt8) => 48 ≤ b && b ≤ 57
    if a.isEmpty && b.isEmpty then .eq
    else if (a.head?.map (!isDigit ·)).getD false || (b.head?.map (!isDigit ·)).getD false then
      (Ord.compare (rank a.head?) (rank b.head?)).then
        (compareParts fuel (a.drop 1) (b.drop 1))
    else
      let (a, b) := (a.dropWhile (· == 48), b.dropWhile (· == 48))
      let (m, n) := (a.takeWhile isDigit, b.takeWhile isDigit)
      (Ord.compare m.length n.length).then ((compareBytes m n).then
        (compareParts fuel (a.drop m.length) (b.drop n.length)))

/-- A name without the endings that begin with a point and a letter. -/
def withoutEndings (bs : Bytes) : Bytes :=
  let isLetter := fun (b : UInt8) => (Char.ofNat b.toNat).isAlpha && b < 128 || b == 126
  let isEnding := fun (part : Bytes) => match part with
    | b :: rest => isLetter b && rest.all fun b => isLetter b || 48 ≤ b && b ≤ 57
    | [] => false
  match bs.splitOn 46 with
  | first :: rest =>
    let kept := (rest.reverse.dropWhile isEnding).reverse
    ([46] : Bytes).intercalate (first :: kept)
  | [] => []

/-- The order of two names that may have versions in them. Nothing comes first, then the names that
begin with a point. -/
def compare (a b : Bytes) : Ordering :=
  let kind := fun (n : Bytes) => match n with
    | [] => 0
    | [46] => 1
    | [46, 46] => 2
    | 46 :: _ => 3
    | _ => (4 : Nat)
  let fuel := a.length + b.length + 1
  (Ord.compare (kind a) (kind b)).then
    ((compareParts fuel (withoutEndings a) (withoutEndings b)).then (compareParts fuel a b))

example : compare [97, 57] [97, 49, 48] = .lt ∧ compare [126] [] = .gt := by decide +kernel

end Errand.Text.Version
