import Errand.Decimal.Conversion
import Errand.Host.Numeral

/-! # Slots of a format

A format is a text with slots in it. A slot says how the argument in it is written: how wide, on
which side, with which sign and zeros, and how precisely. `Slot.fillText`, `Slot.fillWhole` and
`Slot.fillReal` write an argument into a slot. -/

namespace Errand.Host.Printing

/-- How the argument in a slot is written. -/
structure Slot where
  left : Bool := false
  plus : Bool := false
  blank : Bool := false
  alternate : Bool := false
  zeros : Bool := false
  width : Nat := 0
  precision : Option Nat := none
  deriving DecidableEq, Repr

namespace Slot

/-- A slot with one more flag, if the character is one. -/
def withFlag? (s : Slot) : Char → Option Slot
  | '-' => some { s with left := true }
  | '+' => some { s with plus := true }
  | ' ' => some { s with blank := true }
  | '#' => some { s with alternate := true }
  | '0' => some { s with zeros := true }
  | _ => none

/-- A slot of a width; a negative one counts from the other side. -/
def withWidth (s : Slot) (n : Int) : Slot :=
  { s with width := n.natAbs, left := s.left || n < 0 }

/-- A slot of a precision; a negative one is none. -/
def withPrecision (s : Slot) (n : Int) : Slot :=
  { s with precision := if n < 0 then none else some n.toNat }

/-- Characters with blanks beside them. -/
def pad (s : Slot) (cs : List Char) : List Char :=
  let blanks := List.replicate (s.width - cs.length) ' '
  if s.left then cs ++ blanks else blanks ++ cs

/-- A text in a slot, of which the precision says how much is written. -/
def fillText (s : Slot) (cs : List Char) : List Char :=
  s.pad (match s.precision with
    | some n => cs.take n
    | none => cs)

/-- A mark and digits in a slot; zeros may stand between them. -/
def fillMarked (s : Slot) (zeros : Bool) (mark digits : List Char) : List Char :=
  if zeros && !s.left then
    mark ++ List.replicate (s.width - mark.length - digits.length) '0' ++ digits
  else s.pad (mark ++ digits)

/-- The sign of a number. -/
def sign (s : Slot) (negative : Bool) : List Char :=
  if negative then ['-'] else if s.plus then ['+'] else if s.blank then [' '] else []

/-- The digits of a whole number, at least as many as the precision says. -/
def wholeDigits (s : Slot) (base n : Nat) : List Char :=
  let ds := if n = 0 && s.precision == some 0 then [] else Nat.toDigits base n
  List.replicate (s.precision.getD 0 - ds.length) '0' ++ ds

/-- A whole number in a slot, by the letter of the conversion; a negative one without a sign counts
down from the end of the range. -/
def fillWhole (s : Slot) (letter : Char) (n : Int) : List Char :=
  let natural := (n.emod (Nat.pow 2 64)).toNat
  let zeros := s.zeros && s.precision.isNone
  match letter with
  | 'u' => s.fillMarked zeros [] (s.wholeDigits 10 natural)
  | 'o' =>
    let ds := s.wholeDigits 8 natural
    s.fillMarked zeros [] (if s.alternate && ds.head? != some '0' then '0' :: ds else ds)
  | 'x' => s.fillMarked zeros (if s.alternate && natural ≠ 0 then ['0', 'x'] else [])
      (s.wholeDigits 16 natural)
  | 'X' => s.fillMarked zeros (if s.alternate && natural ≠ 0 then ['0', 'X'] else [])
      ((s.wholeDigits 16 natural).map Char.toUpper)
  | _ => s.fillMarked zeros (s.sign (n < 0)) (s.wholeDigits 10 n.natAbs)

/-- The form of a conversion by its letter in small letters. -/
def formOf (letter : Char) : Decimal.Conversion.Form :=
  match letter with
  | 'f' => .fixed
  | 'e' => .scientific
  | 'a' => .binary
  | _ => .general

/-- A number in a slot, by the letter of the conversion. -/
def fillReal (s : Slot) (p : Precision) (letter : Char) (v : Magnitude) : List Char :=
  let capital := letter.isUpper
  let word := fun (negative : Bool) (w : String) =>
    s.pad (s.sign negative ++ if capital then w.toList.map Char.toUpper else w.toList)
  match v with
  | .notNumber => word false "nan"
  | .infinite negative => word negative "inf"
  | .finite d =>
    let layout : Decimal.Conversion.Layout :=
      ⟨formOf letter.toLower, s.precision, s.alternate, capital⟩
    let ds := layout.digits p d
    let sign := s.sign d.negative
    if letter.toLower == 'a' then s.fillMarked s.zeros (sign ++ ds.take 2) (ds.drop 2)
    else s.fillMarked s.zeros sign ds

end Slot

end Errand.Host.Printing
