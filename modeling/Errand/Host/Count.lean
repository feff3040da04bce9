import Errand.Host.Numeral

/-! # Counts in arguments

A count is a number of lines, bytes or columns that an option asks for. Letters after its digits may
multiply it. What is no count, or one that no program can count to, is a flaw.

* `Count.read` reads a count with units. -/

namespace Errand.Host

/-- What is wrong with a count. -/
inductive Count.Flaw where
  | unreadable
  | tooLarge
  | outOfRange
  deriving DecidableEq, Repr

namespace Count

/-- What is told about a count after it. -/
def Flaw.reason : Flaw → String
  | .unreadable => ""
  | .tooLarge => ": Value too large for defined data type"
  | .outOfRange => ": Numerical result out of range"

/-- Units, by the letters for them. -/
abbrev Units := List (String × Nat)

/-- The units of what a program shows. -/
def sizes : Units :=
  let units := ["K", "M", "G", "T", "P", "E", "Z", "Y", "R", "Q"]
  [("b", 512), ("k", 1024), ("m", 1048576), ("kB", 1000)] ++
    (units.zip (List.range 10)).flatMap fun (u, i) =>
      [(u, Nat.pow 1024 (i + 1)), (u ++ "iB", Nat.pow 1024 (i + 1)),
        (u ++ "B", Nat.pow 1000 (i + 1))]

/-- The greatest count of sixty-four bits. -/
def greatest : Nat := Nat.pow 2 64 - 1

/-- Reads a count with units. A unit alone counts once. -/
def read (units : Units) (cs : List Char) (most : Nat := greatest) : Except Flaw Nat :=
  let cs := cs.dropWhile Numeral.isSpace
  let cs := match cs with
    | '+' :: d :: _ => if d.isDigit then cs.drop 1 else cs
    | _ => cs
  let ds := cs.takeWhile Char.isDigit
  let letters := String.ofList (cs.drop ds.length)
  if ds.isEmpty && letters.isEmpty then .error .unreadable
  else
    let n := if ds.isEmpty then 1 else Numeral.valueOf 10 ds
    match if letters.isEmpty then some 1 else units.lookup letters with
    | none => .error .unreadable
    | some m => if most < n * m then .error .tooLarge else .ok (n * m)

/-- Reads a count that has a least one. -/
def readFrom (least most : Nat) (cs : List Char) : Except Flaw Nat := do
  let n ← read [] cs most
  if n < least then throw .outOfRange else return n

example : (read sizes "2kB".toList).toOption = some 2000 := by decide +kernel
example : (read [] "18446744073709551616".toList).toOption = none := by decide +kernel

end Count

end Errand.Host
