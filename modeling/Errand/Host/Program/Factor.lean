import Errand.Host.Program.Basic
import Errand.Host.Program.Sources

/-! # Prime factors

`Program.factor` tells the prime factors of numbers, in order. -/

namespace Errand.Host.Program

/-- The prime factors of a number, from a divisor on; the first number bounds the steps. -/
def factorsFrom : Nat → Nat → Nat → List Nat
  | 0, _, n => [n]
  | fuel + 1, d, n =>
    if n ≤ 1 then []
    else if n < d * d then [n]
    else if n % d = 0 then d :: factorsFrom fuel d (n / d)
    else factorsFrom fuel (if d = 2 then 3 else d + 2) n

/-- A number that is not below the square root of another one. -/
def aboveRoot (n : Nat) : Nat :=
  (List.range (n.log2 + 2)).foldl (fun r _ => (r + n / max r 1 + 1) / 2) n

/-- The prime factors of a number. -/
def factorsOf (n : Nat) : List Nat := factorsFrom (aboveRoot n + n.log2 + 2) 2 n

example : factorsOf 360 = [2, 2, 2, 3, 3, 5] := by decide +kernel

/-- Tells the prime factors of numbers: of the operands, or of the words of the input. -/
def factor (c : Call) : Effect :=
  let flags : List Flag := [⟨'h', "exponents", .nothing⟩]
  c.withOptions flags fun r =>
    let grouped := fun (fs : List Nat) => if r.has 'h' then
        (fs.splitBy (· == ·)).map fun g =>
          toString (g.headD 0) ++ if 1 < g.length then "^" ++ toString g.length else ""
      else fs.map toString
    let line := fun (s : String) =>
      let ds := (s.toList.dropWhile fun ch => ch == ' ' || ch == '+')
      if ds.isEmpty || !ds.all Char.isDigit then
        c.complain (c.quoted s ++ " is not a valid positive integer")
      else
        let n := Numeral.valueOf 10 ds
        say (toString n ++ ":" ++ String.join ((grouped (factorsOf n)).map (" " ++ ·)) ++ "\n")
    if r.operands.isEmpty then
      let words := (((Text.Octets.ofBytes c.input.bytes).map fun ch =>
        if ch == '\n' || ch == '\t' then ' ' else ch).splitOn ' ').filter (!·.isEmpty)
      Sources.reading c [] (Effect.all (words.map fun w => line (.ofList w)))
    else Effect.all (r.operands.map line)

end Errand.Host.Program
