import Errand.Host.Count
import Errand.Host.Program.Basic
import Errand.Host.Program.Sources

/-! # Bytes as letters

Bytes are written in an alphabet of 64 or of 32 letters, each letter for six bits or for five; the
text is filled up to whole groups with a mark.

* `Alphabet.encode` writes bytes, `Alphabet.decode` reads them;
* `Program.encoded` does either. -/

namespace Errand.Host.Program

namespace Encoding

/-- An alphabet: its letters, the bits of a letter, and the letters and bytes of a group. -/
structure Alphabet where
  letters : List Char
  bits : Nat
  groupLetters : Nat
  groupBytes : Nat

/-- The alphabet of 64 letters. -/
def sixtyFour : Alphabet :=
  ⟨"ABCDEFGHIJKLMNOPQRSTUVWXYZabcdefghijklmnopqrstuvwxyz0123456789+/".toList, 6, 4, 3⟩

/-- The alphabet of 32 letters. -/
def thirtyTwo : Alphabet := ⟨"ABCDEFGHIJKLMNOPQRSTUVWXYZ234567".toList, 5, 8, 5⟩

/-- The letters of a group of bytes, filled up with marks. -/
def Alphabet.group (a : Alphabet) (bs : Bytes) : List Char :=
  let missing := a.groupBytes - bs.length
  let n := (bs ++ List.replicate missing 0).foldl (fun (n : Nat) (b : UInt8) => n * 256 + b.toNat) 0
  let base := Nat.pow 2 a.bits
  let used := (8 * bs.length + a.bits - 1) / a.bits
  (List.range a.groupLetters).map fun i =>
    if i < used then
      (a.letters[n / Nat.pow base (a.groupLetters - 1 - i) % base]?).getD '='
    else '='

/-- Bytes in letters; the number bounds the groups. -/
def Alphabet.encode (a : Alphabet) : Nat → Bytes → List Char
  | 0, _ => []
  | fuel + 1, bs =>
    if bs.isEmpty then []
    else a.group (bs.take a.groupBytes) ++ a.encode fuel (bs.drop a.groupBytes)

/-- The bytes of a group of letters, if it is one. What is left of the bits has to be zero. -/
def Alphabet.bytesOf? (a : Alphabet) (cs : List Char) : Option Bytes := do
  let letters := cs.takeWhile (· != '=')
  if cs.length ≠ a.groupLetters || (cs.drop letters.length).any (· != '=') then none
  else
    let values ← letters.mapM fun c => a.letters.findIdx? (· == c)
    let bits := letters.length * a.bits
    let size := bits / 8
    if letters.isEmpty || a.bits ≤ bits - 8 * size then none
    else
      let n := values.foldl (fun n v => n * Nat.pow 2 a.bits + v) 0
      if n % Nat.pow 2 (bits - 8 * size) ≠ 0 then none
      else
        let n := n / Nat.pow 2 (bits - 8 * size)
        return (List.range size).map fun i => UInt8.ofNat (n / Nat.pow 256 (size - 1 - i))

/-- The bytes of letters, and whether all of them could be read; the number bounds the groups. -/
def Alphabet.decode (a : Alphabet) : Nat → List Char → Bytes × Bool
  | 0, _ => ([], true)
  | fuel + 1, cs =>
    if cs.isEmpty then ([], true)
    else
      let group := cs.take a.groupLetters
      match a.bytesOf? group with
      | none =>
        let good := group.takeWhile a.letters.contains
        let filler := List.replicate (a.groupLetters - good.length) '='
        -- The bytes that are whole before the flaw are still written.
        let whole := (good ++ List.replicate (a.groupLetters - good.length) 'A').filterMap fun c =>
          a.letters.findIdx? (· == c)
        let n := whole.foldl (fun n v => n * Nat.pow 2 a.bits + v) 0
        let size := good.length * a.bits / 8
        let bytes := (List.range size).map fun i =>
          UInt8.ofNat (n / Nat.pow 256 (a.groupBytes - 1 - i))
        (if filler.length = a.groupLetters then [] else bytes, false)
      | some bs =>
        let (rest, isWhole) := a.decode fuel (cs.drop a.groupLetters)
        (bs ++ rest, isWhole)

example : sixtyFour.encode 2 [104, 105] = "aGk=".toList := by decide +kernel
example : sixtyFour.decode 2 "aGk=".toList = ([104, 105], true) := by decide +kernel

/-- A text in lines of a width; the number bounds the lines. -/
def wrapped (width : Nat) : Nat → List Char → List Char
  | 0, cs => cs
  | fuel + 1, cs =>
    if width = 0 || cs.isEmpty then cs
    else cs.take width ++ '\n' :: wrapped width fuel (cs.drop width)

end Encoding

open Encoding in
/-- Writes a content in letters, or reads one. -/
def encoded (a : Alphabet) (c : Call) : Effect :=
  let flags : List Flag := [⟨'d', "decode", .nothing⟩, ⟨'i', "ignore-garbage", .nothing⟩,
    ⟨'w', "wrap", .value⟩]
  c.withOptions flags fun r =>
    match (Count.read [] ((r.value? 'w').getD "76").toList), r.operands with
    | .error _, _ => c.complain ("invalid wrap size: " ++ c.quoted ((r.value? 'w').getD ""))
    | _, _ :: extra :: _ => extraOperand c extra
    | .ok width, operands => Sources.each c operands fun _ i =>
      if r.has 'd' then
        let cs := (Text.Octets.ofBytes i.bytes).filter fun ch => ch != '\n' &&
          !(r.has 'i' && ch != '=' && !a.letters.contains ch)
        let (bs, isWhole) := a.decode (cs.length + 1) cs
        (Effect.write bs).andThen (if isWhole then {} else c.complain "invalid input")
      else
        let cs := a.encode (i.bytes.length + 1) i.bytes
        say (.ofList (wrapped width (cs.length + 1) cs))

end Errand.Host.Program
