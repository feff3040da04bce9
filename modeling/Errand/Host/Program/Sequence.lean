import Errand.Host.Program.Basic

/-! # Sequences of numbers

A sequence has a first number, a step and a last number, of which some may be left out. Its numbers
are printed with as many decimal places as its first number or its step has, or by a format.

`Program.seq` prints a sequence. -/

namespace Errand.Host.Program

namespace Sequence

/-- A number of a sequence: a quotient, the number of its decimal places if they are known, and how
wide it is. -/
structure Term where
  numerator : Int
  denominator : Nat := 1
  places : Option Nat := some 0
  width : Nat := 0
  isInfinite : Bool := false

/-- A number in decimal digits. -/
def ofDecimal (cs : List Char) : Term :=
  let (negative, body) := Numeral.splitSign cs
  let (whole, part, rest) := Numeral.readDigits 10 body
  let (exponent, _) := Numeral.readExponent 'e' rest
  let digits := Numeral.valueOf 10 (whole ++ part)
  let scale := exponent - (part.length : Int)
  let magnitude : Int := match scale with
    | .ofNat k => digits * Nat.pow 10 k
    | .negSucc _ => digits
  let denominator := match scale with
    | .ofNat _ => 1
    | .negSucc k => Nat.pow 10 (k + 1)
  let hasPoint := body.contains '.'
  let width := cs.length - rest.length
  let width : Int := if !hasPoint then width
    else if part.isEmpty then width - 1
    else if whole.isEmpty then width + 1
    else width
  let places : Int := part.length
  let (places, width) :=
    if rest.isEmpty then (places, width)
    else if exponent < 0 then
      (places - exponent, width - exponent + if !hasPoint || part.isEmpty then 1 else 0)
    else
      let left := places - min places exponent
      (left, (if hasPoint && left = 0 && !part.isEmpty then width - 1 else width) + exponent -
        min places exponent)
  { numerator := if negative then -magnitude else magnitude, denominator,
    places := some places.toNat, width := width.toNat }

/-- The number of an argument, or why it is none. -/
def term? (c : Call) (s : String) : Except String Term :=
  let wrong := fun (what : String) => .error ("invalid " ++ what ++ c.quoted s)
  let r := Numeral.readReal .extended s.toList
  let cs := s.toList.dropWhile fun ch => Numeral.isSpace ch || ch == '+'
  if !r.rest.isEmpty || s.isEmpty then wrong "floating point argument: "
  else match r.value with
    | .notNumber => .error ("invalid " ++ c.quoted "not-a-number" ++ " argument: " ++ c.quoted s)
    | .infinite negative => .ok { numerator := if negative then -1 else 1, isInfinite := true }
    | .finite d =>
      if cs.any fun ch => ch == 'x' || ch == 'X' then
        let (n, m) := d.ratio
        let places := if cs.any fun ch => ch == '.' || ch == 'p' then none else some 0
        .ok { numerator := if d.negative then -n else n, denominator := m, places }
      else .ok (ofDecimal cs)

/-- The sum of a number and a multiple of another one. -/
def Term.plus (a b : Term) (times : Nat) : Int × Nat :=
  (a.numerator * b.denominator + times * b.numerator * a.denominator, a.denominator * b.denominator)

/-- Whether a quotient is beyond a number, going by a step. -/
def isBeyond (x : Int × Nat) (isDown : Bool) (last : Term) : Bool :=
  if last.isInfinite then decide (last.numerator < 0) != isDown
  else
    let (a, b) := (x.1 * last.denominator, last.numerator * x.2)
    if isDown then a < b else b < a

/-- How many numbers a sequence has. -/
def count (first step last : Term) : Nat :=
  let isDown := step.numerator < 0
  if isBeyond (first.numerator, first.denominator) isDown last then 0
  else
    let distance := last.numerator * first.denominator - first.numerator * last.denominator
    let scale := first.denominator * last.denominator
    ((distance.natAbs * step.denominator) / (scale * step.numerator.natAbs)) + 1

/-- The parts of a format: what stands before its slot, the slot with its letter, and what stands
behind it. -/
structure Layout where
  before : List Char := []
  slot : Printing.Slot := {}
  letter : Char := 'f'
  after : List Char := []

/-- The text at the head of a format, up to a slot; two marks are one character of it. -/
def readPlain : List Char → List Char × List Char
  | '%' :: '%' :: cs =>
    let (plain, rest) := readPlain cs
    ('%' :: plain, rest)
  | '%' :: cs => ([], '%' :: cs)
  | c :: cs =>
    let (plain, rest) := readPlain cs
    (c :: plain, rest)
  | [] => ([], [])

/-- Reads a format, which must have one slot. -/
def readLayout (c : Call) (s : String) : Except String Layout :=
  let about := "format " ++ c.quoted s ++ " "
  let (before, rest) := readPlain s.toList
  match rest with
  | '%' :: cs =>
    let flags := cs.takeWhile "-+#0 '".toList.contains
    let slot := flags.foldl (fun (s : Printing.Slot) f => (s.withFlag? f).getD s) {}
    let cs := cs.drop flags.length
    let width := cs.takeWhile Char.isDigit
    let slot := if width.isEmpty then slot else slot.withWidth (Numeral.valueOf 10 width)
    let cs := cs.drop width.length
    let (slot, cs) := match cs with
      | '.' :: cs =>
        let ds := cs.takeWhile Char.isDigit
        (slot.withPrecision (Numeral.valueOf 10 ds), cs.drop ds.length)
      | _ => (slot, cs)
    match if cs.head? == some 'L' then cs.drop 1 else cs with
    | [] => .error (about ++ "ends in %")
    | letter :: cs =>
      if !("efgaEFGA".toList.contains letter) then
        .error (about ++ "has unknown %" ++ String.singleton letter ++ " directive")
      else
        let (after, rest) := readPlain cs
        if rest.isEmpty then .ok ⟨before, slot, letter, after⟩
        else .error (about ++ "has too many % directives")
  | _ => .error (about ++ "has no % directive")

/-- A quotient with a number of decimal places, and zeros before it up to a width. -/
def placesText (places width : Nat) (x : Int × Nat) : List Char :=
  let digits := Decimal.Conversion.fixedText x.1.natAbs x.2 places false
  let sign := if x.1 < 0 then ['-'] else []
  sign ++ List.replicate (width - sign.length - digits.length) '0' ++ digits

/-- A quotient by a format. -/
def Layout.text (l : Layout) (x : Int × Nat) : List Char :=
  let v := Precision.extended.nearest (x.1 < 0) x.1.natAbs x.2
  l.before ++ l.slot.fillReal .extended l.letter v.value ++ l.after

/-- How the numbers of a sequence are written if nothing else is said. -/
def usualText (first step last : Term) (isWide : Bool) : Int × Nat → List Char :=
  match first.places, step.places, last.places with
  | some f, some s, some l =>
    let places := max f s
    let first := first.width + (places - f) + if f = 0 && 0 < places then 1 else 0
    let last := last.width + places - l - (if 0 < l && places = 0 then 1 else 0) +
      if l = 0 && 0 < places then 1 else 0
    placesText places (if isWide then max first last else 0)
  | _, _, _ => ({ letter := 'g' } : Layout).text

/-- The most numbers that are printed at once. -/
def countLimit : Nat := 1000000

end Sequence

open Sequence

/-- Prints the numbers of a sequence. -/
def seq (c : Call) : Effect :=
  let flags : List Flag := [⟨'f', "format", .value⟩, ⟨'s', "separator", .value⟩,
    ⟨'w', "equal-width", .nothing⟩]
  let isNegative := fun (a : String) => match a.toList with
    | '-' :: d :: _ => d.isDigit || d == '.'
    | _ => false
  let options := c.arguments.takeWhile fun a => !isNegative a
  let numbers := c.arguments.drop options.length
  let c := { c with arguments := if options.contains "--" then c.arguments
    else options ++ (if numbers.isEmpty then [] else "--" :: numbers) }
  c.withOptionsBy { first := true } flags fun r =>
    let operands := r.operands.filter (· != "--")
    match operands with
    | [] => missingOperand c
    | _ :: _ :: _ :: a :: _ => extraOperand c a
    | _ =>
      let layout : Except String (Option Layout) := match r.value? 'f' with
        | none => .ok none
        | some s => (readLayout c s).map some
      let one : Term := { numerator := 1, width := 1 }
      let read : Except String (Term × Term × Term) := do
        match ← operands.mapM (term? c) with
        | [last] => return (one, one, last)
        | [first, last] => return (first, one, last)
        | first :: step :: last :: _ => return (first, step, last)
        | [] => return (one, one, one)
      match layout with
      | .error text => c.complain text
      | .ok layout =>
        if layout.isSome && r.has 'w' then
          c.misuse "format string may not be specified when printing equal width strings"
        else match read with
          | .error text => c.misuse text
          | .ok (first, step, last) =>
            if step.numerator = 0 then
              c.misuse ("invalid Zero increment value: " ++ c.quoted ((operands[1]?).getD ""))
            else
              let text := match layout with
                | some l => l.text
                | none => usualText first step last (r.has 'w')
              let separator := ((r.value? 's').getD "\n").toList
              let shown := fun (n : Nat) =>
                (List.range n).map fun i => text (first.plus step i)
              let isDown := step.numerator < 0
              if last.isInfinite && decide (last.numerator < 0) == isDown then
                { Effect.print ((shown 1000).flatMap (· ++ separator)) with isEndless := true }
              else match shown (min countLimit (count first step last)) with
                | [] => {}
                | t :: ts => Effect.print (t ++ ts.flatMap (separator ++ ·) ++ ['\n'])

end Errand.Host.Program
