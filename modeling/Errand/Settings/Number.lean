import Errand.Decimal.Numeral

/-! # Numbers in the texts of settings

A setting that is a number may come as a text of ASCII characters. The rules are laxer than those
of a written numeral: underscores may stand anywhere inside, if no two stand together, and leading
zeros of a whole number swallow underscores of any number.

* `WholeText.read` reads a whole number: the text as it stands if it is a plain one, else what is
  left of it after blanks, a plus, leading zeros, a fraction of zeros and underscores;
* `readDouble?` reads a double: the text between its blanks, else the text without underscores. -/

namespace Errand.Settings

open Text

/-- The characters without underscores; none if an underscore stands at an end or next to
another. -/
def withoutUnderscores? (cs : List Char) : Option (List Char) :=
  let doubled := (cs.zip (cs.drop 1)).any fun (c, d) => c == '_' && d == '_'
  if doubled || cs.head? == some '_' || cs.getLast? == some '_' then none
  else some (cs.filter (· != '_'))

/-- What reading a whole number can lead to. -/
inductive WholeText where
  | value (n : Int)
  | tooLong
  | malformed
  deriving DecidableEq, Repr

namespace WholeText

/-- A plain whole number: an optional minus, then a zero alone or digits that start with another.
The minus counts for the length. A number that is too long is told before what follows it. -/
def ofPlain (cs : List Char) : WholeText :=
  let negative := cs.head? == some '-'
  let body := if negative then cs.drop 1 else cs
  let digits := body.takeWhile Char.isDigit
  if digits.isEmpty then .malformed
  else if digits.head? == some '0' then if body == ['0'] then .value 0 else .malformed
  else if Numeral.digitLimit < digits.length + (if negative then 1 else 0) then .tooLong
  else if digits.length < body.length then .malformed
  else .value (wholeOfDigits negative digits)

/-- What follows leading zeros, of which one stays before a point. Zeros may have underscores
between them, and a minus may come after them. -/
def afterZeros? (last : Char) : List Char → Option (List Char)
  | [] => some [last]
  | c :: cs =>
    if c == '0' || c == '_' then afterZeros? c cs
    else if c.isDigit || c == '-' then some (c :: cs)
    else if c == '.' then some (last :: c :: cs)
    else none

/-- A number without its leading zeros; it starts with a digit, or with a minus and a digit. -/
def withoutZeros? : List Char → Option (List Char)
  | '-' :: cs => (unsigned? cs).map ('-' :: ·)
  | cs => unsigned? cs
where
  /-- The same of a number that does not start with a minus. -/
  unsigned? : List Char → Option (List Char)
    | '0' :: cs => afterZeros? '0' cs
    | c :: cs => if c.isDigit then some (c :: cs) else none
    | [] => none

/-- A number without its point, if zeros alone follow it and at least one. -/
def withoutFraction (cs : List Char) : List Char :=
  let zeros := (cs.dropWhile (· != '.')).drop 1
  if !zeros.isEmpty && zeros.all (· == '0') then cs.takeWhile (· != '.') else cs

/-- A number without its plus, which no minus may follow. -/
def withoutPlus? : List Char → Option (List Char)
  | '+' :: '-' :: _ => none
  | '+' :: cs => some cs
  | cs => some cs

/-- The plain form of a number that is written otherwise. -/
def plainForm? (cs : List Char) : Option (List Char) := do
  let body ← withoutZeros? (← withoutPlus? (trimBy isWhite cs))
  withoutUnderscores? (withoutFraction body)

/-- The whole number in a text. -/
def read (s : String) : WholeText :=
  match ofPlain s.toList with
  | .malformed =>
    match (plainForm? s.toList).map ofPlain with
    | some (.value n) => .value n
    | _ => .malformed
  | r => r

example : read " 1_0.0 " = .value 10 ∧ read "10." = .malformed := by decide +kernel
example : read "0-5" = .value (-5) ∧ read "0__1" = .value 1 ∧ read "1__2" = .malformed := by
  decide +kernel
example : read "-0__1" = .value (-1) ∧ read "-00-3" = .malformed := by decide +kernel
example : read "0_" = .malformed ∧ read "+-1" = .malformed ∧ read "-0.0" = .value 0 := by
  decide +kernel

end WholeText

/-- A double without underscores or blanks: a sign, then digits with a point and an exponent or one
of the words. -/
def doubleOfChars? (cs : List Char) : Option Float :=
  let (negative, rest) := Numeral.splitSign cs
  (Numeral.readUnsigned? negative rest).map Numeral.toDouble

/-- The double in a text. Only a text without blanks may have underscores. -/
def readDouble? (s : String) : Option Float :=
  (doubleOfChars? (trimBy isWhite s.toList)).orElse fun _ => do
    doubleOfChars? (← withoutUnderscores? s.toList)

end Errand.Settings
