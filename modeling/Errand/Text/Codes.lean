import Errand.Text.Utf8

/-! # Bytes as numbers of characters

Bytes are read as characters, and each character is known by its number. Bytes that are no character
get numbers past those of all characters, so that nothing is lost. Where the surroundings know ASCII
only, every other byte is such a one.

* `Codes.ofBytes` and `Codes.toBytes` go between bytes and numbers;
* `Codes.isAlphabetic` and the others tell which characters belong to a class. -/

namespace Errand.Text.Codes

/-- The first number that stands for a byte that is no character. -/
def firstByte : Nat := 0x110000

/-- The number of a byte that is no character. -/
def ofByte (b : UInt8) : Nat := if b < 128 then b.toNat else firstByte + b.toNat

/-- The numbers of bytes. -/
def ofBytes (unicode : Bool) (bs : Bytes) : List Nat :=
  if unicode then (Utf8.pieces bs).flatMap fun
    | .bad run _ => run.map ofByte
    | .char c => [c.toNat]
  else bs.map ofByte

/-- The bytes that numbers stand for. -/
def toBytes (ns : List Nat) : Bytes :=
  ns.flatMap fun n =>
    if n < firstByte then String.utf8EncodeChar (Char.ofNat n) else [(n - firstByte).toUInt8]

/-- Whether a number stands for a character. -/
def isCharacter (n : Nat) : Bool := n < firstByte

/-- Whether a number is in a range. -/
def within (low high n : Nat) : Bool := low ≤ n && n ≤ high

/-- Digits. -/
def isDigit : Nat → Bool := within 48 57

/-- Rows of small letters whose capital ones stand as far before them: the first and the last small
letter, the distance, and the step from one small letter to the next. -/
def smallRows : List (Nat × Nat × Nat × Nat) :=
  [(97, 122, 32, 1), (0xe0, 0xf6, 32, 1), (0xf8, 0xfe, 32, 1), (0x101, 0x137, 1, 2),
    (0x13a, 0x148, 1, 2), (0x14b, 0x177, 1, 2), (0x17a, 0x17e, 1, 2), (0x3ac, 0x3ac, 38, 1),
    (0x3ad, 0x3af, 37, 1), (0x3b1, 0x3c1, 32, 1), (0x3c3, 0x3cb, 32, 1), (0x3cc, 0x3cc, 64, 1),
    (0x3cd, 0x3ce, 63, 1), (0x430, 0x44f, 32, 1), (0x450, 0x45f, 80, 1), (0x461, 0x481, 1, 2),
    (0x48b, 0x4bf, 1, 2), (0x4d1, 0x52f, 1, 2)]

/-- A letter as a capital one. -/
def toUpper (n : Nat) : Nat :=
  match smallRows.find? fun (low, high, _, step) => within low high n && (n - low) % step = 0 with
  | some (_, _, distance, _) => n - distance
  | none => n

/-- A letter as a small one. -/
def toLower (n : Nat) : Nat :=
  match smallRows.find? fun (low, high, distance, step) =>
      within low high (n + distance) && (n + distance - low) % step = 0 with
  | some (_, _, distance, _) => n + distance
  | none => n

/-- Small letters. -/
def isLower (n : Nat) : Bool := toUpper n != n

/-- Capital letters. -/
def isUpper (n : Nat) : Bool := toLower n != n

/-- A letter in the other case. -/
def otherCase (n : Nat) : Nat := if isLower n then toUpper n else toLower n

/-- Ranges of characters past ASCII that are no letters: signs, blanks and pictures. -/
def signRanges : List (Nat × Nat) :=
  [(0x80, 0xa9), (0xab, 0xb4), (0xb6, 0xb9), (0xbb, 0xbf), (0xd7, 0xd7), (0xf7, 0xf7),
    (0x1680, 0x1680), (0x2000, 0x2070), (0x2074, 0x207e), (0x2080, 0x208e), (0x20a0, 0x20cf),
    (0x2190, 0x245f), (0x2500, 0x2bff), (0x2e00, 0x3004), (0x3008, 0x3020), (0x3030, 0x3030),
    (0xe000, 0xf8ff), (0xfe00, 0xfe6f), (0xff01, 0xff0f), (0xff1a, 0xff20), (0xff3b, 0xff40),
    (0xff5b, 0xff65), (0xfff9, 0xffff), (0x1f000, 0x1faff)]

/-- Whether a number lies in one of some ranges. -/
def isIn (ranges : List (Nat × Nat)) (n : Nat) : Bool := ranges.any fun r => within r.1 r.2 n

/-- Letters. -/
def isAlphabetic (n : Nat) : Bool :=
  if n < 128 then within 97 122 n || within 65 90 n else isCharacter n && !isIn signRanges n

/-- Letters and digits. -/
def isAlphanumeric (n : Nat) : Bool := isAlphabetic n || isDigit n

/-- What words are made of. -/
def isWord (n : Nat) : Bool := isAlphanumeric n || n == 95

/-- Blanks inside of lines. -/
def isBlank (n : Nat) : Bool :=
  n == 32 || n == 9 || isIn [(0x1680, 0x1680), (0x2000, 0x2006), (0x2008, 0x200a), (0x205f, 0x205f),
    (0x3000, 0x3000)] n

/-- Blanks and ends of lines. -/
def isSpace (n : Nat) : Bool := isBlank n || within 9 13 n || within 0x2028 0x2029 n

/-- Whether a character is shown. -/
def isShown (n : Nat) : Bool :=
  within 33 126 n || 0xa0 ≤ n && isCharacter n && !isSpace n && !within 0xe000 0xf8ff n

/-- Characters that are shown and are neither letters nor digits. -/
def isPunctuation (n : Nat) : Bool := isShown n && !isAlphanumeric n

/-- The classes that have a name. -/
def classNamed? (name : String) : Option (Nat → Bool) :=
  match name with
  | "alnum" => some isAlphanumeric
  | "alpha" => some isAlphabetic
  | "blank" => some isBlank
  | "cntrl" => some fun n => n < 32 || within 127 159 n || within 0x2028 0x2029 n
  | "digit" => some isDigit
  | "graph" => some isShown
  | "lower" => some isLower
  | "print" => some fun n => isShown n || isBlank n && n != 9
  | "punct" => some isPunctuation
  | "space" => some isSpace
  | "upper" => some isUpper
  | "xdigit" => some fun n => isDigit n || within 65 70 n || within 97 102 n
  | _ => none

end Errand.Text.Codes
