import Errand.Value
import Errand.Decimal.Numeral
import Errand.Value.Text

/-! # JSON

Values as JSON texts. A number without a point and an exponent is a whole number; the words `NaN`,
`Infinity` and `-Infinity` are numbers too. Of members with one name the last one counts, at the
place of the first.

* `Json.read` reads a whole text, `Json.write` writes a value in ASCII. -/

namespace Errand.Json

/-- The blanks between tokens. -/
def isGap (c : Char) : Bool := c == ' ' || c == '\t' || c == '\n' || c == '\r'

/-- The rest of a text after its blanks. -/
def skipGap (cs : List Char) : List Char := cs.dropWhile isGap

/-- The value of four hexadecimal digits. -/
def hex4? (a b c d : Char) : Option Nat := do
  let digit := fun (c : Char) =>
    if c.isDigit then some (c.toNat - 48)
    else if 'a' ≤ c && c ≤ 'f' then some (c.toNat - 87)
    else if 'A' ≤ c && c ≤ 'F' then some (c.toNat - 55)
    else none
  return (((← digit a) * 16 + (← digit b)) * 16 + (← digit c)) * 16 + (← digit d)

/-- The character of a code point; a surrogate that is no half of a pair has none of its own. -/
def charOf (n : Nat) : Char :=
  if n.isValidChar then Char.ofNat n else Text.Utf8.replacement

/-- The character that a one-letter escape stands for. -/
def escape? (c : Char) : Option Char :=
  [('"', '"'), ('\\', '\\'), ('/', '/'), ('b', '\x08'), ('f', '\x0c'), ('n', '\n'), ('r', '\r'),
    ('t', '\t')].lookup c

/-- The characters of a string up to its closing quote, the last one first, and what follows. -/
def readString? (done : List Char) : List Char → Option (List Char × List Char)
  | [] => none
  | '"' :: rest => some (done, rest)
  | '\\' :: 'u' :: a :: b :: c :: d :: '\\' :: 'u' :: a' :: b' :: c' :: d' :: rest =>
    match hex4? a b c d, hex4? a' b' c' d' with
    | some hi, some lo =>
      if 0xd800 ≤ hi ∧ hi < 0xdc00 ∧ 0xdc00 ≤ lo ∧ lo < 0xe000 then
        readString? (charOf (0x10000 + (hi - 0xd800) * 0x400 + (lo - 0xdc00)) :: done) rest
      else readString? (charOf hi :: done) ('\\' :: 'u' :: a' :: b' :: c' :: d' :: rest)
    | _, _ => none
  | '\\' :: 'u' :: a :: b :: c :: d :: rest =>
    match hex4? a b c d with
    | some n => readString? (charOf n :: done) rest
    | none => none
  | '\\' :: c :: rest =>
    match escape? c with
    | some e => readString? (e :: done) rest
    | none => none
  | c :: rest => if c.toNat < 0x20 || c == '\\' then none else readString? (c :: done) rest

/-- A number, and what follows it. Whole numbers with more digits than the limit are refused. -/
def readNumber? (limit : Nat) (cs : List Char) : Option (Value × List Char) := do
  let (negative, cs) := match cs with
    | '-' :: rest => (true, rest)
    | _ => (false, cs)
  let whole := match cs with
    | '0' :: _ => ['0']
    | _ => cs.takeWhile Char.isDigit
  if whole.isEmpty then none else
  let rest := cs.drop whole.length
  let (part, rest) := match rest with
    | '.' :: more =>
      let ds := more.takeWhile Char.isDigit
      if ds.isEmpty then ([], rest) else (ds, more.drop ds.length)
    | _ => ([], rest)
  let exponent : Option (Bool × List Char × List Char) := match rest with
    | c :: more =>
      if c == 'e' || c == 'E' then
        let (sign, digits) := Numeral.splitSign more
        let ds := digits.takeWhile Char.isDigit
        if ds.isEmpty then none else some (sign, ds, digits.drop ds.length)
      else none
    | [] => none
  match part, exponent with
  | [], none =>
    if limit < whole.length then none else some (.int (wholeOfDigits negative whole), rest)
  | _, _ =>
    let (down, ds, rest) := exponent.getD (false, [], rest)
    let e : Int := Numeral.natOfDigits ds
    let shift := (if down then -e else e) - part.length
    some (.float (Numeral.finite negative (Numeral.natOfDigits (whole ++ part)) shift).toDouble,
      rest)

/-- The words of the format and their values. -/
def words : List (List Char × Value) :=
  [("null".toList, .null), ("true".toList, .bool true), ("false".toList, .bool false),
    ("NaN".toList, .float (0.0 / 0.0)), ("Infinity".toList, .float (1.0 / 0.0)),
    ("-Infinity".toList, .float (-1.0 / 0.0))]

/-- Why a text is not read. -/
inductive Flaw where
  /-- It is no text of the format. -/
  | malformed
  /-- Values stand deeper in each other than is taken; the innermost one is a list, or else it has
  named members. -/
  | tooDeep (isList : Bool)
  deriving DecidableEq, Repr

/-- How much is read: the digits of a whole number, and how deep values may stand in each other. -/
structure Limits where
  digits : Nat
  depth : Nat

/-- What reading a value leads to: the value, and what follows it. -/
abbrev Step := Except Flaw (Value × List Char)

/-- A step that refuses a text where there is nothing to read. -/
def Step.of (found : Option (Value × List Char)) : Step :=
  (found.map Except.ok).getD (.error .malformed)

mutual

/-- A value, and what follows it. The first argument is how deep values may still stand in it, the
second one bounds the length. -/
def readValue (limits : Limits) (depth : Nat) : Nat → List Char → Step
  | 0, _ => .error .malformed
  | fuel + 1, cs =>
    match words.find? fun w => w.1.isPrefixOf cs with
    | some (w, v) => .ok (v, cs.drop w.length)
    | none =>
      match cs with
      | '"' :: rest =>
        .of ((readString? [] rest).map fun (s, r) => (.text (.ofList s.reverse), r))
      | '[' :: rest =>
        if depth = 0 then .error (.tooDeep true)
        else match skipGap rest with
          | ']' :: after => .ok (.list [], after)
          | start => readMembers limits (depth - 1) fuel [] start
      | '\x7b' :: rest =>
        if depth = 0 then .error (.tooDeep false)
        else match skipGap rest with
          | '\x7d' :: after => .ok (.dict [], after)
          | start => readEntries limits (depth - 1) fuel [] start
      | _ => .of (readNumber? limits.digits cs)

/-- The members of a list after those before it, the last one first. -/
def readMembers (limits : Limits) (depth : Nat) : Nat → List Value → List Char → Step
  | 0, _, _ => .error .malformed
  | fuel + 1, done, cs =>
    match readValue limits depth fuel cs with
    | .error flaw => .error flaw
    | .ok (v, rest) =>
      match skipGap rest with
      | ',' :: more => readMembers limits depth fuel (v :: done) (skipGap more)
      | ']' :: after => .ok (.list (v :: done).reverse, after)
      | _ => .error .malformed

/-- The named members of an object after those before it. -/
def readEntries (limits : Limits) (depth : Nat) :
    Nat → List (String × Value) → List Char → Step
  | 0, _, _ => .error .malformed
  | fuel + 1, done, cs =>
    match cs with
    | '"' :: rest =>
      match readString? [] rest with
      | none => .error .malformed
      | some (key, afterKey) =>
        match skipGap afterKey with
        | ':' :: more =>
          match readValue limits depth fuel (skipGap more) with
          | .error flaw => .error flaw
          | .ok (v, rest) =>
            let done := Value.withEntry done (.ofList key.reverse) v
            match skipGap rest with
            | ',' :: more => readEntries limits depth fuel done (skipGap more)
            | '\x7d' :: after => .ok (.dict done, after)
            | _ => .error .malformed
        | _ => .error .malformed
    | _ => .error .malformed

end

/-- The value of a JSON text. -/
def read (limits : Limits) (s : String) : Except Flaw Value := do
  let cs := s.toList
  let (v, rest) ← readValue limits limits.depth (2 * cs.length + 2) (skipGap cs)
  if (skipGap rest).isEmpty then return v else throw .malformed

/-- The escapes of one letter that are written: the character and the letter. -/
def shortEscapes : List (Char × Char) :=
  [('"', '"'), ('\\', '\\'), ('\n', 'n'), ('\r', 'r'), ('\t', 't'), ('\x0c', 'f'), ('\x08', 'b')]

/-- A code unit of sixteen bits as an escape. -/
def writeUnit (n : Nat) : List Char := '\\' :: 'u' :: Text.Quoted.hex 4 n

/-- A character inside a string, written in ASCII. -/
def writeChar (c : Char) : List Char :=
  match shortEscapes.lookup c with
  | some e => ['\\', e]
  | none =>
    if 0x20 ≤ c.toNat ∧ c.toNat < 0x7f then [c]
    else if c.toNat < 0x10000 then writeUnit c.toNat
    else writeUnit (0xd7c0 + c.toNat / 0x400) ++ writeUnit (0xdc00 + c.toNat % 0x400)

/-- A string with its quotes. -/
def writeString (s : String) : String :=
  .ofList ('"' :: s.toList.flatMap writeChar ++ ['"'])

/-- The style of doubles. -/
def numberStyle : Decimal.Style :=
  { Value.floatStyle with notNumber := "NaN", infinite := "Infinity", minusInfinite := "-Infinity" }

mutual

/-- A value as a JSON text. Bytes and states have no form of their own: bytes are a list of numbers
and a state is its name. -/
def write : Value → String
  | .null => "null"
  | .bool b => if b then "true" else "false"
  | .int n => toString n
  | .float x => Decimal.write numberStyle x
  | .text s => writeString s
  | .bytes bs => "[" ++ ",".intercalate (bs.map fun b => toString b.toNat) ++ "]"
  | .status s => writeString s.name
  | .list xs => "[" ++ writeMembers xs ++ "]"
  | .dict es => "\x7b" ++ writeEntries es ++ "\x7d"

/-- Members with a comma between any two. -/
def writeMembers : List Value → String
  | [] => ""
  | [x] => write x
  | x :: xs => write x ++ "," ++ writeMembers xs

/-- Named members with a comma between any two. -/
def writeEntries : List (String × Value) → String
  | [] => ""
  | [(k, x)] => writeString k ++ ":" ++ write x
  | (k, x) :: es => writeString k ++ ":" ++ write x ++ "," ++ writeEntries es

end

end Errand.Json
