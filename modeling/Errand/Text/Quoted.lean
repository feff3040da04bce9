import Errand.Text.Printable
import Errand.Text.Utf8

/-! # Quoted texts

A text or a string of bytes inside quotes, on one line and with nothing invisible in it: the form
that error texts and lists of values show. Single quotes are used unless the text has a single
quote and no double quote. Controls and unprintable characters are escapes, the shortest that
holds the code point. -/

namespace Errand.Text.Quoted

/-- The lower-case hexadecimal digits of a number, at least `width` of them. -/
def hex (width n : Nat) : List Char :=
  let ds := Nat.toDigits 16 n
  List.replicate (width - ds.length) '0' ++ ds

/-- The quote around a text: single, unless only that one occurs in it. -/
def quoteFor (cs : List Char) : Char :=
  if cs.contains '\'' && !cs.contains '"' then '"' else '\''

/-- One character inside quotes. -/
def encodeChar (quote c : Char) : List Char :=
  if c = quote ∨ c = '\\' then ['\\', c]
  else if c = '\t' then ['\\', 't']
  else if c = '\n' then ['\\', 'n']
  else if c = '\r' then ['\\', 'r']
  else if isPrintable c then [c]
  else if c.toNat < 0x100 then '\\' :: 'x' :: hex 2 c.toNat
  else if c.toNat < 0x10000 then '\\' :: 'u' :: hex 4 c.toNat
  else '\\' :: 'U' :: hex 8 c.toNat

/-- A text in quotes. -/
def encode (s : String) : String :=
  let q := quoteFor s.toList
  .ofList (q :: s.toList.flatMap (encodeChar q) ++ [q])

/-- One byte inside quotes: ASCII shows as itself, any other byte as its number. -/
def encodeByte (quote : Char) (b : UInt8) : List Char :=
  if b < 0x80 then encodeChar quote (Char.ofNat b.toNat) else '\\' :: 'x' :: hex 2 b.toNat

/-- Bytes in quotes, with a `b` in front. -/
def encodeBytes (bs : Bytes) : String :=
  let q := quoteFor (bs.map fun b => Char.ofNat b.toNat)
  .ofList ('b' :: q :: bs.flatMap (encodeByte q) ++ [q])

example : encode "it's" = "\"it's\"" ∧ encode "a\"b'c" = "'a\"b\\'c'" := by decide +kernel
example : encode "a\x00\té\u200b" = "'a\\x00\\té\\u200b'" := by decide +kernel

end Errand.Text.Quoted
