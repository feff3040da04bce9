import Errand.Text.Octets
import Errand.Text.Printable

/-! # Names in complaints

A program that complains about a name writes the name in quotes. There are three ways to do so: the
quotes of the language that the surroundings speak, the quotes of a shell, and the quotes of a
shell only where a shell needs them. Characters that cannot be printed are written as escapes.

* `Quoting.spoken`, `Quoting.always` and `Quoting.whereNeeded` are the three ways; all of them take
  and give texts of octets. -/

namespace Errand.Host.Quoting

open Text

/-- The escapes that are one letter. -/
def letters : List (Nat × Char) :=
  [(7, 'a'), (8, 'b'), (9, 't'), (10, 'n'), (11, 'v'), (12, 'f'), (13, 'r')]

/-- The escape of a byte. -/
def escaped (b : UInt8) : List Char :=
  match letters.lookup b.toNat with
  | some c => ['\\', c]
  | none =>
    let ds := Nat.toDigits 8 b.toNat
    '\\' :: List.replicate (3 - ds.length) '0' ++ ds

/-- A part of a name: a character that can be printed, or bytes that cannot. -/
inductive Glyph where
  | shown (octets : List Char)
  | hidden (bs : Bytes)

/-- The parts of a name. Where the surroundings know ASCII only, other characters cannot be
printed. -/
def glyphs (unicode : Bool) (name : String) : List Glyph :=
  (Utf8.pieces (Octets.bytesOf name)).map fun
    | .bad run _ => .hidden run
    | .char c =>
      let bs := String.utf8EncodeChar c
      let plain := if unicode then isPrintable c else 32 ≤ c.toNat && c.toNat < 127
      if plain || c == ' ' then .shown (Octets.ofBytes bs) else .hidden bs

/-- The quotes of the surroundings. -/
def spoken (unicode : Bool) (name : String) : String :=
  let (opening, closing) := if unicode then (Octets.ofText "\u2018", Octets.ofText "\u2019")
    else ("'", "'")
  let body := (glyphs unicode name).flatMap fun
    | .hidden bs => bs.flatMap escaped
    | .shown ['\\'] => ['\\', '\\']
    | .shown ['\''] => if unicode then ['\''] else ['\\', '\'']
    | .shown cs => cs
  opening ++ String.ofList body ++ closing

/-- The characters that mean something to a shell wherever they stand. -/
def special : List Char := " !\"$&()*;<=>[^\x60|?\\'".toList

/-- Whether a shell takes a name for something else than itself. -/
def isNeeded (unicode : Bool) (name : String) : Bool :=
  let cs := name.toList
  cs.isEmpty || cs.any special.contains || cs == ['\x7b'] || cs == ['\x7d'] ||
    cs.head? == some '#' || cs.head? == some '~' ||
    (glyphs unicode name).any fun
      | .hidden _ => true
      | .shown _ => false

/-- Whether a name may stand in double quotes as it is. -/
def fitsDouble (unicode : Bool) (name : String) : Bool :=
  let unfit := "!\"$&()*;<=>[^\x60|?\\@".toList
  let cs := name.toList
  cs.contains '\'' && !cs.any unfit.contains &&
    !((cs.drop 1).any fun c => c == '#' || c == '~') &&
    !(cs.any fun c => c == '\x7b' || c == '\x7d') &&
    (glyphs unicode name).all fun
      | .hidden _ => false
      | .shown _ => true

/-- The parts of a name in single quotes; what cannot be printed stands between quotes of its
own. -/
def inSingle : Bool → List Glyph → List Char
  | _, [] => []
  | inEscape, .hidden bs :: rest =>
    (if inEscape then [] else ['\'', '$', '\'']) ++ bs.flatMap escaped ++ inSingle true rest
  | _, .shown ['\''] :: rest => ['\'', '\\', '\''] ++ inSingle false rest
  | inEscape, .shown cs :: rest =>
    (if inEscape then ['\'', '\''] else []) ++ cs ++ inSingle false rest

/-- The quotes of a shell. -/
def always (unicode : Bool) (name : String) : String :=
  if fitsDouble unicode name then "\"" ++ name ++ "\""
  else "'" ++ String.ofList (inSingle false (glyphs unicode name)) ++ "'"

/-- The quotes of a shell where a shell needs them. -/
def whereNeeded (unicode : Bool) (name : String) : String :=
  if isNeeded unicode name then always unicode name else name

/-- A name with escapes for what cannot be printed, for backslashes and for some other
characters. -/
def withEscapes (unicode : Bool) (others : List Char) (name : String) : String :=
  .ofList ((glyphs unicode name).flatMap fun
    | .hidden bs => bs.flatMap escaped
    | .shown [ch] => if ch == '\\' || others.contains ch then ['\\', ch] else [ch]
    | .shown cs => cs)

/-- The quotes of a shell around characters that stay as they are. -/
def plain (unicode : Bool) (name : String) : String :=
  if fitsDouble unicode name then "\"" ++ name ++ "\""
  else
    let escaped := name.toList.flatMap fun ch => if ch == '\'' then "'\\''".toList else [ch]
    "'" ++ .ofList escaped ++ "'"

/-- A name with a question mark for each character that cannot be printed. -/
def masked (unicode : Bool) (name : String) : String :=
  .ofList ((Utf8.pieces (Octets.bytesOf name)).flatMap fun
    | .bad run _ => run.map fun _ => '?'
    | .char c =>
      if c == ' ' || (if unicode then isPrintable c else 32 ≤ c.toNat && c.toNat < 127) then
        Octets.ofBytes (String.utf8EncodeChar c)
      else ['?'])

end Errand.Host.Quoting
