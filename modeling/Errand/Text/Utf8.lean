/-! # UTF-8

Bytes are read by a machine with one state per byte still expected. What it reads is a list of
pieces: a character, or a run of bytes that starts like a character and does not go on as one. A
run is maximal: it ends at the first byte that no character with this beginning can have, and that
byte is read afresh.

* `pieces` reads any bytes; `decodeLossy` writes one replacement character for each bad run;
* `decode?` accepts the bytes that have no bad run and reports the first one otherwise;
* `encode` writes a text. -/

namespace Errand

/-- The bytes of a stream or a file. -/
abbrev Bytes := List UInt8

namespace Text.Utf8

/-- Why a run of bytes is no character. -/
inductive Flaw where
  /-- No character starts with this byte. -/
  | badStart
  /-- The byte after the run cannot go on with it. -/
  | badContinuation
  /-- The bytes end inside a character. -/
  | cutShort
  deriving DecidableEq, Repr

/-- What the reader makes of a stretch of bytes. -/
inductive Piece where
  | char (c : Char)
  | bad (run : Bytes) (flaw : Flaw)
  deriving DecidableEq, Repr

/-- Where the reader stands: between characters, or inside one, with the bytes read of it (the
last one first), the bits they carry, the number of bytes to come and the range of the next. -/
inductive State where
  | between
  | inside (run : Bytes) (bits : Nat) (missing : Nat) (low high : UInt8)
  deriving DecidableEq, Repr

/-- The first byte of a character: how many follow, the range of the next, and the bits that the
first one carries. Overlong forms, surrogates and code points past U+10FFFF are kept out by the
range of the second byte. -/
def lead (b : UInt8) : List Piece × State :=
  if b < 0x80 then ([.char (Char.ofNat b.toNat)], .between)
  else if b < 0xc2 then ([.bad [b] .badStart], .between)
  else if b < 0xe0 then ([], .inside [b] (b.toNat - 0xc0) 1 0x80 0xbf)
  else if b = 0xe0 then ([], .inside [b] 0 2 0xa0 0xbf)
  else if b = 0xed then ([], .inside [b] 13 2 0x80 0x9f)
  else if b < 0xf0 then ([], .inside [b] (b.toNat - 0xe0) 2 0x80 0xbf)
  else if b = 0xf0 then ([], .inside [b] 0 3 0x90 0xbf)
  else if b < 0xf4 then ([], .inside [b] (b.toNat - 0xf0) 3 0x80 0xbf)
  else if b = 0xf4 then ([], .inside [b] 4 3 0x80 0x8f)
  else ([.bad [b] .badStart], .between)

/-- One byte: the pieces that it completes, and where the reader stands after it. -/
def step : State → UInt8 → List Piece × State
  | .between, b => lead b
  | .inside run bits missing low high, b =>
    if low ≤ b ∧ b ≤ high then
      let bits := bits * 64 + (b.toNat - 0x80)
      if missing ≤ 1 then ([.char (Char.ofNat bits)], .between)
      else ([], .inside (b :: run) bits (missing - 1) 0x80 0xbf)
    else
      let (ps, st) := lead b
      (.bad run.reverse .badContinuation :: ps, st)

/-- The pieces that the end of the bytes completes. -/
def atEnd : State → List Piece
  | .between => []
  | .inside run _ _ _ _ => [.bad run.reverse .cutShort]

/-- A reader on its way: the pieces so far, the last one first, and its state. -/
structure Reader where
  done : List Piece := []
  state : State := .between
  deriving DecidableEq, Repr

/-- Reads one more byte. -/
def Reader.push (r : Reader) (b : UInt8) : Reader :=
  let (ps, st) := step r.state b
  ⟨ps.reverse ++ r.done, st⟩

/-- Everything that was read, once no byte follows. -/
def Reader.finish (r : Reader) : List Piece :=
  r.done.reverse ++ atEnd r.state

/-- The bytes as characters and bad runs. -/
def pieces (bs : Bytes) : List Piece :=
  (bs.foldl Reader.push {}).finish

/-- The replacement character, which stands for a bad run. -/
def replacement : Char := '\ufffd'

/-- The character that stands for a piece. -/
def Piece.shown : Piece → Char
  | .char c => c
  | .bad _ _ => replacement

/-- Whether a piece is a character. -/
def Piece.isChar : Piece → Bool
  | .char _ => true
  | .bad _ _ => false

/-- The number of bytes that a piece was read from. -/
def Piece.width : Piece → Nat
  | .char c => c.utf8Size
  | .bad run _ => run.length

/-- The text of any bytes: each bad run becomes one replacement character. -/
def decodeLossy (bs : Bytes) : String :=
  .ofList ((pieces bs).map Piece.shown)

/-- Where and why bytes are not UTF-8: the first bad run and its place. -/
structure Malformed where
  position : Nat
  run : Bytes
  flaw : Flaw
  deriving DecidableEq, Repr

/-- The text of bytes that are UTF-8. -/
def decode? (bs : Bytes) : Except Malformed String :=
  let ps := pieces bs
  match ps.dropWhile Piece.isChar with
  | .bad run flaw :: _ =>
    .error ⟨((ps.takeWhile Piece.isChar).map Piece.width).foldr (· + ·) 0, run, flaw⟩
  | _ => .ok (.ofList (ps.map Piece.shown))

/-- The bytes of a text. -/
def encode (s : String) : Bytes :=
  s.toList.flatMap String.utf8EncodeChar

example : decodeLossy [0x61, 0xe2, 0x82] = "a\ufffd" := by decide +kernel
example : pieces [0xe2, 0x28] = [.bad [0xe2] .badContinuation, .char '('] := by decide +kernel
example : decodeLossy (encode "aé日😀") = "aé日😀" := by decide +kernel

end Text.Utf8

end Errand
