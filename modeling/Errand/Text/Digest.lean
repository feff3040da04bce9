import Errand.Text.Utf8

/-! # Digests

A digest is a short row of bytes that stands for a long one. The content is filled up to blocks of
64 bytes, with its length in bits at the end, and each block stirs a state of words of 32 bits.

* `Digest.md5`, `Digest.sha1` and `Digest.sha256` are the digests of bytes;
* `Digest.hex` writes one in digits. -/

namespace Errand.Text.Digest

/-- A word of 32 bits. -/
abbrev Word := UInt32

/-- A word whose bits go around to the left. -/
def rotate (w : Word) (n : UInt32) : Word := (w <<< n) ||| (w >>> (32 - n))

/-- A number in bytes, the last one first. -/
def bytesUp : Nat → Nat → Bytes
  | 0, _ => []
  | k + 1, n => UInt8.ofNat n :: bytesUp k (n / 256)

/-- Content filled up to whole blocks, with its length in bits; the flag tells whether numbers have
their last byte first. -/
def filled (up : Bool) (bs : Bytes) : Bytes :=
  let zeros := (119 - bs.length % 64) % 64
  let size := bytesUp 8 (8 * bs.length)
  bs ++ 128 :: List.replicate zeros 0 ++ if up then size else size.reverse

/-- The words of bytes. -/
def words (up : Bool) : Bytes → List Word
  | a :: b :: c :: d :: rest =>
    let bytes := if up then [d, c, b, a] else [a, b, c, d]
    bytes.foldl (fun (w : Word) x => w * 256 + x.toUInt32) 0 :: words up rest
  | _ => []

/-- The blocks of words; the number bounds them. -/
def blocks : Nat → List Word → List (Array Word)
  | 0, _ => []
  | fuel + 1, ws => if ws.isEmpty then [] else (ws.take 16).toArray :: blocks fuel (ws.drop 16)

/-- The blocks of bytes. -/
def blocksOf (up : Bool) (bs : Bytes) : List (Array Word) :=
  let ws := words up (filled up bs)
  blocks (ws.length / 16 + 1) ws

/-- The bytes of a state. -/
def bytesOf (up : Bool) (state : List Word) : Bytes :=
  state.flatMap fun w =>
    let bs := bytesUp 4 w.toNat
    if up then bs else bs.reverse

/-- A state with another one added, word by word. -/
def added (a b : List Word) : List Word := (a.zip b).map fun (x, y) => x + y

/-! ## Of 128 bits -/

/-- How far the bits of each step go around, four times four steps. -/
def turns : List (List UInt32) :=
  [[7, 12, 17, 22], [5, 9, 14, 20], [4, 11, 16, 23], [6, 10, 15, 21]]

/-- The sines of the first whole numbers, as words. -/
def sines : Array Word :=
  #[0xd76aa478, 0xe8c7b756, 0x242070db, 0xc1bdceee, 0xf57c0faf, 0x4787c62a, 0xa8304613, 0xfd469501,
    0x698098d8, 0x8b44f7af, 0xffff5bb1, 0x895cd7be, 0x6b901122, 0xfd987193, 0xa679438e, 0x49b40821,
    0xf61e2562, 0xc040b340, 0x265e5a51, 0xe9b6c7aa, 0xd62f105d, 0x02441453, 0xd8a1e681, 0xe7d3fbc8,
    0x21e1cde6, 0xc33707d6, 0xf4d50d87, 0x455a14ed, 0xa9e3e905, 0xfcefa3f8, 0x676f02d9, 0x8d2a4c8a,
    0xfffa3942, 0x8771f681, 0x6d9d6122, 0xfde5380c, 0xa4beea44, 0x4bdecfa9, 0xf6bb4b60, 0xbebfbc70,
    0x289b7ec6, 0xeaa127fa, 0xd4ef3085, 0x04881d05, 0xd9d4d039, 0xe6db99e5, 0x1fa27cf8, 0xc4ac5665,
    0xf4292244, 0x432aff97, 0xab9423a7, 0xfc93a039, 0x655b59c3, 0x8f0ccc92, 0xffeff47d, 0x85845dd1,
    0x6fa87e4f, 0xfe2ce6e0, 0xa3014314, 0x4e0811a1, 0xf7537e82, 0xbd3af235, 0x2ad7d2bb, 0xeb86d391]

/-- Stirs a block into a state of four words. -/
def stirMd5 (state : List Word) (block : Array Word) : List Word :=
  let step := fun (s : Word × Word × Word × Word) (i : Nat) =>
    let (a, b, c, d) := s
    let (f, g) := match i / 16 with
      | 0 => ((b &&& c) ||| ((~~~b) &&& d), i)
      | 1 => ((d &&& b) ||| ((~~~d) &&& c), 5 * i + 1)
      | 2 => (b ^^^ c ^^^ d, 3 * i + 5)
      | _ => (c ^^^ (b ||| ~~~d), 7 * i)
    let turn := ((turns[i / 16]?).getD [])[i % 4]?.getD 0
    let sum := f + a + (sines[i]?).getD 0 + (block[g % 16]?).getD 0
    (d, b + rotate sum turn, b, c)
  match state with
  | [a, b, c, d] =>
    let (a', b', c', d') := (List.range 64).foldl step (a, b, c, d)
    added state [a', b', c', d']
  | other => other

/-- The digest of 128 bits. -/
def md5 (bs : Bytes) : Bytes :=
  bytesOf true ((blocksOf true bs).foldl stirMd5 [0x67452301, 0xefcdab89, 0x98badcfe, 0x10325476])

/-! ## Of 160 bits -/

/-- The words of a block, and as many more as there are steps. -/
def extended (count : Nat) (next : Array Word → Nat → Word) (block : Array Word) : Array Word :=
  (List.range (count - 16)).foldl (fun ws i => ws.push (next ws (i + 16))) block

/-- The word at a place. -/
def wordAt (ws : Array Word) (i : Nat) : Word := (ws[i]?).getD 0

/-- Stirs a block into a state of five words. -/
def stirSha1 (state : List Word) (block : Array Word) : List Word :=
  let ws := extended 80 (fun ws i => rotate
    (wordAt ws (i - 3) ^^^ wordAt ws (i - 8) ^^^ wordAt ws (i - 14) ^^^ wordAt ws (i - 16)) 1) block
  let step := fun (s : Word × Word × Word × Word × Word) (i : Nat) =>
    let (a, b, c, d, e) := s
    let (f, k) : Word × Word := match i / 20 with
      | 0 => ((b &&& c) ||| ((~~~b) &&& d), 0x5a827999)
      | 1 => (b ^^^ c ^^^ d, 0x6ed9eba1)
      | 2 => ((b &&& c) ||| (b &&& d) ||| (c &&& d), 0x8f1bbcdc)
      | _ => (b ^^^ c ^^^ d, 0xca62c1d6)
    (rotate a 5 + f + e + k + wordAt ws i, a, rotate b 30, c, d)
  match state with
  | [a, b, c, d, e] =>
    let (a', b', c', d', e') := (List.range 80).foldl step (a, b, c, d, e)
    added state [a', b', c', d', e']
  | other => other

/-- The digest of 160 bits. -/
def sha1 (bs : Bytes) : Bytes :=
  bytesOf false ((blocksOf false bs).foldl stirSha1
    [0x67452301, 0xefcdab89, 0x98badcfe, 0x10325476, 0xc3d2e1f0])

/-! ## Of 256 bits -/

/-- The cube roots of the first prime numbers, as words. -/
def roots : Array Word :=
  #[0x428a2f98, 0x71374491, 0xb5c0fbcf, 0xe9b5dba5, 0x3956c25b, 0x59f111f1, 0x923f82a4, 0xab1c5ed5,
    0xd807aa98, 0x12835b01, 0x243185be, 0x550c7dc3, 0x72be5d74, 0x80deb1fe, 0x9bdc06a7, 0xc19bf174,
    0xe49b69c1, 0xefbe4786, 0x0fc19dc6, 0x240ca1cc, 0x2de92c6f, 0x4a7484aa, 0x5cb0a9dc, 0x76f988da,
    0x983e5152, 0xa831c66d, 0xb00327c8, 0xbf597fc7, 0xc6e00bf3, 0xd5a79147, 0x06ca6351, 0x14292967,
    0x27b70a85, 0x2e1b2138, 0x4d2c6dfc, 0x53380d13, 0x650a7354, 0x766a0abb, 0x81c2c92e, 0x92722c85,
    0xa2bfe8a1, 0xa81a664b, 0xc24b8b70, 0xc76c51a3, 0xd192e819, 0xd6990624, 0xf40e3585, 0x106aa070,
    0x19a4c116, 0x1e376c08, 0x2748774c, 0x34b0bcb5, 0x391c0cb3, 0x4ed8aa4a, 0x5b9cca4f, 0x682e6ff3,
    0x748f82ee, 0x78a5636f, 0x84c87814, 0x8cc70208, 0x90befffa, 0xa4506ceb, 0xbef9a3f7, 0xc67178f2]

/-- Stirs a block into a state of eight words. -/
def stirSha256 (state : List Word) (block : Array Word) : List Word :=
  let turned := fun (w : Word) (x y z : UInt32) => rotate w (32 - x) ^^^ rotate w (32 - y) ^^^
    rotate w (32 - z)
  let ws := extended 64 (fun ws i =>
    let (x, y) := (wordAt ws (i - 15), wordAt ws (i - 2))
    let low := rotate x 25 ^^^ rotate x 14 ^^^ (x >>> 3)
    let high := rotate y 15 ^^^ rotate y 13 ^^^ (y >>> 10)
    wordAt ws (i - 16) + low + wordAt ws (i - 7) + high) block
  let step := fun (s : List Word) (i : Nat) => match s with
    | [a, b, c, d, e, f, g, h] =>
      let first := h + turned e 6 11 25 + ((e &&& f) ^^^ ((~~~e) &&& g)) + (roots[i]?).getD 0 +
        wordAt ws i
      let second := turned a 2 13 22 + ((a &&& b) ^^^ (a &&& c) ^^^ (b &&& c))
      [first + second, a, b, c, d + first, e, f, g]
    | other => other
  added state ((List.range 64).foldl step state)

/-- The digest of 256 bits. -/
def sha256 (bs : Bytes) : Bytes :=
  bytesOf false ((blocksOf false bs).foldl stirSha256
    [0x6a09e667, 0xbb67ae85, 0x3c6ef372, 0xa54ff53a,
      0x510e527f, 0x9b05688c, 0x1f83d9ab, 0x5be0cd19])

/-! ## Remainders -/

/-- The remainder of bytes and their length as a polynomial. -/
def remainder (bs : Bytes) : Nat :=
  let push := fun (crc : Word) (b : UInt8) =>
    (List.range 8).foldl (fun (w : Word) _ =>
      if w &&& 0x80000000 != 0 then (w <<< 1) ^^^ 0x04c11db7 else w <<< 1)
      (crc ^^^ (b.toUInt32 <<< 24))
  let size := bytesUp ((bs.length.log2 / 8) + 1) bs.length
  let size := if bs.isEmpty then [] else size
  (~~~((bs ++ size).foldl push 0)).toNat

/-- A digest in hexadecimal digits. -/
def hex (bs : Bytes) : String :=
  .ofList (bs.flatMap fun b =>
    let digit := fun n => (Nat.toDigits 16 n).headD '0'
    [digit (b.toNat / 16), digit (b.toNat % 16)])

end Errand.Text.Digest
