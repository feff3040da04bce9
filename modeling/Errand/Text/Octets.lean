import Errand.Text.Utf8

/-! # Texts of octets

The names, arguments and contents that programs pass to each other are rows of bytes, and nothing
says that the bytes are characters. A text of octets holds such a row: each of its characters
stands for the byte of that number.

* `Octets.toBytes` and `Octets.ofBytes` go between bytes and octets;
* `Octets.ofText` gives the octets of a text, `Octets.toText` reads them as a text again. -/

namespace Errand.Text.Octets

/-- The octets of bytes. -/
def ofBytes (bs : Bytes) : List Char := bs.map fun b => Char.ofNat b.toNat

/-- The bytes of octets. -/
def toBytes (cs : List Char) : Bytes := cs.map fun c => c.toNat.toUInt8

/-- The octets of a text. -/
def ofText (s : String) : String := .ofList (ofBytes (Utf8.encode s))

/-- The bytes of a text of octets. -/
def bytesOf (s : String) : Bytes := toBytes s.toList

/-- The text that octets are; bytes that are none are replaced. -/
def toText (s : String) : String := Utf8.decodeLossy (bytesOf s)

/-- Octets keep the bytes that they were made of. -/
theorem toBytes_ofBytes (bs : Bytes) : toBytes (ofBytes bs) = bs := by
  have code : ∀ n < 256, (Char.ofNat n).toNat = n := by decide +kernel
  have h : ∀ b : UInt8, (Char.ofNat b.toNat).toNat.toUInt8 = b := fun b => by
    rw [code b.toNat b.toNat_lt]
    simp
  simp [toBytes, ofBytes, Function.comp_def, h]

theorem bytesOf_ofText (s : String) : bytesOf (ofText s) = Utf8.encode s := by
  unfold bytesOf ofText
  rw [String.toList_ofList, toBytes_ofBytes]

example : (ofText "é").toList = ['\xc3', '\xa9'] := by decide +kernel

end Errand.Text.Octets
