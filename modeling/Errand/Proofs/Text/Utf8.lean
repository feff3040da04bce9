import Errand.Text.Utf8
import Mathlib.Data.List.TakeWhile
import Mathlib.Tactic.SplitIfs

/-! # Reading what was written

The bytes of a character bring a reader that stands between characters to where it stands after
that character (`foldl_push_utf8EncodeChar`), whichever of the four widths it has. Reading the
bytes of a text is therefore reading that text, whatever bytes follow
(`decodeLossy_encode_append`). -/

namespace Errand.Text.Utf8

/-! ### One byte -/

theorem lead_one {n : Nat} (h : n < 0x80) :
    lead (UInt8.ofNat n) = ([.char (Char.ofNat n)], .between) := by
  have hn : (UInt8.ofNat n).toNat = n := UInt8.toNat_ofNat_of_lt' (show _ < 256 by omega)
  unfold lead
  simp only [UInt8.lt_iff_toNat_lt, hn, UInt8.reduceToNat]
  rw [if_pos h]

theorem lead_two {n : Nat} (h : 0xc2 ≤ n) (h' : n < 0xe0) :
    lead (UInt8.ofNat n) = ([], .inside [UInt8.ofNat n] (n - 0xc0) 1 0x80 0xbf) := by
  have hn : (UInt8.ofNat n).toNat = n := UInt8.toNat_ofNat_of_lt' (show _ < 256 by omega)
  unfold lead
  simp only [UInt8.lt_iff_toNat_lt, hn, UInt8.reduceToNat]
  rw [if_neg (by omega), if_neg (by omega), if_pos h']

/-- Where a reader stands after the first of three bytes: it expects the second one. -/
theorem lead_three {n m : Nat} (h : 0xe0 ≤ n) (h' : n < 0xf0) (hm : 0x80 ≤ m) (hm' : m ≤ 0xbf)
    (hlow : n = 0xe0 → 0xa0 ≤ m) (hhigh : n = 0xed → m ≤ 0x9f) :
    ∃ low high : UInt8, low.toNat ≤ m ∧ m ≤ high.toNat ∧
      lead (UInt8.ofNat n) = ([], .inside [UInt8.ofNat n] (n - 0xe0) 2 low high) := by
  have hn : (UInt8.ofNat n).toNat = n := UInt8.toNat_ofNat_of_lt' (show _ < 256 by omega)
  unfold lead
  simp only [UInt8.lt_iff_toNat_lt, ← UInt8.toNat_inj, hn, UInt8.reduceToNat]
  rw [if_neg (by omega), if_neg (by omega), if_neg (by omega)]
  split_ifs with h1 h2
  · subst h1; exact ⟨0xa0, 0xbf, hlow rfl, hm', rfl⟩
  · subst h2; exact ⟨0x80, 0x9f, hm, hhigh rfl, rfl⟩
  · exact ⟨0x80, 0xbf, hm, hm', rfl⟩

/-- Where a reader stands after the first of four bytes: it expects the second one. -/
theorem lead_four {n m : Nat} (h : 0xf0 ≤ n) (h' : n ≤ 0xf4) (hm : 0x80 ≤ m) (hm' : m ≤ 0xbf)
    (hlow : n = 0xf0 → 0x90 ≤ m) (hhigh : n = 0xf4 → m ≤ 0x8f) :
    ∃ low high : UInt8, low.toNat ≤ m ∧ m ≤ high.toNat ∧
      lead (UInt8.ofNat n) = ([], .inside [UInt8.ofNat n] (n - 0xf0) 3 low high) := by
  have hn : (UInt8.ofNat n).toNat = n := UInt8.toNat_ofNat_of_lt' (show _ < 256 by omega)
  unfold lead
  simp only [UInt8.lt_iff_toNat_lt, ← UInt8.toNat_inj, hn, UInt8.reduceToNat]
  rw [if_neg (by omega), if_neg (by omega), if_neg (by omega), if_neg (by omega),
    if_neg (by omega), if_neg (by omega)]
  split_ifs with h1 h2 h3
  · subst h1; exact ⟨0x90, 0xbf, hlow rfl, hm', rfl⟩
  · exact ⟨0x80, 0xbf, hm, hm', rfl⟩
  · subst h3; exact ⟨0x80, 0x8f, hm, hhigh rfl, rfl⟩
  · omega

section Inside
variable {run : Bytes} {bits missing m : Nat} {low high : UInt8} (hlow : low.toNat ≤ m)
  (hhigh : m ≤ high.toNat)
include hlow hhigh

theorem step_last :
    step (.inside run bits 1 low high) (UInt8.ofNat m) =
      ([.char (Char.ofNat (bits * 64 + (m - 0x80)))], .between) := by
  have := UInt8.toNat_lt high
  have hm : (UInt8.ofNat m).toNat = m := UInt8.toNat_ofNat_of_lt' (show _ < 256 by omega)
  unfold step
  simp only [UInt8.le_iff_toNat_le, hm, hlow, hhigh, and_self, if_true, Nat.le_refl]

theorem step_more (h : 1 < missing) :
    step (.inside run bits missing low high) (UInt8.ofNat m) =
      ([], .inside (UInt8.ofNat m :: run) (bits * 64 + (m - 0x80)) (missing - 1) 0x80 0xbf) := by
  have := UInt8.toNat_lt high
  have hm : (UInt8.ofNat m).toNat = m := UInt8.toNat_ofNat_of_lt' (show _ < 256 by omega)
  unfold step
  simp only [UInt8.le_iff_toNat_le, hm, hlow, hhigh, and_self, if_true]
  rw [if_neg (by omega)]

end Inside

theorem le_tail (n : Nat) : (0x80 : UInt8).toNat ≤ n % 0x40 + 0x80 := by
  simp only [UInt8.reduceToNat]; omega

theorem tail_le (n : Nat) : n % 0x40 + 0x80 ≤ (0xbf : UInt8).toNat := by
  simp only [UInt8.reduceToNat]; omega

/-! ### One character -/

theorem push_of_step {done : List Piece} {st st' : State} {b : UInt8} {ps : List Piece}
    (h : step st b = (ps, st')) : Reader.push ⟨done, st⟩ b = ⟨ps.reverse ++ done, st'⟩ := by
  unfold Reader.push
  rw [h]

theorem push_between {done : List Piece} {st : State} {b : UInt8} {ps : List Piece}
    (h : lead b = (ps, st)) : Reader.push ⟨done, .between⟩ b = ⟨ps.reverse ++ done, st⟩ :=
  push_of_step h

/-- **The bytes of a character are read as that character.** -/
theorem foldl_push_utf8EncodeChar (c : Char) (done : List Piece) :
    (String.utf8EncodeChar c).foldl Reader.push ⟨done, .between⟩ =
      ⟨.char c :: done, .between⟩ := by
  have hc : Char.ofNat c.toNat = c := Char.ofNat_toNat c
  have hv : c.toNat < 0xd800 ∨ 0xdfff < c.toNat ∧ c.toNat < 0x110000 := c.valid
  unfold String.utf8EncodeChar
  simp only [Char.toNat_val]
  generalize c.toNat = v at hc hv
  split_ifs with h1 h2 h3
  · rw [List.foldl_cons, push_between (lead_one (by omega)), hc]
    rfl
  · have hl := lead_two (n := v / 64 % 0x20 + 0xc0) (by omega) (by omega)
    rw [List.foldl_cons, push_between hl, List.foldl_cons,
      push_of_step (step_last (le_tail _) (tail_le _))]
    have : (v / 64 % 32 + 192 - 192) * 64 + (v % 64 + 128 - 128) = v := by omega
    rw [this, hc]
    rfl
  · obtain ⟨low, high, hlow, hhigh, hl⟩ := lead_three (n := v / 4096 % 0x10 + 0xe0)
      (m := v / 64 % 0x40 + 0x80) (by omega) (by omega) (by omega) (by omega) (by omega) (by omega)
    rw [List.foldl_cons, push_between hl, List.foldl_cons,
      push_of_step (step_more hlow hhigh (by omega)), List.foldl_cons,
      push_of_step (step_last (le_tail _) (tail_le _))]
    have : ((v / 4096 % 16 + 224 - 224) * 64 + (v / 64 % 64 + 128 - 128)) * 64 +
        (v % 64 + 128 - 128) = v := by omega
    rw [this, hc]
    rfl
  · obtain ⟨low, high, hlow, hhigh, hl⟩ := lead_four (n := v / 262144 % 0x08 + 0xf0)
      (m := v / 4096 % 0x40 + 0x80) (by omega) (by omega) (by omega) (by omega) (by omega)
      (by omega)
    rw [List.foldl_cons, push_between hl, List.foldl_cons,
      push_of_step (step_more hlow hhigh (by omega)), List.foldl_cons,
      push_of_step (step_more (le_tail _) (tail_le _) (by omega)), List.foldl_cons,
      push_of_step (step_last (le_tail _) (tail_le _))]
    have : (((v / 262144 % 8 + 240 - 240) * 64 + (v / 4096 % 64 + 128 - 128)) * 64 +
        (v / 64 % 64 + 128 - 128)) * 64 + (v % 64 + 128 - 128) = v := by omega
    rw [this, hc]
    rfl

/-! ### A text -/

/-- What a reader has read already stays in front. -/
theorem finish_foldl_push (bs : Bytes) (done : List Piece) (st : State) :
    (bs.foldl Reader.push ⟨done, st⟩).finish =
      done.reverse ++ (bs.foldl Reader.push ⟨[], st⟩).finish := by
  induction bs generalizing done st with
  | nil => simp [Reader.finish]
  | cons b bs ih =>
    obtain ⟨ps, st', h⟩ : ∃ ps st', step st b = (ps, st') := ⟨_, _, rfl⟩
    rw [List.foldl_cons, List.foldl_cons, push_of_step h, push_of_step h, ih, ih (_ ++ [])]
    simp

theorem foldl_push_encode (s : String) (done : List Piece) :
    (encode s).foldl Reader.push ⟨done, .between⟩ =
      ⟨(s.toList.map Piece.char).reverse ++ done, .between⟩ := by
  unfold encode
  induction s.toList generalizing done with
  | nil => rfl
  | cons c cs ih =>
    rw [List.flatMap_cons, List.foldl_append, foldl_push_utf8EncodeChar, ih]
    simp

theorem pieces_encode_append (s : String) (bs : Bytes) :
    pieces (encode s ++ bs) = s.toList.map Piece.char ++ pieces bs := by
  unfold pieces
  rw [List.foldl_append, foldl_push_encode, finish_foldl_push]
  simp

/-- **Reading goes through a text to the bytes that follow it.** -/
theorem decodeLossy_encode_append (s : String) (bs : Bytes) :
    decodeLossy (encode s ++ bs) = s ++ decodeLossy bs := by
  unfold decodeLossy
  rw [pieces_encode_append, List.map_append, List.map_map, String.ofList_append]
  congr 1
  simp [Function.comp_def, Piece.shown]

theorem decodeLossy_encode (s : String) : decodeLossy (encode s) = s := by
  have h := decodeLossy_encode_append s []
  rwa [List.append_nil, show decodeLossy [] = "" from rfl, String.append_empty] at h

/-- The bytes of a text have no bad run, so they are read as that text without replacing anything.
-/
theorem decode?_encode (s : String) : decode? (encode s) = .ok s := by
  have hp : pieces (encode s) = s.toList.map Piece.char := by
    have h := pieces_encode_append s []
    rwa [List.append_nil, show pieces [] = [] from rfl, List.append_nil] at h
  have hd : (s.toList.map Piece.char).dropWhile Piece.isChar = [] := by
    rw [List.dropWhile_eq_nil_iff]
    intro x hx
    obtain ⟨c, -, rfl⟩ := List.mem_map.mp hx
    rfl
  have hs : String.ofList ((pieces (encode s)).map Piece.shown) = s := decodeLossy_encode s
  rw [hp] at hs
  unfold decode?
  dsimp only
  rw [hp, hd, hs]

end Errand.Text.Utf8
