import Errand.Decimal.Dyadic

/-! # Order and sums of doubles

Doubles are ordered like numbers, but for those that are no number. Two numbers always compare
(`compare_eq_none_iff`), so "before" and "not after" are opposites on them (`le_iff_not_lt`), and a
NaN is neither before nor after anything. Numbers have places in one line (`le_iff_place`), so "not
after" goes from one to the next (`le_trans`), and infinity is the last of them (`le_infinity`).

A sum is a NaN if one of its parts is. Otherwise it is one only where two infinities cancel: not if
one part is finite (`isNaN_add_of_isFinite_left`, `isNaN_add_of_isFinite_right`). So a clock that
goes on by equal steps is a number after the second step if it was one after the first
(`isNaN_add_add`). No whole number becomes a NaN as a double (`isNaN_of_doubleOfInt?`). -/

namespace Errand.Double

open Float.Model (UnpackedFloat Format)
open Float.Model.UnpackedFloat (Sign unpack pack packComponents packedInfinity)

/-! ### Numbers in their format -/

theorem isNaN_dite {p : Prop} [Decidable p] {a : p → UnpackedFloat} {b : ¬p → UnpackedFloat}
    (ha : ∀ h, (a h).isNaN = false) (hb : ∀ h, (b h).isNaN = false) :
    (dite p a b).isNaN = false := by
  by_cases h : p
  · rw [dif_pos h]
    exact ha h
  · rw [dif_neg h]
    exact hb h

theorem isNaN_ite {p : Prop} [Decidable p] {a b : UnpackedFloat} (ha : a.isNaN = false)
    (hb : b.isNaN = false) : (ite p a b).isNaN = false :=
  isNaN_dite (fun _ => ha) (fun _ => hb)

/-- Bits whose exponent is not the greatest are those of a number. -/
theorem isNaN_unpack_packComponents (s : Sign) {e : BitVec 11} (he : e ≠ -1#11) (m : BitVec 52) :
    (unpack .binary64 (packComponents .binary64 s e m)).isNaN = false := by
  have hu : UnpackedFloat.unpackExponent (packComponents .binary64 s e m) = e :=
    UnpackedFloat.unpackExponent_packComponents ..
  unfold unpack
  rw [if_neg (by rw [hu]; exact he)]
  exact isNaN_ite (isNaN_dite (fun _ => rfl) (fun _ => rfl)) rfl

theorem unpack_packedInfinity (s : Sign) :
    unpack .binary64 (packedInfinity .binary64 s) = .infinity s := by
  cases s <;> rfl

theorem ofNat_ne_neg_one {b : Nat} (hb : ¬2048 ≤ b + 1) : BitVec.ofNat 11 b ≠ -1#11 := by
  intro he
  have hn := congrArg BitVec.toNat he
  rw [BitVec.toNat_ofNat] at hn
  change b % 2048 = 2047 at hn
  omega

/-- Whether a number is a NaN does not depend on its being written as bits. -/
theorem isNaN_unpack_pack (u : UnpackedFloat) :
    (unpack .binary64 (pack .binary64 u)).isNaN = u.isNaN := by
  cases u with
  | notANumber => decide
  | infinity s => cases s <;> decide
  | zero s => cases s <;> decide
  | finite s m e hm =>
    change _ = false
    unfold pack
    dsimp only
    split
    · rw [unpack_packedInfinity]
      rfl
    · rename_i hb
      split
      · exact isNaN_unpack_packComponents s (ofNat_ne_neg_one hb) _
      · exact isNaN_unpack_packComponents s (by decide) _

/-! ### Order -/

theorem compare_swap (a b : UnpackedFloat) : b.compare a = (a.compare b).map Ordering.swap := by
  cases a with
  | notANumber => cases b <;> rfl
  | infinity s =>
    cases b with
    | infinity t => cases s <;> cases t <;> rfl
    | _ => cases s <;> rfl
  | zero s =>
    cases b with
    | infinity t => cases t <;> rfl
    | finite t n f hn => cases t <;> rfl
    | _ => rfl
  | finite s m e hm =>
    cases b with
    | notANumber => cases s <;> rfl
    | infinity t => cases s <;> cases t <;> rfl
    | zero t => cases s <;> rfl
    | finite t n f hn =>
      have hs : (compare f e).then (compare n m) = ((compare e f).then (compare m n)).swap := by
        have he : compare f e = (compare e f).swap := Std.OrientedCmp.eq_swap
        have hm : compare n m = (compare m n).swap := Std.OrientedCmp.eq_swap
        rw [he, hm, Ordering.swap_then]
      cases s <;> cases t
      · exact congrArg some (congrArg Ordering.swap hs)
      · rfl
      · rfl
      · exact congrArg some hs

theorem compare_eq_none_iff (a b : UnpackedFloat) :
    a.compare b = none ↔ a.isNaN = true ∨ b.isNaN = true := by
  constructor
  · intro h
    cases a with
    | notANumber => exact .inl rfl
    | infinity s =>
      cases b with
      | notANumber => exact .inr rfl
      | infinity t => exact absurd h (Option.some_ne_none _)
      | _ => cases s <;> exact absurd h (Option.some_ne_none _)
    | zero s =>
      cases b with
      | notANumber => exact .inr rfl
      | zero t => exact absurd h (Option.some_ne_none _)
      | infinity t | finite t n f hn => cases t <;> exact absurd h (Option.some_ne_none _)
    | finite s m e hm =>
      cases b with
      | notANumber => exact .inr rfl
      | zero t => cases s <;> exact absurd h (Option.some_ne_none _)
      | infinity t | finite t n f hn =>
        cases s <;> cases t <;> exact absurd h (Option.some_ne_none _)
  · rintro (h | h)
    · cases a with
      | notANumber => rfl
      | _ => cases h
    · cases b with
      | notANumber =>
        cases a with
        | notANumber => rfl
        | infinity s | zero s | finite s m e hm => cases s <;> rfl
      | _ => cases h

variable {x y : Float}

theorem lt_iff : x < y ↔ x.toModel.unpack.lt y.toModel.unpack = true := decide_eq_true_iff

theorem le_iff : x ≤ y ↔ x.toModel.unpack.le y.toModel.unpack = true := decide_eq_true_iff

/-- Of two numbers, one is not after the other exactly if the other is not before it. -/
theorem le_iff_not_lt (hx : x.isNaN = false) (hy : y.isNaN = false) : y ≤ x ↔ ¬x < y := by
  rw [lt_iff, le_iff]
  unfold UnpackedFloat.le UnpackedFloat.lt
  rw [compare_swap x.toModel.unpack]
  cases hc : x.toModel.unpack.compare y.toModel.unpack with
  | none =>
    rcases (compare_eq_none_iff ..).mp hc with h | h
    · cases hx.symm.trans h
    · cases hy.symm.trans h
  | some o => cases o <;> decide

/-- Nothing is before a NaN. -/
theorem not_lt_of_isNaN (hy : y.isNaN = true) : ¬x < y := by
  rw [lt_iff]
  unfold UnpackedFloat.lt
  rw [(compare_eq_none_iff ..).mpr (.inr hy)]
  decide

/-- A NaN is before nothing, and equals nothing. -/
theorem not_le_of_isNaN (hy : y.isNaN = true) : ¬y ≤ x := by
  rw [le_iff]
  unfold UnpackedFloat.le
  rw [(compare_eq_none_iff ..).mpr (.inl hy)]
  decide

/-- Of two doubles not each is before the other. -/
theorem not_lt_of_lt (h : x < y) : ¬y < x := by
  rw [lt_iff] at h ⊢
  unfold UnpackedFloat.lt at h ⊢
  rw [compare_swap x.toModel.unpack, eq_of_beq h]
  decide

theorem isNaN_of_lt (h : x < y) : y.isNaN = false := by
  rw [← Bool.not_eq_true]
  exact fun hy => not_lt_of_isNaN hy h

/-! ### Places -/

/-- Where a number stands among all: its sign and whether it is finite, then its exponent, then its
digits. -/
def place? : UnpackedFloat → Option (Int × Int × Int)
  | .notANumber => none
  | .infinity .negative => some (-2, 0, 0)
  | .finite .negative m e _ => some (-1, -e, -m)
  | .zero _ => some (0, 0, 0)
  | .finite .positive m e _ => some (1, e, m)
  | .infinity .positive => some (2, 0, 0)

/-- Places in order, by their first parts that differ. -/
def NotAfter (p q : Int × Int × Int) : Prop :=
  p.1 < q.1 ∨ p.1 = q.1 ∧ (p.2.1 < q.2.1 ∨ p.2.1 = q.2.1 ∧ p.2.2 ≤ q.2.2)

theorem NotAfter.trans {p q r : Int × Int × Int} (h : NotAfter p q) (h' : NotAfter q r) :
    NotAfter p r := by
  unfold NotAfter at *
  omega

theorem isLE_compare_then (e f : Int) (m n : Nat) :
    ((compare e f).then (compare m n)).isLE = true ↔ e < f ∨ e = f ∧ m ≤ n := by
  rcases Int.lt_trichotomy e f with h | rfl | h
  · rw [Int.compare_eq_lt.mpr h]
    simp [h]
  · rw [Int.compare_eq_eq.mpr rfl]
    simp [Nat.isLE_compare]
  · rw [Int.compare_eq_gt.mpr h]
    simp only [Ordering.then, Ordering.isLE, Bool.false_eq_true, false_iff]
    omega

theorem isGE_compare_then (e f : Int) (m n : Nat) :
    ((compare e f).then (compare m n)).isGE = true ↔ f < e ∨ e = f ∧ n ≤ m := by
  rcases Int.lt_trichotomy e f with h | rfl | h
  · rw [Int.compare_eq_lt.mpr h]
    simp only [Ordering.then, Ordering.isGE, Bool.false_eq_true, false_iff]
    omega
  · rw [Int.compare_eq_eq.mpr rfl]
    simp [Nat.isGE_compare]
  · rw [Int.compare_eq_gt.mpr h]
    simp [h]

theorem isLE_compare_sign (s t : Sign) :
    (compare s t).isLE = true ↔ s = .negative ∨ t = .positive := by
  cases s <;> cases t <;> simp <;> rfl

/-- A number is not after another exactly if its place is not. -/
theorem le_iff_place {a b : UnpackedFloat} :
    a.le b = true ↔ ∃ p q, place? a = some p ∧ place? b = some q ∧ NotAfter p q := by
  cases a with
  | notANumber => exact iff_of_false nofun (by rintro ⟨p, q, h, -⟩; cases h)
  | infinity s =>
    cases b with
    | infinity t =>
      have hs : (UnpackedFloat.infinity s).le (.infinity t) = (compare s t).isLE := rfl
      rw [hs, isLE_compare_sign]
      cases s <;> cases t <;> dsimp only [place?] <;> simp [NotAfter]
    | finite t n f hn =>
      cases s <;> cases t <;> dsimp only [UnpackedFloat.le, UnpackedFloat.compare, place?] <;>
        simp [NotAfter]
    | _ =>
      cases s <;> dsimp only [UnpackedFloat.le, UnpackedFloat.compare, place?] <;> simp [NotAfter]
  | zero s =>
    cases b with
    | infinity t | finite t n f hn =>
      cases t <;> dsimp only [UnpackedFloat.le, UnpackedFloat.compare, place?] <;> simp [NotAfter]
    | _ =>
      dsimp only [UnpackedFloat.le, UnpackedFloat.compare, place?]
      simp [NotAfter]
  | finite s m e hm =>
    cases b with
    | notANumber | zero t =>
      cases s <;> dsimp only [UnpackedFloat.le, UnpackedFloat.compare, place?] <;> simp [NotAfter]
    | infinity t =>
      cases s <;> cases t <;> dsimp only [UnpackedFloat.le, UnpackedFloat.compare, place?] <;>
        simp [NotAfter]
    | finite t n f hn =>
      cases s <;> cases t <;> dsimp only [UnpackedFloat.le, UnpackedFloat.compare, place?] <;>
        simp [NotAfter, isLE_compare_then, isGE_compare_then]

theorem le_trans {z : Float} (h : x ≤ y) (h' : y ≤ z) : x ≤ z := by
  rw [le_iff] at h h' ⊢
  obtain ⟨p, q, hp, hq, hpq⟩ := le_iff_place.mp h
  obtain ⟨q', r, hq', hr, hqr⟩ := le_iff_place.mp h'
  obtain rfl := Option.some.inj (hq.symm.trans hq')
  exact le_iff_place.mpr ⟨p, r, hp, hr, hpq.trans hqr⟩

/-- No number is after infinity. -/
theorem le_infinity (hx : x.isNaN = false) : x ≤ 1.0 / 0.0 := by
  have hi : (1.0 / 0.0 : Float).toModel.unpack = .infinity .positive := by rfl
  change x.toModel.unpack.isNaN = false at hx
  rw [le_iff, hi]
  cases hu : x.toModel.unpack with
  | notANumber => rw [hu] at hx; cases hx
  | infinity s => cases s <;> rfl
  | zero s => rfl
  | finite s m e hm => cases s <;> rfl

/-! ### Sums -/

theorem isNaN_roundWithAccuracy (s : Sign) (m : Nat) (e : Int) (a : UnpackedFloat.Accuracy) :
    (UnpackedFloat.roundWithAccuracy .binary64 s m e a).isNaN = false :=
  isNaN_dite (fun _ => rfl) (fun _ => rfl)

theorem isNaN_normalize (m e : Int) (s : Sign) :
    (UnpackedFloat.normalize .binary64 m e s).isNaN = false := by
  unfold UnpackedFloat.normalize UnpackedFloat.round
  dsimp only
  split
  · exact isNaN_roundWithAccuracy ..
  · rfl
  · exact isNaN_roundWithAccuracy ..

theorem add_comm (a b : UnpackedFloat) : a.add .binary64 b = b.add .binary64 a := by
  cases a with
  | notANumber => cases b <;> rfl
  | infinity s =>
    cases b with
    | infinity t => cases s <;> cases t <;> rfl
    | _ => rfl
  | zero s =>
    cases b with
    | zero t => cases s <;> cases t <;> rfl
    | _ => rfl
  | finite s m e hm =>
    cases b with
    | finite t n f hn =>
      unfold UnpackedFloat.add
      dsimp only
      rw [Int.min_comm e f, Int.add_comm]
    | _ => rfl

theorem isNaN_add (x y : Float) :
    (x + y).isNaN = (x.toModel.unpack.add .binary64 y.toModel.unpack).isNaN :=
  isNaN_unpack_pack _

/-- Only a NaN makes a NaN of a finite number. -/
theorem isNaN_add_of_isFinite_left (hx : x.isFinite = true) : (x + y).isNaN = y.isNaN := by
  change x.toModel.unpack.isFinite = true at hx
  change _ = y.toModel.unpack.isNaN
  rw [isNaN_add]
  cases ha : x.toModel.unpack with
  | notANumber => rw [ha] at hx; cases hx
  | infinity s => rw [ha] at hx; cases hx
  | zero s =>
    cases y.toModel.unpack with
    | zero t => cases s <;> cases t <;> rfl
    | _ => rfl
  | finite s m e hm =>
    cases y.toModel.unpack with
    | finite t n f hn => exact isNaN_normalize ..
    | _ => rfl

theorem isNaN_add_of_isFinite_right (hy : y.isFinite = true) : (x + y).isNaN = x.isNaN := by
  rw [isNaN_add, add_comm, ← isNaN_add, isNaN_add_of_isFinite_left hy]

/-- A step that leads to a number leads to one again. -/
theorem isNaN_add_add (h : (x + y).isNaN = false) : (x + y + y).isNaN = false := by
  cases hy : y.toModel.unpack with
  | notANumber =>
    rw [isNaN_add, hy] at h
    cases hx : x.toModel.unpack <;> rw [hx] at h <;> cases h
  | infinity s =>
    have hxy : (x + y).toModel.unpack = .infinity s := by
      rw [isNaN_add, hy] at h
      change unpack .binary64 (pack .binary64 (x.toModel.unpack.add .binary64 y.toModel.unpack)) = _
      rw [hy]
      cases hx : x.toModel.unpack with
      | notANumber => rw [hx] at h; cases h
      | infinity t =>
        rw [hx] at h
        cases s <;> cases t <;> first | rfl | cases h
      | _ => exact unpack_packedInfinity s
    rw [isNaN_add, hxy, hy]
    cases s <;> rfl
  | zero s =>
    have hf : y.isFinite = true := congrArg UnpackedFloat.isFinite hy
    exact (isNaN_add_of_isFinite_right hf).trans h
  | finite s m e hm =>
    have hf : y.isFinite = true := congrArg UnpackedFloat.isFinite hy
    exact (isNaN_add_of_isFinite_right hf).trans h

/-! ### Whole numbers -/

theorem isNaN_ofScientific (m e : Nat) :
    (UnpackedFloat.ofScientific .binary64 m e).isNaN = false := by
  refine isNaN_dite (fun _ => rfl) fun _ => isNaN_ite rfl (isNaN_ite rfl ?_)
  rw [if_pos (Int.natCast_nonneg e)]
  exact isNaN_roundWithAccuracy ..

theorem isNaN_mul_one (hx : x.isNaN = false) : (x * 1.0).isNaN = false := by
  have h1 : (1.0 : Float).toModel.unpack = .finite .positive (2 ^ 52) (-52) (by decide) := by rfl
  refine (isNaN_unpack_pack _).trans ?_
  change x.toModel.unpack.isNaN = false at hx
  rw [h1]
  cases hu : x.toModel.unpack with
  | notANumber => rw [hu] at hx; cases hx
  | infinity s => rfl
  | zero s => rfl
  | finite s m e hm => exact isNaN_roundWithAccuracy ..

theorem isNaN_ofNat (n : Nat) : (Float.ofNat n).isNaN = false := by
  change (Float.ofScientific n false 0).isNaN = false
  unfold Float.ofScientific
  split
  · exact isNaN_mul_one ((isNaN_unpack_pack _).trans (isNaN_normalize ..))
  · exact (isNaN_unpack_pack _).trans (isNaN_ofScientific n 0)

theorem isNaN_neg (x : Float) : (-x).isNaN = x.isNaN := by
  refine (isNaN_unpack_pack _).trans ?_
  change x.toModel.unpack.neg.isNaN = x.toModel.unpack.isNaN
  cases x.toModel.unpack <;> rfl

/-- The double nearest to a whole number is a number. -/
theorem isNaN_of_doubleOfInt? {n : Int} (h : doubleOfInt? n = some x) : x.isNaN = false := by
  unfold doubleOfInt? at h
  dsimp only at h
  split at h
  · cases h
  · cases h
    split
    · rw [isNaN_neg, isNaN_ofNat]
    · exact isNaN_ofNat _

end Errand.Double
