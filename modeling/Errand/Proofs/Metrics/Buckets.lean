import Errand.Metrics
import Errand.Proofs.Decimal.Double
import Mathlib.Data.List.Nodup

/-! # One more duration

A duration is counted in the first bucket whose bound it does not exceed, and buckets are shown on
top of each other: each together with those before it. The bounds do not decrease (`bounds_le`), so
one more duration is shown in exactly the buckets whose bounds it does not exceed (`go_countIn`,
`mem_zip_observe`). Nothing is counted beside the buckets, and the bound of the last one is
infinite, so every duration that is a number is counted (`count_observe`). -/

namespace Errand.Durations

/-! ### Bounds -/

theorem bounds_le : bounds.Pairwise (· ≤ ·) := by decide +kernel

theorem nodup_bounds : bounds.Nodup := by decide +kernel

/-- The bound of the last bucket. -/
def lastBound : Float := 1.0 / 0.0

theorem lastBound_mem : lastBound ∈ bounds := List.mem_append_right _ List.mem_cons_self

/-- Every duration that is a number is in the last bucket. -/
theorem le_lastBound {x : Float} (h : x.isNaN = false) : x ≤ lastBound := Double.le_infinity h

theorem countP_le_lastBound {xs : List Float} (h : ∀ x ∈ xs, x.isNaN = false) :
    xs.countP (· ≤ lastBound) = xs.length :=
  List.countP_eq_length.mpr fun x hx => decide_eq_true (le_lastBound (h x hx))

theorem countP_le_of_le (xs : List Float) {b c : Float} (h : b ≤ c) :
    xs.countP (· ≤ b) ≤ xs.countP (· ≤ c) :=
  List.countP_mono_left fun _ _ hx => decide_eq_true (Double.le_trans (of_decide_eq_true hx) h)

/-! ### Buckets on top of each other -/

theorem length_countIn (x : Float) (bs : List Float) (ns : List Nat) :
    (countIn x bs ns).length = ns.length := by
  induction bs generalizing ns with
  | nil => cases ns <;> rfl
  | cons b bs ih =>
    cases ns with
    | nil => rfl
    | cons n ns =>
      unfold countIn
      split
      · rfl
      · simp [ih]

theorem length_go (before : Nat) (ns : List Nat) :
    (cumulative.go before ns).length = ns.length := by
  induction ns generalizing before with
  | nil => rfl
  | cons n ns ih => simp [cumulative.go, ih]

theorem go_succ (before : Nat) (ns : List Nat) :
    cumulative.go (before + 1) ns = (cumulative.go before ns).map (· + 1) := by
  induction ns generalizing before with
  | nil => rfl
  | cons n ns ih =>
    have h : before + 1 + n = before + n + 1 := by omega
    rw [cumulative.go, cumulative.go, h, ih, List.map_cons]

/-- A duration below all bounds is shown in every bucket. -/
theorem zipWith_of_forall_le {x : Float} {bs : List Float} {ns : List Nat}
    (h : ∀ b ∈ bs, x ≤ b) (hl : bs.length = ns.length) :
    List.zipWith (fun b n => if x ≤ b then n + 1 else n) bs ns = ns.map (· + 1) := by
  induction bs generalizing ns with
  | nil => rw [List.length_eq_zero_iff.mp hl.symm]; rfl
  | cons b bs ih =>
    obtain ⟨n, ns, rfl⟩ := List.exists_cons_of_length_eq_add_one hl.symm
    have hb : x ≤ b := h b List.mem_cons_self
    have hbs : ∀ c ∈ bs, x ≤ c := fun c hc => h c (List.mem_cons_of_mem b hc)
    rw [List.zipWith_cons_cons, if_pos hb, ih hbs (Nat.succ.inj hl), List.map_cons]

/-- One more duration is shown in the buckets whose bounds it does not exceed. -/
theorem go_countIn {x : Float} {bs : List Float} {ns : List Nat} (hb : bs.Pairwise (· ≤ ·))
    (hl : bs.length = ns.length) (before : Nat) :
    cumulative.go before (countIn x bs ns) =
      List.zipWith (fun b n => if x ≤ b then n + 1 else n) bs (cumulative.go before ns) := by
  induction bs generalizing ns before with
  | nil => rw [List.length_eq_zero_iff.mp hl.symm]; rfl
  | cons b bs ih =>
    obtain ⟨n, ns, rfl⟩ := List.exists_cons_of_length_eq_add_one hl.symm
    obtain ⟨hle, hbs⟩ := List.pairwise_cons.mp hb
    have hlen : bs.length = ns.length := Nat.succ.inj hl
    unfold countIn
    split
    · rename_i hx
      -- it is counted here, and every later bucket stands on this one
      have hxs : ∀ c ∈ bs, x ≤ c := fun c hc => Double.le_trans hx (hle c hc)
      have hgo : bs.length = (cumulative.go (before + n) ns).length := by rw [length_go, hlen]
      rw [cumulative.go, cumulative.go, List.zipWith_cons_cons, if_pos hx,
        zipWith_of_forall_le hxs hgo, ← go_succ]
      rfl
    · rename_i hx
      rw [cumulative.go, cumulative.go, List.zipWith_cons_cons, if_neg hx, ih hbs hlen]

theorem zip_zipWith {α β : Type} (f : α → β → β) (as : List α) (bs : List β) :
    as.zip (List.zipWith f as bs) = (as.zip bs).map fun e => (e.1, f e.1 e.2) := by
  induction as generalizing bs with
  | nil => rfl
  | cons a as ih =>
    cases bs with
    | nil => rfl
    | cons b bs => simp [ih]

/-! ### What durations show -/

variable {d : Durations} (hd : d.counts.length = bounds.length)
include hd

theorem length_cumulative : d.cumulative.length = bounds.length := by
  unfold cumulative
  rw [length_go, hd]

theorem length_observe (x : Float) : (d.observe x).counts.length = bounds.length :=
  (length_countIn x bounds d.counts).trans hd

/-- There is a bucket of each bound. -/
theorem exists_mem_zip {b : Float} (hb : b ∈ bounds) : ∃ n, (b, n) ∈ bounds.zip d.cumulative := by
  obtain ⟨i, hi, rfl⟩ := List.mem_iff_getElem.mp hb
  have hn : i < d.cumulative.length := by rwa [length_cumulative hd]
  refine ⟨d.cumulative[i], List.mem_iff_getElem.mpr ⟨i, ?_, List.getElem_zip⟩⟩
  rw [List.length_zip]
  exact Nat.lt_min.mpr ⟨hi, hn⟩

/-- One more duration, as the buckets show it. -/
theorem mem_zip_observe (x : Float) {b : Float} {n : Nat} (h : (b, n) ∈ bounds.zip d.cumulative) :
    (b, if x ≤ b then n + 1 else n) ∈ bounds.zip (d.observe x).cumulative := by
  have hgo : (d.observe x).cumulative =
      List.zipWith (fun b n => if x ≤ b then n + 1 else n) bounds d.cumulative :=
    go_countIn bounds_le hd.symm 0
  rw [hgo, zip_zipWith]
  exact List.mem_map.mpr ⟨(b, n), h, rfl⟩

omit hd

/-- There is no other bucket of a bound. -/
theorem eq_of_mem_zip {b : Float} {m n : Nat} (hm : (b, m) ∈ bounds.zip d.cumulative)
    (hn : (b, n) ∈ bounds.zip d.cumulative) : m = n := by
  obtain ⟨i, hi, hm⟩ := List.mem_iff_getElem.mp hm
  obtain ⟨j, hj, hn⟩ := List.mem_iff_getElem.mp hn
  rw [List.getElem_zip] at hm hn
  obtain ⟨hib, rfl⟩ := Prod.mk.inj hm
  obtain ⟨hjb, rfl⟩ := Prod.mk.inj hn
  obtain rfl := nodup_bounds.getElem_inj_iff.mp (hib.trans hjb.symm)
  rfl

/-- Without durations every bucket shows zero. -/
theorem eq_zero_of_mem_zip {b : Float} {n : Nat} (h : (b, n) ∈ bounds.zip empty.cumulative) :
    n = 0 := by
  have hall : ∀ e ∈ bounds.zip empty.cumulative, e.2 = 0 := by decide +kernel
  exact hall _ h

theorem foldr_countIn {x : Float} {bs : List Float} {ns : List Nat} (hb : ∃ b ∈ bs, x ≤ b)
    (hl : bs.length = ns.length) :
    (countIn x bs ns).foldr (· + ·) 0 = ns.foldr (· + ·) 0 + 1 := by
  induction bs generalizing ns with
  | nil => exact absurd hb (by simp)
  | cons b bs ih =>
    obtain ⟨n, ns, rfl⟩ := List.exists_cons_of_length_eq_add_one hl.symm
    unfold countIn
    split
    · simp only [List.foldr_cons]
      omega
    · rename_i hx
      have hbs : ∃ c ∈ bs, x ≤ c := by simpa [hx] using hb
      rw [List.foldr_cons, ih hbs (Nat.succ.inj hl), List.foldr_cons]
      omega

/-- A duration that is a number is counted. -/
theorem count_observe (hd : d.counts.length = bounds.length) {x : Float} (hx : x.isNaN = false) :
    (d.observe x).count = d.count + 1 :=
  foldr_countIn ⟨lastBound, lastBound_mem, le_lastBound hx⟩ hd.symm

end Errand.Durations
