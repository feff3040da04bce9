import Errand.Proofs.Handler.Firing
import Mathlib.Algebra.Order.Archimedean.Basic
import Mathlib.Order.Bounds.Basic
import Mathlib.Tactic.IntervalCases
import Mathlib.Tactic.Linarith
import Mathlib.Tactic.NormNum
import Mathlib.Tactic.Ring

/-! # How long a wait takes

On a clock with exact times a wait looks at a handler after 0, 1, 2, … sleeps of the same length,
and what it finds there is known beforehand: the clock has gone on by that many intervals
(`clock_iterate_sleep`), and there is a result if there was one, or if one was due by then
(`hasResult_iterate_sleep`). So is the number of sleeps after which a wait is over
(`World.doneAfter`), and that number does not depend on the kind of the wait: on ordered times
"while the clock is before the deadline" and "until the deadline is not after the clock" are the
same (`over_iterate_sleep`).

The main statement is `wait_exact`: a wait of either kind takes the least such number of sleeps,
and answers whether there is a result at the end of them. -/

namespace Errand.Waiting

variable {τ : Type}

/-! ### Looks -/

section Looks
variable [Field τ] [LinearOrder τ]

/-- Whether there is a result after so many sleeps: there is one already, or one is due by then.
Without a sleep nothing fires. -/
def World.presentAfter (w : World τ) (interval : τ) (m : ℕ) : Bool :=
  w.handler.hasResult ||
    (0 < m && w.due.any fun d => d.time ≤ w.clock + m * interval && d.call.isResult)

/-- Whether a wait is over after so many sleeps: there is a result, or it has taken as long as it
may. -/
def World.doneAfter (w : World τ) (interval : τ) (timeout : Option τ) (m : ℕ) : Bool :=
  w.presentAfter interval m || timeout.any fun t => t ≤ m * interval

theorem presentAfter_iff {w : World τ} {interval : τ} {m : ℕ} :
    w.presentAfter interval m = true ↔ w.handler.hasResult = true ∨
      0 < m ∧ ∃ d ∈ w.due, d.call.isResult = true ∧ d.time ≤ w.clock + m * interval := by
  simp [World.presentAfter, and_comm]

section Sleeps
variable {interval : τ} (hi : 0 < interval) (w : World τ)
include hi

theorem sleep_eq :
    w.sleep 0 interval =
      { w with sleeps := w.sleeps + 1, clock := w.clock + interval }.fire :=
  if_pos hi

theorem sleeps_iterate_sleep (m : ℕ) :
    ((World.sleep 0 interval)^[m] w).sleeps = w.sleeps + m := by
  induction m with
  | zero => rfl
  | succ m ih =>
    rw [Function.iterate_succ_apply', sleep_eq hi, sleeps_fire]
    dsimp only
    rw [ih, Nat.add_assoc]

theorem clock_iterate_sleep (m : ℕ) :
    ((World.sleep 0 interval)^[m] w).clock = w.clock + m * interval := by
  induction m with
  | zero => simp
  | succ m ih =>
    rw [Function.iterate_succ_apply', sleep_eq hi, clock_fire]
    dsimp only
    rw [ih]
    push_cast
    ring

variable [IsStrictOrderedRing τ]

/-- The callbacks that are left after some sleeps are those whose time has not come. -/
theorem due_iterate_sleep (m : ℕ) :
    ((World.sleep 0 interval)^[m] w).due =
      w.due.filter fun d => m = 0 || w.clock + m * interval < d.time := by
  induction m with
  | zero => simp
  | succ m ih =>
    have hc := clock_iterate_sleep hi w m
    rw [Function.iterate_succ_apply', sleep_eq hi, due_fire]
    dsimp only [World.reached, Schedule.reached]
    rw [ih, hc, List.filter_filter]
    refine List.filter_congr fun d _ => Bool.eq_iff_iff.mpr ?_
    simp only [Bool.and_eq_true, Bool.or_eq_true, Bool.not_eq_true', decide_eq_true_eq,
      decide_eq_false_iff_not, Nat.add_one_ne_zero, false_or, not_le]
    push_cast
    constructor
    · rintro ⟨ht, -⟩
      linarith
    · intro ht
      exact ⟨by linarith, .inr (by linarith)⟩

/-- There is a result after some sleeps exactly if one was present then. -/
theorem hasResult_iterate_sleep (m : ℕ) :
    ((World.sleep 0 interval)^[m] w).handler.hasResult = w.presentAfter interval m := by
  induction m with
  | zero => simp [World.presentAfter]
  | succ m ih =>
    have hd := due_iterate_sleep hi w m
    have hc := clock_iterate_sleep hi w m
    have hnext : w.clock + (m + 1 : ℕ) * interval = w.clock + m * interval + interval := by
      push_cast
      ring
    rw [Function.iterate_succ_apply', sleep_eq hi, hasResult_fire]
    dsimp only [World.reached, Schedule.reached]
    rw [ih, hd, hc, Bool.eq_iff_iff, presentAfter_iff, hnext]
    simp only [Bool.or_eq_true, presentAfter_iff, List.any_eq_true, List.mem_filter,
      Bool.and_eq_true, decide_eq_true_eq]
    constructor
    · rintro ((hr | ⟨-, d, hd, hr, ht⟩) | ⟨d, ⟨hd, -⟩, ht, hr⟩)
      · exact .inl hr
      · exact .inr ⟨m.succ_pos, d, hd, hr, by linarith⟩
      · exact .inr ⟨m.succ_pos, d, hd, hr, ht⟩
    · rintro (hr | ⟨-, d, hd, hr, ht⟩)
      · exact .inl (.inl hr)
      -- a callback whose time came before this sleep has fired before it
      · by_cases hb : m = 0 ∨ w.clock + m * interval < d.time
        · exact .inr ⟨d, ⟨hd, hb⟩, ht, hr⟩
        · rw [not_or, not_lt] at hb
          exact .inl (.inr ⟨Nat.pos_of_ne_zero hb.1, d, hd, hr, hb.2⟩)

/-! ### Waits -/

/-- A wait of either kind is over after some sleeps if there is a result then or its time is up. -/
theorem over_iterate_sleep (k : Kind) (timeout : Option τ) (m : ℕ) :
    k.over (timeout.map (w.clock + ·)) ((World.sleep 0 interval)^[m] w) =
      w.doneAfter interval timeout m := by
  unfold Kind.over Kind.expired World.doneAfter
  rw [hasResult_iterate_sleep hi, clock_iterate_sleep hi]
  cases timeout with
  | none => rfl
  | some t => cases k <;> simp

end Sleeps

/-- A wait that is not over sleeps and goes on. -/
theorem poll_succ {k : Kind} {interval : τ} (hi : 0 < interval) {deadline : Option τ}
    {w : World τ} (ho : k.over deadline w = false) (sleeps : ℕ) :
    poll k 0 interval deadline (sleeps + 1) w =
      poll k 0 interval deadline sleeps (w.sleep 0 interval) := by
  rw [poll, ho, if_neg Bool.false_ne_true, if_neg fun h => hi.not_gt h.2]

/-- A wait ends after the first sleeps that it is over after. -/
theorem poll_eq_iterate_sleep {k : Kind} {interval : τ} (hi : 0 < interval) {deadline : Option τ}
    {w : World τ} {n sleeps : ℕ} (hs : n ≤ sleeps)
    (hn : k.over deadline ((World.sleep 0 interval)^[n] w) = true)
    (hm : ∀ m < n, k.over deadline ((World.sleep 0 interval)^[m] w) = false) :
    poll k 0 interval deadline sleeps w =
      (if ((World.sleep 0 interval)^[n] w).handler.hasResult then .result else .noResult,
        (World.sleep 0 interval)^[n] w) := by
  induction n generalizing w sleeps with
  | zero =>
    have ho : k.over deadline w = true := hn
    unfold poll
    rw [if_pos ho]
    rfl
  | succ n ih =>
    obtain ⟨sleeps, rfl⟩ := Nat.exists_eq_add_of_lt (Nat.lt_of_succ_le hs)
    have ho : k.over deadline w = false := hm 0 n.succ_pos
    rw [poll_succ hi ho]
    exact ih (by omega) hn fun m hmn => hm (m + 1) (Nat.succ_lt_succ hmn)

/-- A wait that may not take for ever, or to which a result will come, is over after some number of
sleeps. -/
theorem exists_doneAfter [IsStrictOrderedRing τ] [Archimedean τ] {interval : τ}
    (hi : 0 < interval) {timeout : Option τ} {w : World τ}
    (h : timeout = none → w.handler.hasResult = true ∨ ∃ d ∈ w.due, d.call.isResult = true) :
    ∃ m, w.doneAfter interval timeout m = true := by
  simp only [World.doneAfter, Bool.or_eq_true, presentAfter_iff]
  cases timeout with
  | some t =>
    obtain ⟨m, hm⟩ := Archimedean.arch t hi
    rw [nsmul_eq_mul] at hm
    exact ⟨m, .inr (decide_eq_true hm)⟩
  | none =>
    rcases h rfl with hr | ⟨d, hd, hr⟩
    · exact ⟨0, .inl (.inl hr)⟩
    · obtain ⟨m, hm⟩ := Archimedean.arch (d.time - w.clock) hi
      rw [nsmul_eq_mul] at hm
      refine ⟨m + 1, .inl (.inr ⟨m.succ_pos, d, hd, hr, ?_⟩)⟩
      push_cast
      linarith

end Looks

/-! ### The main statement -/

/-- How a wait of at most some time ends: after so many sleeps, and then it answers whether there is
a result. -/
structure World.Awaits [Field τ] [LinearOrder τ] (w : World τ) (interval : τ) (timeout : Option τ)
    (n : ℕ) (verdict : Verdict) (last : World τ) : Prop where
  sleeps_eq : last.sleeps = w.sleeps + n
  clock_eq : last.clock = w.clock + n * interval
  hasResult_eq : last.handler.hasResult = w.presentAfter interval n
  verdict_eq : verdict = if w.presentAfter interval n then .result else .noResult
  /-- A wait without a result has taken as long as it may. -/
  expired : verdict = .noResult → ∃ t, timeout = some t ∧ w.clock + t ≤ last.clock
  /-- A wait takes less than one interval longer than it may. -/
  punctual : ∀ t, timeout = some t → 0 ≤ t → last.clock < w.clock + t + interval
  /-- A result that comes while a wait sleeps is one, even after the time is up. -/
  seen : ∀ d ∈ w.due, d.call.isResult = true → 0 < n → d.time ≤ last.clock → verdict = .result
  immediate : ∀ t, timeout = some t → t ≤ 0 → n = 0

/-- The world after the least number of sleeps is the one that a wait ends with. -/
theorem awaits_iterate_sleep [Field τ] [LinearOrder τ] [IsStrictOrderedRing τ] {interval : τ}
    (hi : 0 < interval) {timeout : Option τ} {w : World τ} {n : ℕ}
    (hn : IsLeast {m | w.doneAfter interval timeout m = true} n) :
    w.Awaits interval timeout n (if w.presentAfter interval n then .result else .noResult)
      ((World.sleep 0 interval)^[n] w) := by
  have hc := clock_iterate_sleep hi w n
  refine ⟨sleeps_iterate_sleep hi w n, hc, hasResult_iterate_sleep hi w n, rfl, ?_, ?_, ?_, ?_⟩
  · intro hv
    have hp : w.presentAfter interval n = false := by
      by_contra hp
      rw [Bool.not_eq_false] at hp
      simp [hp] at hv
    have hd := hn.1
    simp only [Set.mem_ofPred_eq, World.doneAfter, hp, Bool.false_or, Option.any_eq_true,
      decide_eq_true_eq] at hd
    obtain ⟨t, ht, hle⟩ := hd
    exact ⟨t, ht, by rw [hc]; linarith⟩
  · intro t ht h0
    rw [hc]
    cases n with
    | zero =>
      push_cast
      linarith
    | succ n =>
      -- the wait was not over one sleep before
      have hb : ¬ w.doneAfter interval timeout n = true := fun hb => by
        have := hn.2 hb
        omega
      simp only [World.doneAfter, ht, Option.any_some, Bool.or_eq_true, decide_eq_true_eq,
        not_or, not_le] at hb
      push_cast
      linarith [hb.2]
  · intro d hd hr h0 ht
    rw [hc] at ht
    exact if_pos (presentAfter_iff.mpr (.inr ⟨h0, d, hd, hr, ht⟩))
  · intro t ht h0
    have hz : w.doneAfter interval timeout 0 = true := by
      simp [World.doneAfter, ht, h0]
    exact Nat.le_zero.mp (hn.2 hz)

/-- **How long a wait takes.** On a clock with exact times, a wait of either kind that may not take
for ever or to which a result will come, sleeps as often as needed until there is a result or its
time is up and no more often, and it answers whether there is a result then. -/
theorem wait_exact [Field τ] [LinearOrder τ] [IsStrictOrderedRing τ] [Archimedean τ]
    {interval : τ} (hi : 0 < interval) (timeout : Option τ) (w : World τ)
    (h : timeout = none → w.handler.hasResult = true ∨ ∃ d ∈ w.due, d.call.isResult = true) :
    ∃ n, IsLeast {m | w.doneAfter interval timeout m = true} n ∧
      ∀ k sleeps, n ≤ sleeps →
        let (verdict, last) := wait k 0 interval timeout sleeps w
        w.Awaits interval timeout n verdict last := by
  have he := exists_doneAfter hi h
  have hn : IsLeast {m | w.doneAfter interval timeout m = true} (Nat.find he) :=
    ⟨Nat.find_spec he, fun m hm => Nat.find_min' he hm⟩
  refine ⟨Nat.find he, hn, fun k sleeps hs => ?_⟩
  have ho := over_iterate_sleep hi w k timeout
  have hp : wait k 0 interval timeout sleeps w =
      (if w.presentAfter interval (Nat.find he) then .result else .noResult,
        (World.sleep 0 interval)^[Nat.find he] w) := by
    unfold wait
    rw [poll_eq_iterate_sleep hi hs ((ho _).trans hn.1), hasResult_iterate_sleep hi]
    intro m hm
    rw [ho, ← Bool.not_eq_true]
    exact Nat.find_min he hm
  rw [hp]
  exact awaits_iterate_sleep hi hn

/-- A result that comes during the third sleep, after the time is up or when the wait would go on
for ever. -/
theorem wait_exact_of_last_sleep :
    let w : World ℚ := { clock := 10, due := [⟨10 + 11 / 8, .complete (.int 3)⟩] }
    (0 : ℚ) < 1 / 2 ∧ w.handler.hasResult = false ∧ (∃ d ∈ w.due, d.call.isResult = true) ∧
      ∀ timeout ∈ [none, some (5 / 4 : ℚ)], ∀ k, ∃ last,
        wait k 0 (1 / 2) timeout 5 w = (.result, last) ∧ last.sleeps = 3 ∧ last.clock = 23 / 2 := by
  intro w
  have hi : (0 : ℚ) < 1 / 2 := by norm_num
  have hd : ∃ d ∈ w.due, d.call.isResult = true := ⟨_, List.mem_singleton_self _, rfl⟩
  refine ⟨hi, rfl, hd, fun timeout ht k => ?_⟩
  have hthree : IsLeast {m | w.doneAfter (1 / 2) timeout m = true} 3 := by
    simp only [List.mem_cons, List.not_mem_nil, or_false] at ht
    constructor
    · rcases ht with rfl | rfl <;>
        norm_num [World.doneAfter, World.presentAfter, w, Callback.isResult]
    · intro m hm
      by_contra hlt
      have hlt : m < 3 := by omega
      rcases ht with rfl | rfl <;> interval_cases m <;>
        norm_num [World.doneAfter, World.presentAfter, w, Callback.isResult] at hm
  obtain ⟨n, hn, ha⟩ := wait_exact hi timeout w fun _ => .inr hd
  obtain rfl := hn.unique hthree
  have ha : w.Awaits (1 / 2) timeout 3 (wait k 0 (1 / 2) timeout 5 w).1
      (wait k 0 (1 / 2) timeout 5 w).2 := ha k 5 (by omega)
  refine ⟨_, Prod.ext ?_ rfl, ha.sleeps_eq, ?_⟩
  · exact ha.seen _ (List.mem_singleton_self _) rfl (by omega) (by rw [ha.clock_eq]; norm_num [w])
  · rw [ha.clock_eq]
    norm_num [w]

end Errand.Waiting
