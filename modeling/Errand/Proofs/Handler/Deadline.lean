import Errand.Proofs.Decimal.Double
import Errand.Proofs.Handler.Firing

/-! # Deadlines of the two kinds of waits

A blocking wait goes on while the clock is before its deadline, and a cooperative one until its
deadline is not after the clock. Between numbers that is the same, and the clock of a wait always
shows a number (`Ticks.sleep`), so the two kinds of waits take the same course as long as their
deadline is a number (`poll_eq_poll`). A deadline that is none is one that the clock is never before
and that is always after the clock: a blocking wait is over at once (`poll_of_isNaN`), and a
cooperative one has no deadline at all (`poll_cooperative_of_isNaN`).

The main statement is `waits_agree_iff`: the two kinds of waits agree unless the timeout is a NaN
and there is no result yet. At such a timeout they do not (`waits_differ_of_nan`). -/

namespace Errand.Waiting

variable {δ : Type} [Schedule δ Float]

/-! ### The clock of a wait -/

/-- A clock that goes on by an interval shows a number now and after the next step. -/
def Ticks (clock interval : Float) : Prop :=
  clock.isNaN = false ∧ (clock + interval).isNaN = false

/-- A clock that shows a finite time goes on by every interval above zero. -/
theorem ticks_of_isFinite {clock interval : Float} (hc : clock.isFinite = true)
    (hp : 0.0 < interval) : Ticks clock interval := by
  refine ⟨?_, ?_⟩
  · have hz := Double.isNaN_add_of_isFinite_right (x := clock) (y := 0.0) (by decide)
    rw [← hz, Double.isNaN_add_of_isFinite_left hc]
    decide
  · rw [Double.isNaN_add_of_isFinite_left hc]
    exact Double.isNaN_of_lt hp

theorem clock_sleep {interval : Float} (hp : 0.0 < interval) (w : World Float δ) :
    (w.sleep 0.0 interval).clock = w.clock + interval := by
  unfold World.sleep
  rw [if_pos hp]
  exact clock_fire _

theorem Ticks.sleep {interval : Float} (hp : 0.0 < interval) {w : World Float δ}
    (h : Ticks w.clock interval) : Ticks (w.sleep 0.0 interval).clock interval := by
  rw [clock_sleep hp]
  exact ⟨h.2, Double.isNaN_add_add h.2⟩

/-! ### Deadlines that are numbers -/

theorem expired_eq_expired {deadline : Option Float} (hd : ∀ d ∈ deadline, d.isNaN = false)
    {clock : Float} (hc : clock.isNaN = false) :
    Kind.blocking.expired deadline clock = Kind.cooperative.expired deadline clock := by
  cases deadline with
  | none => rfl
  | some d => exact decide_eq_decide.mpr (Double.le_iff_not_lt hc (hd d rfl)).symm

/-- With a deadline that is a number, or without one, waits of both kinds take the same course. -/
theorem poll_eq_poll {interval : Float} (hp : 0.0 < interval) {deadline : Option Float}
    (hd : ∀ d ∈ deadline, d.isNaN = false) (sleeps : Nat) {w : World Float δ}
    (hw : Ticks w.clock interval) :
    poll .blocking 0.0 interval deadline sleeps w =
      poll .cooperative 0.0 interval deadline sleeps w := by
  have hn : ¬interval < 0.0 := Double.not_lt_of_lt hp
  have ho (w : World Float δ) (hw : Ticks w.clock interval) :
      Kind.blocking.over deadline w = Kind.cooperative.over deadline w := by
    unfold Kind.over
    rw [expired_eq_expired hd hw.1]
  induction sleeps generalizing w with
  | zero =>
    unfold poll
    rw [ho w hw]
    simp only [hn, and_false]
  | succ n ih =>
    unfold poll
    rw [ho w hw]
    simp only [hn, and_false]
    rw [ih (hw.sleep hp)]

/-! ### Deadlines that are none -/

/-- A blocking wait whose deadline is no number is over at its first look. -/
theorem poll_of_isNaN {d : Float} (hd : d.isNaN = true) (interval : Float) (sleeps : Nat)
    (w : World Float δ) :
    poll .blocking 0.0 interval (some d) sleeps w =
      (if w.handler.hasResult then .result else .noResult, w) := by
  have he : Kind.blocking.expired (some d) w.clock = true :=
    decide_eq_true (Double.not_lt_of_isNaN hd)
  have ho : Kind.blocking.over (some d) w = true := by
    unfold Kind.over
    rw [he, Bool.or_true]
  unfold poll
  rw [if_pos ho]

/-- A cooperative wait whose deadline is no number has no deadline. -/
theorem poll_cooperative_of_isNaN {d : Float} (hd : d.isNaN = true) (interval : Float)
    (sleeps : Nat) (w : World Float δ) :
    poll .cooperative 0.0 interval (some d) sleeps w =
      poll .cooperative 0.0 interval none sleeps w := by
  have ho (w : World Float δ) :
      Kind.cooperative.over (some d) w = Kind.cooperative.over none w := by
    have he : Kind.cooperative.expired (some d) w.clock = false :=
      decide_eq_false (Double.not_le_of_isNaN hd)
    unfold Kind.over
    rw [he]
    rfl
  induction sleeps generalizing w with
  | zero =>
    unfold poll
    rw [ho]
  | succ n ih =>
    unfold poll
    rw [ho]
    dsimp only
    rw [ih]

/-- A wait without a deadline does not end without a result. -/
theorem poll_ne_noResult (k : Kind) (interval : Float) (sleeps : Nat) (w : World Float δ) :
    (poll k 0.0 interval none sleeps w).1 ≠ .noResult := by
  have ho (w : World Float δ) : k.over none w = w.handler.hasResult := Bool.or_false _
  induction sleeps generalizing w with
  | zero =>
    unfold poll
    rw [ho]
    split
    · exact Verdict.noConfusion
    · split <;> exact Verdict.noConfusion
  | succ n ih =>
    unfold poll
    rw [ho]
    split
    · exact Verdict.noConfusion
    · split
      · exact Verdict.noConfusion
      · exact ih _

/-! ### Waits of a program -/

/-- Only a NaN is a number of seconds that is no number. -/
theorem eq_of_isNaN_seconds {v : Value} {x : Float} (h : seconds v = .ok x) (hx : x.isNaN = true) :
    v = .float x := by
  cases v with
  | float y => cases h; rfl
  | bool b => cases h; cases b <;> cases hx
  | int n =>
    unfold seconds at h
    dsimp only at h
    split at h
    · rename_i y hn
      cases h
      rw [Double.isNaN_of_doubleOfInt? hn] at hx
      cases hx
    · cases h
  | _ => cases h

theorem isNaN_of_timeoutOf {timeout : Value} {t : Option Float} (ht : timeoutOf timeout = .ok t)
    (hn : ∀ x, timeout = .float x → x.isNaN = false) : ∀ x ∈ t, x.isNaN = false := by
  rintro x rfl
  rw [← Bool.not_eq_true]
  intro hx
  have hs : seconds timeout = .ok x := by
    unfold timeoutOf at ht
    split at ht
    · cases ht
    · cases hv : seconds timeout with
      | error f => rw [hv] at ht; cases ht
      | ok y => rw [hv] at ht; cases ht; rfl
  have hf := hn x (eq_of_isNaN_seconds hs hx)
  rw [hx] at hf
  cases hf

/-- What a wait answers: whether there is a result, if it came to its end. -/
def Verdict.answer? : Verdict → Option Bool
  | result => some true
  | noResult => some false
  | outOfSleeps | fault _ => none

/-- A wait answers whether there is a result, and leaves a world, if it has sleeps enough. -/
def Answers (k : Kind) (milliseconds timeout : Value) (w : World Float δ) (present : Bool)
    (last : World Float δ) : Prop :=
  ∃ sleeps, (await k sleeps milliseconds timeout w).1.answer? = some present ∧
    (await k sleeps milliseconds timeout w).2.1 = last

section Answers
variable {k : Kind} {milliseconds timeout : Value} {i : Float} {w last : World Float δ}
  {present : Bool}

theorem answers_iff (hi : interval milliseconds = .ok i) {t : Option Float}
    (ht : timeoutOf timeout = .ok t) :
    Answers k milliseconds timeout w present last ↔
      ∃ sleeps, (wait k 0.0 i t sleeps w).1.answer? = some present ∧
        (wait k 0.0 i t sleeps w).2 = last := by
  have ha (sleeps : Nat) : ∃ lines, await k sleeps milliseconds timeout w =
      ((wait k 0.0 i t sleeps w).1, (wait k 0.0 i t sleeps w).2, lines) := by
    unfold await
    rw [hi, ht]
    dsimp only
    split <;> exact ⟨_, rfl⟩
  refine exists_congr fun sleeps => ?_
  obtain ⟨lines, h⟩ := ha sleeps
  rw [h]

/-- A wait with a timeout that is no number of seconds does not answer. -/
theorem not_answers (hi : interval milliseconds = .ok i) {f : Fault}
    (ht : timeoutOf timeout = .error f) : ¬Answers k milliseconds timeout w present last := by
  rintro ⟨sleeps, h, -⟩
  unfold await at h
  rw [hi, ht] at h
  cases h

end Answers

/-! ### The main statement -/

section Agreement
variable {milliseconds timeout : Value} {i : Float} (hi : interval milliseconds = .ok i)
  {w : World Float δ}
include hi

/-- A wait whose course is over at its first look answers at once. -/
theorem answers_iff_of_wait_eq {k : Kind} {t : Option Float} (ht : timeoutOf timeout = .ok t)
    (hp : ∀ sleeps, wait k 0.0 i t sleeps w =
      (if w.handler.hasResult then .result else .noResult, w))
    (present : Bool) (last : World Float δ) :
    Answers k milliseconds timeout w present last ↔ present = w.handler.hasResult ∧ last = w := by
  have ha : (if w.handler.hasResult then Verdict.result else .noResult).answer? =
      some w.handler.hasResult := by
    cases w.handler.hasResult <;> rfl
  rw [answers_iff hi ht]
  simp only [hp, ha, Option.some.injEq, exists_const]
  exact and_congr eq_comm eq_comm

/-- A wait of any kind answers at once if there is a result. -/
theorem answers_iff_of_hasResult (hr : w.handler.hasResult = true) {t : Option Float}
    (ht : timeoutOf timeout = .ok t) (k : Kind) (present : Bool) (last : World Float δ) :
    Answers k milliseconds timeout w present last ↔ present = w.handler.hasResult ∧ last = w := by
  refine answers_iff_of_wait_eq hi ht (fun sleeps => ?_) present last
  unfold wait poll Kind.over
  rw [hr, Bool.true_or, if_pos rfl]

/-- A blocking wait whose timeout is a NaN answers at once. -/
theorem answers_blocking_of_isNaN (hc : w.clock.isFinite = true) {x : Float} (hx : x.isNaN = true)
    (present : Bool) (last : World Float δ) :
    Answers .blocking milliseconds (.float x) w present last ↔
      present = w.handler.hasResult ∧ last = w := by
  have hd : (w.clock + x).isNaN = true := (Double.isNaN_add_of_isFinite_left hc).trans hx
  have ht : timeoutOf (.float x) = .ok (some x) := rfl
  exact answers_iff_of_wait_eq hi ht (fun sleeps => poll_of_isNaN hd i sleeps w) present last

/-- A cooperative wait whose timeout is a NaN waits for ever. -/
theorem answers_cooperative_of_isNaN (hc : w.clock.isFinite = true) {x : Float}
    (hx : x.isNaN = true) (present : Bool) (last : World Float δ) :
    Answers .cooperative milliseconds (.float x) w present last ↔
      Answers .cooperative milliseconds .null w present last := by
  have hd : (w.clock + x).isNaN = true := (Double.isNaN_add_of_isFinite_left hc).trans hx
  have hp (sleeps : Nat) : wait .cooperative 0.0 i (some x) sleeps w =
      wait .cooperative 0.0 i none sleeps w := poll_cooperative_of_isNaN hd i sleeps w
  rw [answers_iff hi (show timeoutOf (.float x) = .ok (some x) from rfl),
    answers_iff hi (show timeoutOf .null = .ok none from rfl)]
  simp only [hp]

/-- Waits of both kinds answer alike if their timeout is no NaN. -/
theorem answers_iff_answers (hp : 0.0 < i) (hc : w.clock.isFinite = true)
    (hn : ∀ x, timeout = .float x → x.isNaN = false) (present : Bool) (last : World Float δ) :
    Answers .blocking milliseconds timeout w present last ↔
      Answers .cooperative milliseconds timeout w present last := by
  cases ht : timeoutOf timeout with
  | error f => exact iff_of_false (not_answers hi ht) (not_answers hi ht)
  | ok t =>
    have hd : ∀ d ∈ t.map (w.clock + ·), d.isNaN = false := by
      intro d hd
      obtain ⟨x, hx, rfl⟩ := Option.map_eq_some_iff.mp hd
      rw [Double.isNaN_add_of_isFinite_left hc]
      exact isNaN_of_timeoutOf ht hn x hx
    have hw (sleeps : Nat) : wait .blocking 0.0 i t sleeps w = wait .cooperative 0.0 i t sleeps w :=
      poll_eq_poll hp hd sleeps (ticks_of_isFinite hc hp)
    rw [answers_iff hi ht, answers_iff hi ht]
    simp only [hw]

/-- At a timeout that is a NaN, and without a result, only a blocking wait answers that there is
none. -/
theorem answers_differ (hc : w.clock.isFinite = true) {x : Float} (hx : x.isNaN = true)
    (hr : w.handler.hasResult = false) :
    Answers .blocking milliseconds (.float x) w false w ∧
      ∀ last, ¬Answers .cooperative milliseconds (.float x) w false last := by
  refine ⟨(answers_blocking_of_isNaN hi hc hx ..).mpr ⟨hr.symm, rfl⟩, fun last h => ?_⟩
  rw [answers_cooperative_of_isNaN hi hc hx,
    answers_iff hi (show timeoutOf .null = .ok none from rfl)] at h
  obtain ⟨sleeps, h, -⟩ := h
  have hv := poll_ne_noResult .cooperative i sleeps w
  unfold wait at h
  rw [Option.map_none] at h
  cases he : (poll .cooperative 0.0 i none sleeps w).1 with
  | noResult => exact hv he
  | _ => rw [he] at h; cases h

end Agreement

/-- **When the two kinds of waits agree.** A handler is looked at in intervals above zero, from a
finite time on, with any callbacks to come. A blocking and a cooperative wait come to the same
answers and leave the same worlds, with as many sleeps, exactly if there is a result already or the
timeout is no NaN. If it is one, a blocking wait answers at once, and a cooperative one as if it
might wait for ever. -/
theorem waits_agree_iff {milliseconds : Value} {i : Float} (hi : interval milliseconds = .ok i)
    (hp : 0.0 < i) (w : World Float δ) (hc : w.clock.isFinite = true) (timeout : Value) :
    ((∀ present last, Answers .blocking milliseconds timeout w present last ↔
        Answers .cooperative milliseconds timeout w present last) ↔
      w.handler.hasResult = true ∨ ∀ x, timeout = .float x → x.isNaN = false) ∧
    ∀ x, timeout = .float x → x.isNaN = true → ∀ present last,
      (Answers .blocking milliseconds timeout w present last ↔
        present = w.handler.hasResult ∧ last = w) ∧
      (Answers .cooperative milliseconds timeout w present last ↔
        Answers .cooperative milliseconds .null w present last) := by
  refine ⟨⟨fun ha => ?_, ?_⟩, ?_⟩
  · cases hr : w.handler.hasResult with
    | true => exact .inl rfl
    | false =>
      refine .inr fun x ht => ?_
      rw [← Bool.not_eq_true]
      intro hx
      subst ht
      obtain ⟨hb, hn⟩ := answers_differ hi hc hx hr
      exact hn w ((ha false w).mp hb)
  · rintro (hr | hn) present last
    · cases ht : timeoutOf timeout with
      | error f => exact iff_of_false (not_answers hi ht) (not_answers hi ht)
      | ok t =>
        rw [answers_iff_of_hasResult hi hr ht, answers_iff_of_hasResult hi hr ht]
    · exact answers_iff_answers hi hp hc hn present last
  · rintro x rfl hx present last
    exact ⟨answers_blocking_of_isNaN hi hc hx present last,
      answers_cooperative_of_isNaN hi hc hx present last⟩

/-- A result comes in the third sleep of fifty milliseconds, and the wait may take for ever: both
kinds answer, and leave the same world. -/
theorem waits_agree_iff_of_infinity :
    let w : World Float Moment :=
      { clock := 10.0, due := [⟨.double 10.12, .failed ⟨.text "killed", .int 9, none⟩⟩] }
    let forever : Value := .float (1.0 / 0.0)
    interval (.int 50) = .ok (50.0 / 1000.0) ∧ (0.0 : Float) < 50.0 / 1000.0 ∧
      w.clock.isFinite = true ∧ w.handler.hasResult = false ∧
      ∃ last, last.sleeps = 3 ∧ Answers .blocking (.int 50) forever w true last ∧
        Answers .cooperative (.int 50) forever w true last := by
  intro w forever
  have hi : interval (.int 50) = .ok (50.0 / 1000.0) := by rfl
  have hp : (0.0 : Float) < 50.0 / 1000.0 := by decide
  have hc : w.clock.isFinite = true := by decide
  have hn : ∀ x, forever = .float x → x.isNaN = false := by
    intro x hx
    cases Value.float.inj hx
    decide
  have hs : (await .blocking 3 (.int 50) forever w).2.1.sleeps = 3 := by decide +kernel
  have hb : Answers .blocking (.int 50) forever w true
      (await .blocking 3 (.int 50) forever w).2.1 := ⟨3, by decide +kernel, rfl⟩
  have hagree := (waits_agree_iff hi hp w hc forever).1.mpr (.inr hn)
  exact ⟨hi, hp, hc, rfl, _, hs, hb, (hagree _ _).mp hb⟩

/-- A blocking wait with a NaN for its timeout answers at once that there is no result, and a
cooperative one answers with the result that comes while it sleeps. -/
theorem waits_differ_of_nan :
    let w : World Float Moment := { clock := 0.0, due := [⟨.double 0.02, .complete (.int 0)⟩] }
    let nan : Value := .float (0.0 / 0.0)
    Answers .blocking (.int 50) nan w false w ∧
      (∀ last, ¬Answers .cooperative (.int 50) nan w false last) ∧
      ∃ last, last.sleeps = 1 ∧ Answers .cooperative (.int 50) nan w true last := by
  intro w nan
  have hi : interval (.int 50) = .ok (50.0 / 1000.0) := by rfl
  have hc : w.clock.isFinite = true := by decide
  have hx : (0.0 / 0.0 : Float).isNaN = true := by decide
  have hs : (await .cooperative 1 (.int 50) nan w).2.1.sleeps = 1 := by decide +kernel
  obtain ⟨hb, hn⟩ := answers_differ hi hc hx (w := w) rfl
  exact ⟨hb, hn, _, hs, 1, by decide +kernel, rfl⟩

end Errand.Waiting
