import Errand.Proofs.Execution.Bookkeeping
import Mathlib.Algebra.BigOperators.Group.List.Basic
import Mathlib.Algebra.Ring.Int.Defs

/-! # The metrics of executions that take turns

Executions share the metrics of a program, and each of them keeps a ledger of its own. A *measure*
of the metrics that grows by a weight with every change is the sum of the weights over all ledgers
(`measure_eq_sum`), in whatever order the executions took their turns; so what is true of one ledger
adds up to what is true of the metrics.

The main statement is `metrics_accounted`: the starts without an end are those of the executions in
flight and of those that were broken off, and when all executions are over, each count is the number
of executions with its verdict. -/

namespace Errand

/-! ### The ledgers of parties -/

namespace Party

variable {p : Party}

/-- How the process of a party ended, as far as the party was told. -/
def ending? (p : Party) : Option Ending :=
  p.task.ledger.ending.or (p.transcript.findSome? Exchange.ending?)

/-- The verdict on that ending. -/
def verdict? (p : Party) : Option Verdict := p.ending?.map (·.verdict p.task.runner)

/-- What a party counted so far, and how its process ended. -/
def ledger (p : Party) : Ledger := ⟨p.updates.filter Metrics.Update.isCount, p.ending?⟩

theorem ledger_fresh (t : Task) : (fresh t).ledger = t.ledger := by
  unfold ledger ending? fresh updates Task.ledger
  dsimp only
  cases Runner.words t.command with
  | error f => rfl
  | ok args => exact congrArg _ (Option.or_none)

theorem updates_hear (q : Query) (next : q.Answer → Course Unit) (a : q.Answer) :
    (p.hear q next a).updates = p.updates ++ (Exchange.update? ⟨q, a⟩).toList := by
  unfold updates hear
  rw [List.filterMap_append]
  cases h : Exchange.update? ⟨q, a⟩ with
  | none => rw [List.filterMap_cons_none h]; rfl
  | some u => rw [List.filterMap_cons_some h]; rfl

theorem ledger_hear (q : Query) (next : q.Answer → Course Unit) (a : q.Answer) :
    (p.hear q next a).ledger = p.ledger.hear ⟨q, a⟩ := by
  have hu : ∀ u : Option Metrics.Update,
      u.toList.filter Metrics.Update.isCount = (u.filter Metrics.Update.isCount).toList := by
    intro u
    cases u with
    | none => rfl
    | some u => cases h : u.isCount <;> simp [Option.filter, h]
  have he : (p.hear q next a).ending? = p.ending?.or (Exchange.ending? ⟨q, a⟩) := by
    unfold ending? hear
    rw [List.findSome?_append, Option.or_assoc]
    congr 2
    cases h : Exchange.ending? ⟨q, a⟩ <;> simp [List.findSome?, h]
  unfold ledger Ledger.hear
  rw [updates_hear, List.filter_append, hu, he]

/-- What a party will ask keeps its ledger. -/
def Kept (p : Party) : Prop :=
  p.rest.Keeps (Ledger.Sound p.task.runner) (fun _ => p.task.Closes) p.ledger

theorem kept_fresh (t : Task) : (fresh t).Kept := by
  unfold Kept
  rw [ledger_fresh]
  exact t.keeps_course

theorem Kept.hear (h : p.Kept) {q : Query} {next : q.Answer → Course Unit}
    (hq : p.rest = .ask q next) {a : q.Answer} (ha : Company.Admits q a) :
    (p.hear q next a).Kept := by
  unfold Kept at h ⊢
  rw [hq] at h
  rw [ledger_hear]
  exact h.2 a ha

theorem Kept.closes (h : p.Kept) (ho : p.isOver = true) : p.task.Closes p.ledger := by
  unfold Kept at h
  unfold isOver at ho
  cases hr : p.rest with
  | done a => rw [hr] at h; exact h
  | broken f => rw [hr] at h; exact h
  | ask q next => rw [hr] at ho; cases ho

theorem Kept.sound (h : p.Kept) : p.ledger.Sound p.task.runner := by
  cases ho : p.isOver with
  | true => exact (h.closes ho).sound
  | false =>
    unfold Kept at h
    unfold isOver at ho
    cases hr : p.rest with
    | ask q next => rw [hr] at h; exact h.1
    | _ => rw [hr] at ho; cases ho

end Party

/-! ### Measures -/

namespace Company

variable {tasks : List Task} {c : Company}

theorem Reachable.kept (h : Reachable tasks c) : ∀ p ∈ c.parties, p.Kept := by
  induction h with
  | start =>
    intro p hp
    obtain ⟨t, -, rfl⟩ := List.mem_map.mp hp
    exact Party.kept_fresh t
  | step hr hs ih =>
    cases hs with
    | turn a hq ha =>
      intro p hp
      rcases List.mem_append.mp hp with hp | hp
      · exact ih p (List.mem_append_left _ hp)
      · rcases List.mem_cons.mp hp with rfl | hp
        · exact (ih _ (List.mem_append_right _ List.mem_cons_self)).hear hq ha
        · exact ih p (List.mem_append_right _ (List.mem_cons_of_mem _ hp))

/-- The first party asks. -/
theorem Reachable.turn_head {m : Metrics} {p : Party} {rest : List Party} {q : Query}
    {next : q.Answer → Course Unit} (h : Reachable tasks ⟨m, p :: rest⟩) (hq : p.rest = .ask q next)
    (a : q.Answer) (ha : Admits q a) :
    Reachable tasks ⟨change m ⟨q, a⟩, p.hear q next a :: rest⟩ :=
  h.step (@Step.turn m [] rest p q next a hq ha)

/-- The parties are those of the tasks. -/
theorem Reachable.tasks_eq (h : Reachable tasks c) : c.parties.map (·.task) = tasks := by
  induction h with
  | start =>
    rw [List.map_map]
    exact List.map_id tasks
  | step hr hs ih =>
    cases hs with
    | turn a hq ha =>
      rw [← ih, List.map_append, List.map_append]
      rfl

section Measure
variable (measure : Metrics → ℤ) {weight : Metrics.Update → ℤ}

theorem measure_change (hw : ∀ m u, measure (m.apply u) = measure m + weight u) (m : Metrics)
    (e : Exchange) : measure (change m e) = measure m + (e.update?.toList.map weight).sum := by
  unfold change
  cases e.update? with
  | none => simp
  | some u => simp [hw]

/-- What grows by a weight with every change is the sum of the weights of all changes. -/
theorem measure_eq_sum (h0 : measure {} = 0)
    (hw : ∀ m u, measure (m.apply u) = measure m + weight u) (h : Reachable tasks c) :
    measure c.metrics = (c.parties.map fun p => (p.updates.map weight).sum).sum := by
  induction h with
  | start =>
    rw [h0, List.map_map]
    exact (List.sum_eq_zero (by simp [Party.fresh, Party.updates])).symm
  | step hr hs ih =>
    cases hs with
    | turn a hq ha =>
      dsimp only at ih ⊢
      rw [measure_change measure hw, ih]
      simp only [List.map_append, List.map_cons, List.sum_append, List.sum_cons,
        Party.updates_hear]
      omega

end Measure

end Company

/-! ### What a change of the metrics adds -/

namespace Metrics

/-- The starts without an end. -/
def balance (m : Metrics) : ℤ := m.started - m.succeeded - m.failureTotal

/-- What a change adds to the balance. -/
def Update.balance : Update → ℤ
  | started => 1
  | succeeded | failed _ => -1
  | lasted _ _ | named _ _ => 0

theorem balance_apply (m : Metrics) (u : Update) :
    (m.apply u).balance = m.balance + u.balance := by
  unfold balance
  cases u with
  | failed reason =>
    have h : (m.apply (.failed reason)).failureTotal = m.failureTotal + 1 :=
      Labelled.sum_adjust reason m.failed
    rw [h]
    simp only [apply, Update.balance]
    omega
  | _ => simp only [apply, failureTotal, Update.balance]; omega

theorem succeeded_apply (m : Metrics) (u : Update) :
    ((m.apply u).succeeded : ℤ) = m.succeeded + if u = .succeeded then 1 else 0 := by
  cases u <;> simp [apply]

theorem failures_apply (label : String) (m : Metrics) (u : Update) :
    ((m.apply u).failures label : ℤ) = m.failures label + if u = .failed label then 1 else 0 := by
  cases u with
  | failed reason =>
    unfold failures apply
    by_cases h : label = reason
    · rw [h, Labelled.lookup_adjust_self]
      simp
    · rw [Labelled.lookup_adjust_of_ne h]
      simp [Ne.symm h]
  | _ => simp [failures, apply]

/-- What only counts add is added by the counts. -/
theorem sum_map_counts {weight : Update → ℤ} (h : ∀ u, u.isCount = false → weight u = 0)
    (us : List Update) : (us.map weight).sum = ((us.filter Update.isCount).map weight).sum := by
  induction us with
  | nil => rfl
  | cons u us ih =>
    cases hu : u.isCount with
    | true => simp [hu, ih]
    | false => simp [hu, ih, h u hu]

end Metrics

/-! ### What the ledger of one party adds up to -/

namespace Party

/-- The start is counted, and the execution goes on without a counted end. -/
def inFlight (p : Party) : Bool :=
  p.task.runner.metricsEnabled && p.hasStarted && !p.hasEnded && !p.isOver

/-- The start is counted, and the execution was broken off. -/
def isLost (p : Party) : Bool :=
  p.task.runner.metricsEnabled && p.hasStarted && p.isOver && p.verdict? == some .brokenOff

/-- Metrics are kept of the party, and this is its verdict. -/
def hasVerdict (v : Verdict) (p : Party) : Bool :=
  p.task.runner.metricsEnabled && p.verdict? == some v

variable {p : Party}

theorem hasStarted_eq (p : Party) : p.hasStarted = p.ledger.counts.contains .started := by
  unfold hasStarted ledger
  rw [Bool.eq_iff_iff]
  simp [Metrics.Update.isCount]

theorem hasEnded_eq (p : Party) : p.hasEnded = p.ledger.counts.any isEnd := by
  unfold hasEnded ledger
  rw [List.any_filter]
  congr 1
  funext u
  cases u <;> rfl

/-- What was counted of an execution that is over. -/
theorem Kept.counts_of_isOver (h : p.Kept) (ho : p.isOver = true) :
    p.ledger.counts = match p.verdict? with
      | none => []
      | some v => if p.task.runner.metricsEnabled then .started :: v.counts else [] := by
  have hc := h.closes ho
  unfold Task.Closes at hc
  unfold verdict?
  cases hw : Runner.words p.task.command with
  | error f =>
    rw [hw] at hc
    have he : p.ending? = none := congrArg Ledger.ending hc
    rw [he]
    exact congrArg Ledger.counts hc
  | ok args =>
    rw [hw] at hc
    obtain ⟨hs, hcounts⟩ := hc
    obtain ⟨e, he⟩ := Option.isSome_iff_exists.mp hs
    rw [hcounts, he, show p.ending? = some e from he]
    rfl

/-- An execution that is over has a verdict, unless its command was refused. -/
theorem Kept.verdict?_isSome (h : p.Kept) (ho : p.isOver = true)
    (hw : (Runner.words p.task.command).isOk = true) : p.verdict?.isSome = true := by
  have hc := h.closes ho
  unfold Task.Closes at hc
  cases hargs : Runner.words p.task.command with
  | error f => rw [hargs] at hw; cases hw
  | ok args =>
    rw [hargs] at hc
    unfold verdict?
    rw [Option.isSome_map]
    exact hc.1

/-- One execution has a start without an end as long as it is in flight, and for good if it was
broken off. -/
theorem Kept.sum_balance (h : p.Kept) :
    (p.updates.map Metrics.Update.balance).sum =
      (if p.inFlight then 1 else 0) + (if p.isLost then 1 else 0) := by
  rw [Metrics.sum_map_counts (by intro u hu; cases u <;> first | rfl | cases hu)]
  change (p.ledger.counts.map _).sum = _
  unfold inFlight isLost
  rw [hasStarted_eq, hasEnded_eq]
  cases ho : p.isOver with
  | true =>
    rw [h.counts_of_isOver ho]
    cases p.verdict? with
    | none => simp
    | some v =>
      cases hr : p.task.runner.metricsEnabled with
      | false => simp
      | true => cases v <;> simp [Verdict.counts, isEnd, Metrics.Update.balance]
  | false =>
    -- nothing is counted yet, the start is, or also an end
    rcases h.sound.counts_eq with hc | ⟨hr, hc | ⟨x, hx, hc⟩⟩
    · rw [hc]
      simp
    · rw [hc, hr]
      simp [isEnd, Metrics.Update.balance]
    · rw [hc, hr]
      cases x <;> simp [isEnd, Metrics.Update.balance] at hx ⊢

/-- Only what was broken off is over without an end. -/
theorem Kept.hasEnded_eq_false_iff (h : p.Kept) (ho : p.isOver = true)
    (hs : p.hasStarted = true) : p.hasEnded = false ↔ p.verdict? = some .brokenOff := by
  rw [hasStarted_eq, h.counts_of_isOver ho] at hs
  rw [hasEnded_eq, h.counts_of_isOver ho]
  cases hv : p.verdict? with
  | none => rw [hv] at hs; cases hs
  | some v =>
    rw [hv] at hs
    cases hr : p.task.runner.metricsEnabled with
    | false => rw [hr] at hs; cases hs
    | true => cases v <;> simp [Verdict.counts, isEnd]

/-- An execution that is over added one to the count of its verdict. -/
theorem Kept.sum_verdict (h : p.Kept) (ho : p.isOver = true) {v : Verdict} {x : Metrics.Update}
    (hx : v.counts = [x]) :
    (p.updates.map fun u => if u = x then (1 : ℤ) else 0).sum =
      if p.hasVerdict v then 1 else 0 := by
  have hcount : x.isCount = true ∧ x ≠ .started := by
    cases v <;> cases hx <;> exact ⟨rfl, nofun⟩
  rw [Metrics.sum_map_counts (by rintro u hu; rw [if_neg]; rintro rfl; simp [hcount.1] at hu)]
  change (p.ledger.counts.map _).sum = _
  unfold hasVerdict
  rw [h.counts_of_isOver ho]
  cases p.verdict? with
  | none => simp
  | some w =>
    cases p.task.runner.metricsEnabled with
    | false => simp
    | true =>
      by_cases hw : w = v
      · simp [hw, hx, Ne.symm hcount.2]
      · have hne : w.counts ≠ [x] := fun he => hw (Verdict.counts_inj (he.trans hx.symm))
        rcases w.counts_eq with hy | ⟨y, -, hy⟩
        · simp [hy, hw, Ne.symm hcount.2]
        · have hxy : y ≠ x := by rintro rfl; exact hne hy
          simp [hy, hw, Ne.symm hcount.2, hxy]

end Party

/-! ### The main statement -/

theorem sum_map_eq_countP {α : Type} {l : List α} {f : α → ℤ} {a : α → Bool}
    (h : ∀ x ∈ l, f x = if a x then 1 else 0) : (l.map f).sum = l.countP a := by
  induction l with
  | nil => rfl
  | cons x l ih =>
    have hx := h x List.mem_cons_self
    have hl := ih fun y hy => h y (List.mem_cons_of_mem x hy)
    cases ha : a x with
    | true => simp [ha] at hx ⊢; omega
    | false => simp [ha] at hx ⊢; omega

/-- When all executions are over, a measure of the ends with one verdict is their number. -/
theorem Company.measure_eq_countP (measure : Metrics → ℤ) (v : Verdict) {x : Metrics.Update}
    (hx : v.counts = [x]) (h0 : measure {} = 0)
    (hw : ∀ m u, measure (m.apply u) = measure m + if u = x then 1 else 0) {tasks : List Task}
    {c : Company} (h : Reachable tasks c) (ho : ∀ p ∈ c.parties, p.isOver = true) :
    measure c.metrics = c.parties.countP (·.hasVerdict v) := by
  rw [measure_eq_sum measure h0 hw h]
  exact sum_map_eq_countP fun p hp => (h.kept p hp).sum_verdict (ho p hp) hx

/-- **The metrics are accounted for.** Whatever turns the executions took, the starts without an end
are those of executions in flight and of executions that were broken off, which alone are over
without an end. When all executions are over, the number of successes and that of failures by each
reason are the numbers of executions with that verdict; and none that was not refused is without
one. -/
theorem metrics_accounted {tasks : List Task} {c : Company} (h : Company.Reachable tasks c) :
    c.parties.map (·.task) = tasks ∧
      (∀ p ∈ c.parties, p.isOver = true → (Runner.words p.task.command).isOk = true →
        p.verdict?.isSome = true) ∧
      (c.metrics.started : ℤ) - c.metrics.succeeded - c.metrics.failureTotal =
        c.parties.countP (·.inFlight) + c.parties.countP (·.isLost) ∧
      (∀ p ∈ c.parties, p.isOver = true → p.hasStarted = true →
        (p.hasEnded = false ↔ p.verdict? = some .brokenOff)) ∧
      ((∀ p ∈ c.parties, p.isOver = true) →
        c.metrics.succeeded = c.parties.countP (·.hasVerdict .success) ∧
          ∀ reason : Metrics.Reason, c.metrics.failures reason.label =
            c.parties.countP (·.hasVerdict (.failure reason))) := by
  refine ⟨h.tasks_eq, fun p hp ho => (h.kept p hp).verdict?_isSome ho, ?_, fun p hp ho hs =>
    (h.kept p hp).hasEnded_eq_false_iff ho hs, fun ho => ⟨?_, fun reason => ?_⟩⟩
  · have hb := Company.measure_eq_sum Metrics.balance rfl Metrics.balance_apply h
    have hp : (c.parties.map fun p => (p.updates.map Metrics.Update.balance).sum) =
        c.parties.map fun p => (if p.inFlight then 1 else 0) + (if p.isLost then 1 else 0) :=
      List.map_congr_left fun p hp => (h.kept p hp).sum_balance
    rw [hp, List.sum_map_add, sum_map_eq_countP fun _ _ => rfl, sum_map_eq_countP fun _ _ => rfl]
      at hb
    exact hb
  · have hs := Company.measure_eq_countP (fun m => m.succeeded) .success rfl rfl
      Metrics.succeeded_apply h ho
    exact_mod_cast hs
  · have hf := Company.measure_eq_countP (fun m => m.failures reason.label) (.failure reason)
      rfl rfl (Metrics.failures_apply reason.label) h ho
    exact_mod_cast hf

/-- One of two executions was broken off by its launcher after its start was counted; the other one
was not begun. -/
theorem metrics_accounted_of_broken_off :
    let r : Runner := { successExitValues := [.int 0] }
    let tasks : List Task :=
      [⟨r, .list [.text "true"], .execute⟩, ⟨r, .list [.text "true"], .cooperative true⟩]
    ∃ c, Company.Reachable tasks c ∧ c.parties.map (·.isOver) = [true, false] ∧
      c.parties.map (·.verdict?) = [some .brokenOff, none] ∧
      c.parties.map (·.task) = tasks ∧
      (∀ p ∈ c.parties, p.isOver = true → (Runner.words p.task.command).isOk = true →
        p.verdict?.isSome = true) ∧
      (c.metrics.started : ℤ) - c.metrics.succeeded - c.metrics.failureTotal =
        c.parties.countP (·.inFlight) + c.parties.countP (·.isLost) ∧
      (∀ p ∈ c.parties, p.isOver = true → p.hasStarted = true →
        (p.hasEnded = false ↔ p.verdict? = some .brokenOff)) ∧
      ((∀ p ∈ c.parties, p.isOver = true) →
        c.metrics.succeeded = c.parties.countP (·.hasVerdict .success) ∧
          ∀ reason : Metrics.Reason, c.metrics.failures reason.label =
            c.parties.countP (·.hasVerdict (.failure reason))) := by
  intro r tasks
  have h0 : Company.Reachable tasks ⟨{}, tasks.map Party.fresh⟩ := .start
  have h1 := h0.turn_head rfl (0.5 : Float) trivial
  have h2 := h1.turn_head rfl () trivial
  have h3 := h2.turn_head rfl () trivial
  have h4 := h3.turn_head rfl () trivial
  have h5 := h4.turn_head rfl (.raised (.other .runtime "no launcher") : RunAnswer) trivial
  exact ⟨_, h5, rfl, rfl, metrics_accounted h5⟩

end Errand
