import Errand.Execution.Interleaving
import Errand.Proofs.Execution.Conclusion

/-! # The books of an execution

What an execution records about itself is kept in a *ledger*: the counts it has made, and how its
process ended, once it was told so. An ending has a *verdict*, and a verdict is what an execution
owes its ledger. The ledger is *sound* as long as it holds a first part of what is owed, and it is
*closed* when the process has ended and all of that is there.

A course `Keeps` an invariant before each question that it asks, whatever the answers, and comes to
its end with a postcondition. Courses are built of parts, and `keeps_bind` goes from part to part;
most questions leave the ledger alone, and `keeps_quiet` passes over them. -/

namespace Errand

/-! ### Verdicts -/

/-- What is counted of an ending. -/
inductive Verdict where
  | success
  | failure (reason : Metrics.Reason)
  /-- Nothing is counted of an execution that was broken off. -/
  | brokenOff
  deriving DecidableEq

/-- The counts of a verdict. -/
def Verdict.counts : Verdict → List Metrics.Update
  | success => [.succeeded]
  | failure reason => [.failed reason.label]
  | brokenOff => []

theorem Metrics.Reason.label_inj {a b : Reason} (h : a.label = b.label) : a = b := by
  cases a <;> cases b <;> first | rfl | exact absurd h (by decide)

theorem Verdict.counts_inj {v w : Verdict} (h : v.counts = w.counts) : v = w := by
  cases v <;> cases w <;> simp only [counts, List.cons.injEq, Metrics.Update.failed.injEq,
    and_true, reduceCtorEq] at h ⊢
  rw [Metrics.Reason.label_inj h]

theorem Verdict.counts_eq (v : Verdict) :
    v.counts = [] ∨ ∃ x, Party.isEnd x = true ∧ v.counts = [x] := by
  cases v with
  | success => exact .inr ⟨_, rfl, rfl⟩
  | failure reason => exact .inr ⟨_, rfl, rfl⟩
  | brokenOff => exact .inl rfl

/-- The verdict on an ending. -/
def Ending.verdict (r : Runner) : Ending → Verdict
  | exits n _ _ => if r.isFailure (.int n) then .failure .exitValue else .success
  | timesOut _ _ => .failure .timeout
  | raises f => if f.isLaunchFault then .failure .launchError else .brokenOff
  | cancelled _ => .failure .cancelled

/-- How a process that was launched in one call ended. -/
def RunAnswer.ending : RunAnswer → Ending
  | exited n out err => .exits n out err
  | timedOut out err => .timesOut out err
  | raised f => .raises f

/-- How a process that was waited for ended. -/
def OutputAnswer.ending : OutputAnswer → Ending
  | exited n out err => .exits n (out.elim .nothing .bytes) (err.elim .nothing .bytes)
  | timedOut => .timesOut .nothing .nothing
  | cancelled n => .cancelled n
  | raised f => .raises f

/-- What an exchange tells about how the process ends. -/
def Exchange.ending? : Exchange → Option Ending
  | ⟨.run _ _, answer⟩ => some (RunAnswer.ending answer)
  | ⟨.start _, .error f⟩ => some (.raises f)
  | ⟨.output _, answer⟩ => some (OutputAnswer.ending answer)
  | _ => none

/-! ### Ledgers -/

/-- Whether a change of the metrics counts something. -/
def Metrics.Update.isCount : Metrics.Update → Bool
  | started | succeeded | failed _ => true
  | lasted _ _ | named _ _ => false

/-- What a record counts. -/
def Metrics.Record.count : Metrics.Record → Metrics.Update
  | started => .started
  | succeeded _ => .succeeded
  | failed reason _ => .failed reason

/-- Whether a question and its answer leave the ledger alone. -/
def Query.isQuiet : Query → Bool
  | update u => !u.isCount
  | run _ _ | start _ | output _ => false
  | _ => true

/-- What an execution counted, and how its process ended. -/
structure Ledger where
  counts : List Metrics.Update := []
  ending : Option Ending := none

namespace Ledger

/-- The ledger after an exchange. -/
def hear (l : Ledger) (e : Exchange) : Ledger :=
  ⟨l.counts ++ (e.update?.filter Metrics.Update.isCount).toList, l.ending.or e.ending?⟩

/-- The counts of an ending, if there is one. -/
def due (r : Runner) : Option Ending → List Metrics.Update
  | none => []
  | some e => (e.verdict r).counts

/-- What a runner counts of an execution with this ending, or until there is one. -/
def owed (r : Runner) (e : Option Ending) : List Metrics.Update :=
  if r.metricsEnabled then .started :: due r e else []

/-- What was counted is a first part of what is owed. -/
def Sound (r : Runner) (l : Ledger) : Prop := l.counts <+: owed r l.ending

/-- The process has ended, and what was counted is all that is owed. -/
def Closed (r : Runner) (l : Ledger) : Prop :=
  l.ending.isSome = true ∧ l.counts = owed r l.ending

/-- The ledger after something was recorded. -/
def recorded (r : Runner) (x : Metrics.Record) (l : Ledger) : Ledger :=
  if r.metricsEnabled then { l with counts := l.counts ++ [x.count] } else l

variable {r : Runner} {l : Ledger} {e : Option Ending}

theorem Closed.sound (h : l.Closed r) : l.Sound r := ⟨[], (List.append_nil _).trans h.2⟩

theorem Sound.of_recorded {x : Metrics.Record} (h : (l.recorded r x).Sound r) : l.Sound r := by
  unfold Sound recorded at h
  split_ifs at h
  · exact (List.prefix_append _ _).trans h
  · exact h

theorem due_eq (r : Runner) (e : Option Ending) :
    due r e = [] ∨ ∃ x, Party.isEnd x = true ∧ due r e = [x] := by
  cases e with
  | none => exact .inl rfl
  | some e => exact (e.verdict r).counts_eq

/-- A sound ledger is blank, or it has the start, or also an end. -/
theorem Sound.counts_eq (h : l.Sound r) : l.counts = [] ∨
    r.metricsEnabled = true ∧ (l.counts = [.started] ∨
      ∃ x, Party.isEnd x = true ∧ l.counts = [.started, x]) := by
  unfold Sound owed at h
  split_ifs at h with hr
  · rcases List.prefix_cons_iff.mp h with hl | ⟨t, hl, ht⟩
    · exact .inl hl
    · refine .inr ⟨hr, ?_⟩
      rcases due_eq r l.ending with hd | ⟨x, hx, hd⟩
      · rw [hd, List.prefix_nil] at ht
        exact .inl (by rw [hl, ht])
      · rw [hd] at ht
        rcases List.prefix_cons_iff.mp ht with rfl | ⟨_, rfl, hn⟩
        · exact .inl hl
        · rw [List.prefix_nil.mp hn] at hl
          exact .inr ⟨x, hx, hl⟩
  · exact .inl (List.prefix_nil.mp h)

theorem owed_none_prefix (r : Runner) (e : Option Ending) : owed r none <+: owed r e := by
  unfold owed
  split_ifs
  · exact ⟨due r e, rfl⟩
  · exact List.prefix_rfl

theorem recorded_started (r : Runner) (e : Option Ending) :
    recorded r .started ⟨[], e⟩ = ⟨owed r none, e⟩ := by
  unfold recorded owed
  split_ifs <;> rfl

theorem recorded_end {x : Metrics.Record} {e : Ending} (h : (e.verdict r).counts = [x.count]) :
    recorded r x ⟨owed r none, some e⟩ = ⟨owed r (some e), some e⟩ := by
  have hd : due r (some e) = [x.count] := h
  unfold recorded owed
  rw [hd]
  split_ifs <;> rfl

theorem hear_eq_self {x : Exchange} (hu : x.update?.filter Metrics.Update.isCount = none)
    (he : x.ending? = none) (l : Ledger) : l.hear x = l := by
  unfold hear
  rw [hu, he, Option.or_none]
  exact congrArg (Ledger.mk · _) (List.append_nil _)

theorem hear_of_isQuiet {q : Query} (h : q.isQuiet = true) (l : Ledger) (a : q.Answer) :
    l.hear ⟨q, a⟩ = l := by
  cases q with
  | update u =>
    cases u with
    | lasted outcome d => exact hear_eq_self rfl rfl l
    | named version name => exact hear_eq_self rfl rfl l
    | _ => cases h
  | run request timeout => cases h
  | start request => cases h
  | output timeout => cases h
  | _ => exact hear_eq_self rfl rfl l

theorem hear_count {u : Metrics.Update} (h : u.isCount = true) (l : Ledger)
    (a : (Query.update u).Answer) :
    l.hear ⟨.update u, a⟩ = { l with counts := l.counts ++ [u] } := by
  unfold hear Exchange.update? Exchange.ending?
  dsimp only
  rw [Option.filter_some, if_pos h, Option.or_none]
  rfl

theorem hear_ending {x : Exchange} {counts : List Metrics.Update} {e : Ending}
    (hu : x.update? = none) (he : x.ending? = some e) :
    hear ⟨counts, none⟩ x = ⟨counts, some e⟩ := by
  unfold hear
  rw [hu, he, Option.none_or]
  exact congrArg (Ledger.mk · _) (List.append_nil _)

end Ledger

/-! ### What a course keeps -/

namespace Course

variable {α β : Type} {I : Ledger → Prop}

/-- Before each question the ledger is as it should be, whatever the answers are, and at the end
the result fits it. -/
def Keeps (I : Ledger → Prop) (Q : Except Fault α → Ledger → Prop) : Course α → Ledger → Prop
  | .done a, l => Q (.ok a) l
  | .broken f, l => Q (.error f) l
  | .ask q next, l => I l ∧ ∀ a, Company.Admits q a → (next a).Keeps I Q (l.hear ⟨q, a⟩)

variable {P : Except Fault α → Ledger → Prop} {Q : Except Fault β → Ledger → Prop} {l : Ledger}

theorem keeps_bind {c : Course α} {k : α → Course β} (h : c.Keeps I P l)
    (hk : ∀ a l, P (.ok a) l → (k a).Keeps I Q l) (hf : ∀ f l, P (.error f) l → Q (.error f) l) :
    (c.bind k).Keeps I Q l := by
  induction c generalizing l with
  | done a => exact hk a l h
  | broken f => exact hf f l h
  | ask q next ih => exact ⟨h.1, fun a ha => ih a (h.2 a ha)⟩

theorem keeps_attempt {c : Course α} {Q : Except Fault (Except Fault α) → Ledger → Prop}
    (h : c.Keeps I P l) (hQ : ∀ x l, P x l → Q (.ok x) l) : c.attempt.Keeps I Q l := by
  induction c generalizing l with
  | done a => exact hQ _ l h
  | broken f => exact hQ _ l h
  | ask q next ih => exact ⟨h.1, fun a ha => ih a (h.2 a ha)⟩

theorem keeps_query {q : Query} {k : q.Answer → Course β} (hl : I l)
    (hk : ∀ a, Company.Admits q a → (k a).Keeps I Q (l.hear ⟨q, a⟩)) :
    ((query q).bind k).Keeps I Q l :=
  ⟨hl, hk⟩

theorem keeps_quiet {q : Query} (hq : q.isQuiet = true) {k : q.Answer → Course β} (hl : I l)
    (hk : ∀ a, Company.Admits q a → (k a).Keeps I Q l) : ((query q).bind k).Keeps I Q l :=
  keeps_query hl fun a ha => by
    rw [Ledger.hear_of_isQuiet hq]
    exact hk a ha

theorem keeps_last {q : Query} {Q : Except Fault q.Answer → Ledger → Prop}
    (hq : q.isQuiet = true) (hl : I l) (hQ : ∀ a, Q (.ok a) l) : (query q).Keeps I Q l :=
  ⟨hl, fun a _ => (congrArg (Q (.ok a)) (Ledger.hear_of_isQuiet hq l a)).mpr (hQ a)⟩

theorem keeps_count {u : Metrics.Update} (hu : u.isCount = true) {k : Unit → Course β} (hl : I l)
    (hk : (k ()).Keeps I Q { l with counts := l.counts ++ [u] }) :
    ((query (.update u)).bind k).Keeps I Q l :=
  keeps_query hl fun a _ =>
    (congrArg ((k a).Keeps I Q) (Ledger.hear_count hu l a)).mpr hk

theorem keeps_record {r : Runner} {x : Metrics.Record} {k : Unit → Course β}
    (hx : (l.recorded r x).Sound r) (hk : (k ()).Keeps (Ledger.Sound r) Q (l.recorded r x)) :
    ((r.record x).bind k).Keeps (Ledger.Sound r) Q l := by
  have hl := Ledger.Sound.of_recorded hx
  unfold Runner.record
  unfold Ledger.recorded at hx hk
  split_ifs at hx hk ⊢
  · -- the count comes first, and the duration that may follow it is none
    cases x with
    | started =>
      exact keeps_count rfl hl hk
    | succeeded d =>
      exact keeps_count rfl hl (keeps_quiet rfl hx fun _ _ => hk)
    | failed reason d =>
      exact keeps_count rfl hl (keeps_quiet rfl hx fun _ _ => hk)
  · exact hk

end Course

end Errand
