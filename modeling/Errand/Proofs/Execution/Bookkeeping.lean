import Errand.Proofs.Execution.Command
import Errand.Proofs.Execution.Ledger

/-! # Every execution keeps its books

Part by part: the first part of an execution counts its start, and the last part counts the verdict
on its ending (`keeps_opening`, `keeps_conclude`), so an execution whose ledger was blank has a
closed one at its end (`keeps_runWords`, `keeps_runWordsCooperatively`). What is put around an
execution to tell a caller or a handler of it leaves the ledger alone. -/

namespace Errand

/-! ### From an ending to its conclusion -/

/-- What an execution concludes from an ending, is what its verdict asks for. -/
def Ending.Leads (r : Runner) (e : Ending) : Except Fault Conclusion → Prop
  | .ok c => ∀ d, (e.verdict r).counts = [(c.record r d).count]
  | .error _ => e.verdict r = .brokenOff

theorem Ending.leads_exited (r : Runner) (n : Int) (out err : Capture) (stdout stderr : String) :
    (exits n out err).Leads r (.ok (.exited n stdout stderr)) := by
  intro d
  unfold verdict Conclusion.record
  dsimp only
  split_ifs <;> rfl

theorem Fault.leads_conclusion (r : Runner) (f : Fault) :
    (Ending.raises f).Leads r f.conclusion := by
  unfold conclusion
  split_ifs with h
  · intro d
    unfold Ending.verdict
    dsimp only
    rw [if_pos h]
    rfl
  · exact if_neg h

theorem RunAnswer.leads_conclusion (r : Runner) (a : RunAnswer) :
    a.ending.Leads r a.conclusion := by
  cases a with
  | exited n out err => exact Ending.leads_exited r n out err _ _
  | timedOut out err => exact fun _ => rfl
  | raised f => exact f.leads_conclusion r

/-! ### The parts of an execution -/

/-- The ending of every execution whose environment cannot be made. -/
def Runner.barred (r : Runner) : Option Ending :=
  match r.environment with
  | .error f => some (.raises f)
  | .ok _ => none

namespace Course

open Ledger (owed Sound Closed)

variable {β : Type} (r : Runner) (args : List String) (started : Float)

theorem keeps_opening {heading : String} {e : Option Ending} {k : Unit → Course β}
    {Q : Except Fault β → Ledger → Prop} (hk : (k ()).Keeps (Sound r) Q ⟨owed r none, e⟩) :
    ((r.opening args heading).bind k).Keeps (Sound r) Q ⟨[], e⟩ := by
  have hb : Sound r ⟨[], e⟩ := List.nil_prefix
  unfold Runner.opening
  rw [bind_assoc]
  refine keeps_quiet rfl hb fun _ _ => ?_
  rw [bind_assoc]
  refine keeps_quiet rfl hb fun _ _ => keeps_record ?_ ?_
  · rw [Ledger.recorded_started]
    exact Ledger.owed_none_prefix r e
  · rw [Ledger.recorded_started]
    exact hk

theorem keeps_end {e : Ending} {x : Metrics.Record} (h : (e.verdict r).counts = [x.count])
    (next : Course β) (hn : next.Keeps (Sound r) (fun _ => Closed r) ⟨owed r (some e), some e⟩) :
    ((r.record x).bind fun _ => next).Keeps (Sound r) (fun _ => Closed r)
      ⟨owed r none, some e⟩ := by
  refine keeps_record ?_ ?_
  · rw [Ledger.recorded_end h]
    exact List.prefix_rfl
  · rw [Ledger.recorded_end h]
    exact hn

theorem keeps_conclude {e : Ending} {x : Except Fault Conclusion} (h : e.Leads r x) :
    (r.conclude args started x).Keeps (Sound r) (fun _ => Closed r) ⟨owed r none, some e⟩ := by
  have hs : Sound r ⟨owed r none, some e⟩ := Ledger.owed_none_prefix r _
  cases x with
  | error f =>
    have hd : Ledger.due r (some e) = [] := congrArg Verdict.counts h
    refine ⟨rfl, ?_⟩
    unfold owed
    rw [hd]
    rfl
  | ok c =>
    unfold Runner.conclude Conclusion.course
    dsimp only
    refine keeps_quiet rfl hs fun now _ => ?_
    refine keeps_quiet rfl hs fun _ _ => ?_
    refine keeps_quiet rfl hs fun _ _ => ?_
    exact keeps_end r (h _) _ ⟨rfl, rfl⟩

theorem keeps_killAndReap {next : Course β} {Q : Except Fault β → Ledger → Prop} {l : Ledger}
    (hl : l.Sound r) (hn : next.Keeps (Sound r) Q l) :
    (Runner.killAndReap next).Keeps (Sound r) Q l := by
  unfold Runner.killAndReap
  refine keeps_quiet rfl hl fun kill hk => ?_
  cases kill with
  | error f => exact hk.elim
  | ok _ =>
    refine keeps_quiet rfl hl fun answer ha => ?_
    cases answer with
    | exited => exact hn
    | cancelled => exact ha.elim

theorem keeps_passOn (pid : Nat) (n : Option Int) :
    (r.passOn args started pid).Keeps (Sound r) (fun _ => Closed r)
      ⟨owed r none, some (.cancelled n)⟩ := by
  have hs : Sound r ⟨owed r none, some (.cancelled n)⟩ := Ledger.owed_none_prefix r _
  unfold Runner.passOn
  refine keeps_quiet rfl hs fun _ _ => ?_
  split_ifs with h
  · refine keeps_quiet rfl hs fun now _ => ?_
    exact keeps_end r rfl _ ⟨rfl, rfl⟩
  · refine ⟨rfl, ?_⟩
    unfold owed
    rw [if_neg h, if_neg h]

theorem keeps_watched (pid : Nat) {timeout : Value} {answer : OutputAnswer}
    (ha : Company.Admits (.output timeout) answer) :
    (r.watched args started pid answer).Keeps (Sound r) (fun _ => Closed r)
      ⟨owed r none, some answer.ending⟩ := by
  have hs : ∀ e, Sound r ⟨owed r none, some e⟩ := fun _ => Ledger.owed_none_prefix r _
  cases answer with
  | exited n out err =>
    obtain ⟨hout, herr⟩ := ha
    obtain ⟨out, rfl⟩ := Option.isSome_iff_exists.mp hout
    obtain ⟨err, rfl⟩ := Option.isSome_iff_exists.mp herr
    exact keeps_conclude r args started (Ending.leads_exited r n _ _ _ _)
  | timedOut => exact keeps_killAndReap r (hs _) (keeps_conclude r args started fun _ => rfl)
  | cancelled n =>
    cases n with
    | none => exact keeps_killAndReap r (hs _) (keeps_passOn r args started pid none)
    | some n => exact keeps_passOn r args started pid (some n)
  | raised f => exact ha.elim

theorem keeps_inEnvironment {next : Option (List (Value × Value)) → Course Outcome}
    (hn : ∀ env, (next env).Keeps (Sound r) (fun _ => Closed r) ⟨owed r none, none⟩) :
    (r.inEnvironment args started next).Keeps (Sound r) (fun _ => Closed r)
      ⟨owed r none, r.barred⟩ := by
  unfold Runner.inEnvironment Runner.barred
  cases r.environment with
  | error f => exact keeps_conclude r args started (f.leads_conclusion r)
  | ok env => exact hn env

/-! ### Whole executions -/

/-- A blank ledger is closed when a blocking execution has ended. -/
theorem keeps_runWords :
    (r.runWords args).Keeps (Sound r) (fun _ => Closed r) ⟨[], r.barred⟩ := by
  rw [Runner.runWords_eq]
  refine keeps_quiet rfl List.nil_prefix fun started _ => keeps_opening r args ?_
  refine keeps_inEnvironment r args started fun env => ?_
  refine keeps_query List.prefix_rfl fun answer _ => ?_
  exact (congrArg _ (Ledger.hear_ending rfl rfl)).mpr
    (keeps_conclude r args started (answer.leads_conclusion r))

/-- A blank ledger is closed when a cooperative execution has ended. -/
theorem keeps_runWordsCooperatively :
    (r.runWordsCooperatively args).Keeps (Sound r) (fun _ => Closed r) ⟨[], r.barred⟩ := by
  rw [Runner.runWordsCooperatively_eq]
  refine keeps_quiet rfl List.nil_prefix fun started _ => keeps_opening r args ?_
  refine keeps_inEnvironment r args started fun env => ?_
  refine keeps_query List.prefix_rfl fun answer _ => ?_
  cases answer with
  | error f =>
    exact (congrArg _ (Ledger.hear_ending rfl rfl)).mpr
      (keeps_conclude r args started (f.leads_conclusion r))
  | ok pid =>
    refine (congrArg _ (Ledger.hear_eq_self rfl rfl _)).mpr ?_
    refine keeps_query List.prefix_rfl fun answer ha => ?_
    exact (congrArg _ (Ledger.hear_ending rfl rfl)).mpr (keeps_watched r args started pid ha)

/-! ### What is put around an execution -/

theorem keeps_notify (o : Outcome) {l : Ledger} (h : l.Closed r) :
    (Runner.notify o).Keeps (Sound r) (fun _ => Closed r) l := by
  unfold Runner.notify
  exact keeps_quiet rfl h.sound fun _ _ => keeps_last rfl h.sound fun _ => h

theorem keeps_runAndNotify (h : args ≠ []) :
    (r.runAndNotify args).Keeps (Sound r) (fun _ => Closed r) ⟨[], r.barred⟩ := by
  unfold Runner.runAndNotify
  rw [r.run_eq (Runner.words_texts h)]
  have ha := keeps_attempt (Q := fun _ => Closed r) (keeps_runWords r args) fun _ _ hl => hl
  refine keeps_bind ha (fun x l hl => ?_) fun _ _ hl => hl
  cases x with
  | ok o => exact keeps_notify r o hl
  | error f =>
    dsimp only
    split_ifs
    · exact hl
    · exact keeps_quiet rfl hl.sound fun _ _ => keeps_last rfl hl.sound fun _ => hl

theorem keeps_runCooperatively {command : Value} (hw : Runner.words command = .ok args)
    (handled : Bool) :
    (r.runCooperatively command handled).Keeps (Sound r) (fun _ => Closed r) ⟨[], r.barred⟩ := by
  rw [r.runCooperatively_eq hw]
  refine keeps_bind (keeps_runWordsCooperatively r args) (fun o l hl => ?_) fun _ _ hl => hl
  cases handled with
  | true => exact keeps_bind (keeps_notify r o hl) (fun _ _ h => h) fun _ _ h => h
  | false => exact hl

/-- The result of an execution does not matter to its ledger. -/
theorem keeps_done {c : Course β} {l : Ledger} (h : c.Keeps (Sound r) (fun _ => Closed r) l) :
    (c.bind fun _ => .done ()).Keeps (Sound r) (fun _ => Closed r) l :=
  keeps_bind h (fun _ _ hl => hl) fun _ _ hl => hl

end Course

/-! ### Tasks -/

namespace Task

/-- The ledger before an execution: blank, unless it is known that it cannot be launched. -/
def ledger (t : Task) : Ledger :=
  match Runner.words t.command with
  | .error _ => {}
  | .ok _ => ⟨[], t.runner.barred⟩

/-- The ledger after an execution: closed, unless its command was refused. -/
def Closes (t : Task) (l : Ledger) : Prop :=
  match Runner.words t.command with
  | .error _ => l = {}
  | .ok _ => l.Closed t.runner

theorem Closes.sound {t : Task} {l : Ledger} (h : t.Closes l) : l.Sound t.runner := by
  unfold Closes at h
  cases hw : Runner.words t.command with
  | error f =>
    rw [hw] at h
    rw [show l = {} from h]
    exact List.nil_prefix
  | ok args =>
    rw [hw] at h
    exact Ledger.Closed.sound h

theorem course_of_error {t : Task} {f : Fault} (h : Runner.words t.command = .error f) :
    t.course = .broken f := by
  obtain ⟨r, command, way⟩ := t
  have hr : r.run command = .broken f := r.run_of_error h
  unfold course
  cases way with
  | run => dsimp only; rw [hr]; rfl
  | execute => unfold Runner.execute; dsimp only; rw [hr]; rfl
  | background => dsimp only; rw [r.runInBackground_of_error h]
  | cooperative handled => dsimp only; rw [r.runCooperatively_of_error h]; rfl

/-- **Every task keeps its books.** -/
theorem keeps_course (t : Task) :
    t.course.Keeps (Ledger.Sound t.runner) (fun _ => t.Closes) t.ledger := by
  unfold ledger Closes
  cases hw : Runner.words t.command with
  | error f =>
    rw [course_of_error hw]
    rfl
  | ok args =>
    obtain ⟨r, command, way⟩ := t
    have hr := Course.keeps_runWords r args
    rw [← r.run_eq hw] at hr
    unfold course
    cases way with
    | run => exact Course.keeps_done r hr
    | execute => exact Course.keeps_done r (Course.keeps_bind hr (fun _ _ h => h) fun _ _ h => h)
    | background =>
      dsimp only
      rw [r.runInBackground_eq hw]
      exact Course.keeps_runAndNotify r args (Runner.ne_nil_of_words hw)
    | cooperative handled =>
      exact Course.keeps_done r (Course.keeps_runCooperatively r args hw handled)

end Task

end Errand
