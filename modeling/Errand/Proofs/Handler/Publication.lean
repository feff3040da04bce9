import Errand.Handler.Publication
import Errand.Handler.Waiting
import Errand.Proofs.Execution.Background

/-! # What can be seen of a result that is on its way

A report ends with the mark of a result, and the mark stands nowhere else in it (`report_eq`). So a
party that sees the mark comes after the whole report: nothing is left to be written
(`eq_report_of_hasResult`), and whatever it looks at from then on is what was delivered
(`isFinal_sights`). A party that does not see the mark gets no exit value and no failure.

The main statement is `sights_of_report`: however the looks and the waits of one party fall between
the writes of the other, an exit value or a failure is the delivered one or there is none yet, and
everything after the first sign of a result is final. What an execution tells a capturing handler of
its outcome is such a report (`report_outcome`), and a wait on a clock answers with the mark that it
saw last (`hasResult_of_poll`). -/

namespace Errand

/-! ### Results and their writes -/

/-- What a callback tells about a result: the exit value, and the failure if it is one. -/
inductive Callback.Tells : Callback → Value → Option Failure → Prop
  | complete (v : Value) : Tells (.complete v) v none
  | failed (f : Failure) : Tells (.failed f) f.exitValue (some f)

/-- Whether a write sets the mark of a result. -/
def Write.isMark : Write → Bool
  | result => true
  | stdout _ | stderr _ | exitValue _ | failure _ => false

namespace Handler

variable {out err : String} {result : Callback} {v : Value} {f : Option Failure} {h : Handler}

theorem report_eq (ht : result.Tells v f) :
    report out err result =
      [.stdout out, .stderr err, .exitValue v, .failure f] ++ [.result] := by
  cases ht <;> rfl

theorem hasResult_write (w : Write) : (h.write w).hasResult = (h.hasResult || w.isMark) := by
  cases w with
  | result => exact (Bool.or_true _).symm
  | _ => exact (Bool.or_false _).symm

theorem hasResult_foldl_write (ws : List Write) :
    (ws.foldl write h).hasResult = (h.hasResult || ws.any Write.isMark) := by
  induction ws generalizing h with
  | nil => exact (Bool.or_false _).symm
  | cons w ws ih => rw [List.foldl_cons, ih, hasResult_write, List.any_cons, Bool.or_assoc]

/-- What an execution writes to a capturing handler in the end is a report. -/
theorem report_outcome (o : Outcome) :
    report o.stdout o.stderr o.result = (Runner.report (.ok o)).flatMap (writes true) := by
  rw [Runner.report_ok, List.flatMap_cons, List.flatMap_singleton]
  rfl

theorem tells_outcome (o : Outcome) :
    o.result.Tells (.int o.exitValue) (if o.success then none else some o.toFailure) := by
  unfold Outcome.result Runner.blockingResult
  cases o.success with
  | true => exact .complete _
  | false => exact .failed _

/-! ### The mark comes last -/

/-- Once the mark is there, the whole report was written, and nothing is left of it. -/
theorem eq_report_of_hasResult (ht : result.Tells v f) (hh : h.hasResult = false)
    {done ws : List Write} (hp : done ++ ws <+: report out err result)
    (hm : (done.foldl write h).hasResult = true) :
    done = report out err result ∧ ws = [] := by
  rw [hasResult_foldl_write, hh, Bool.false_or] at hm
  have hd : done <+: report out err result := (List.prefix_append done ws).trans hp
  rw [report_eq ht] at hd hp ⊢
  rcases List.prefix_concat_iff.mp hd with rfl | hd
  · refine ⟨rfl, ?_⟩
    have hl := hp.length_le
    rw [List.length_append] at hl
    exact List.length_eq_zero_iff.mp (by omega)
  · obtain ⟨w, hw, hm⟩ := List.any_eq_true.mp hm
    have hb := hd.subset hw
    simp only [List.mem_cons, List.not_mem_nil, or_false] at hb
    rcases hb with rfl | rfl | rfl | rfl <;> cases hm

/-- The handler after a whole report. -/
theorem foldl_write_report (ht : result.Tells v f) :
    (report out err result).foldl write h =
      { h with
        stdout := out
        stderr := err
        storedExitValue := v
        storedFailure := f
        hasResult := true } := by
  rw [report_eq ht]
  rfl

/-! ### What is seen -/

/-- An exit value or a failure that is seen is the delivered one, or there is none yet. -/
def Sight.IsSafe (v : Value) (f : Option Failure) : Sight → Prop
  | exitValue x => x = .error .noResult ∨ x = .ok v
  | failure x => x = .error .noResult ∨ x = .ok f
  | mark _ | stdout _ | stderr _ | waited _ => True

/-- Whether a sight is a sign of a result. -/
def Sight.reveals : Sight → Bool
  | mark hasResult | waited hasResult => hasResult
  | exitValue x => x.isOk
  | failure x => x.isOk
  | stdout _ | stderr _ => false

/-- A sight is one of what was delivered. -/
def Sight.IsFinal (out err : String) (v : Value) (f : Option Failure) : Sight → Prop
  | mark hasResult | waited hasResult => hasResult = true
  | exitValue x => x = .ok v
  | failure x => x = .ok f
  | stdout s => s = out
  | stderr s => s = err

/-- After the report every act that writes nothing shows what was delivered. -/
theorem isFinal_of_sight (ht : result.Tells v f) {a : Act} (ha : a.writes = []) {x : Sight}
    (hx : x ∈ ((report out err result).foldl write h).sight? a) : x.IsFinal out err v f := by
  rw [foldl_write_report ht] at hx
  cases a with
  | write w => cases hx
  | look l ws =>
    change ws = [] at ha
    cases ha
    rw [sight?, see_nil] at hx
    cases hx
    cases l <;> rfl
  | wait pauses =>
    rw [sight?, act, ha] at hx
    cases hx
    rfl

theorem act_eq_self {a : Act} (ha : a.writes = []) : h.act a = h := by
  unfold act
  rw [ha]
  rfl

/-- After the report everything that is seen is final. -/
theorem isFinal_sights (ht : result.Tells v f) {acts : List Act}
    (ha : acts.flatMap Act.writes = []) :
    ∀ x ∈ ((report out err result).foldl write h).sights acts, x.IsFinal out err v f := by
  induction acts with
  | nil => exact fun x hx => absurd hx List.not_mem_nil
  | cons a rest ih =>
    rw [List.flatMap_cons, List.append_eq_nil_iff] at ha
    intro x hx
    rw [sights, act_eq_self ha.1, List.mem_append] at hx
    rcases hx with hx | hx
    · exact isFinal_of_sight ht ha.1 (Option.mem_toList.mp hx)
    · exact ih ha.2 x hx

theorem Sight.IsFinal.isSafe {x : Sight} (hx : x.IsFinal out err v f) : x.IsSafe v f := by
  cases x with
  | exitValue x => exact .inr hx
  | failure x => exact .inr hx
  | _ => exact trivial

/-- A look whose first step comes before the mark shows no result, even if it ends after it. -/
theorem isSafe_see_of_not_hasResult (hm : h.hasResult = false) (l : Look) (ws : List Write) :
    (h.see l ws).IsSafe v f ∧ (h.see l ws).reveals = false := by
  cases l with
  | mark => exact ⟨trivial, hm⟩
  | exitValue =>
    have hs : h.see .exitValue ws = .exitValue (.error .noResult) := by simp [see, hm]
    rw [hs]
    exact ⟨.inl rfl, rfl⟩
  | failure =>
    have hs : h.see .failure ws = .failure (.error .noResult) := by simp [see, hm]
    rw [hs]
    exact ⟨.inl rfl, rfl⟩
  | stdout => exact ⟨trivial, rfl⟩
  | stderr => exact ⟨trivial, rfl⟩

/-- One act between the writes of a report: what it shows is safe, and if that is a sign of a
result, the report is over with this act. -/
theorem sight_of_report (ht : result.Tells v f) (hh : h.hasResult = false) {done : List Write}
    {a : Act} (hp : done ++ a.writes <+: report out err result) {x : Sight}
    (hx : x ∈ (done.foldl write h).sight? a) :
    x.IsSafe v f ∧ (x.reveals = true → done ++ a.writes = report out err result) := by
  cases hm : (done.foldl write h).hasResult with
  | true =>
    obtain ⟨hd, ha⟩ := eq_report_of_hasResult ht hh hp hm
    rw [hd] at hx
    refine ⟨(isFinal_of_sight ht ha hx).isSafe, fun _ => ?_⟩
    rw [ha, hd, List.append_nil]
  | false =>
    cases a with
    | write w => cases hx
    | look l ws =>
      cases hx
      obtain ⟨hs, hr⟩ := isSafe_see_of_not_hasResult hm l ws
      exact ⟨hs, fun h => absurd (h.symm.trans hr) nofun⟩
    | wait pauses =>
      cases hx
      refine ⟨trivial, fun hr => ?_⟩
      rw [Sight.reveals, act, ← List.foldl_append] at hr
      rw [← List.append_nil (done ++ _)] at hp
      exact (eq_report_of_hasResult ht hh hp hr).1

/-! ### The main statement -/

/-- The sights from any place of a report on. -/
theorem sights_from (ht : result.Tells v f) (hh : h.hasResult = false) {acts : List Act}
    {done : List Write} (hp : done ++ acts.flatMap Act.writes <+: report out err result) :
    (∀ x ∈ (done.foldl write h).sights acts, x.IsSafe v f) ∧
      ((done.foldl write h).sights acts).Pairwise
        fun x y => x.reveals = true → y.IsFinal out err v f := by
  -- by induction on the acts: each of them goes on with the writes that it made itself
  induction acts generalizing done with
  | nil => exact ⟨fun x hx => absurd hx List.not_mem_nil, List.Pairwise.nil⟩
  | cons a rest ih =>
    rw [List.flatMap_cons, ← List.append_assoc] at hp
    have ha : (done.foldl write h).act a = (done ++ a.writes).foldl write h :=
      List.foldl_append.symm
    have hstep {x : Sight} (hx : x ∈ ((done.foldl write h).sight? a).toList) :=
      sight_of_report ht hh ((List.prefix_append _ _).trans hp) (Option.mem_toList.mp hx)
    obtain ⟨hsafe, hfinal⟩ := ih hp
    rw [sights, ha]
    refine ⟨fun x hx => ?_, List.pairwise_append.mpr ⟨?_, hfinal, fun x hx y hy hr => ?_⟩⟩
    · rcases List.mem_append.mp hx with hx | hx
      · exact (hstep hx).1
      · exact hsafe x hx
    · cases (done.foldl write h).sight? a with
      | none => exact List.Pairwise.nil
      | some x => exact List.pairwise_singleton _ x
    · have hd := (hstep hx).2 hr
      rw [hd] at hp hy
      have hl := hp.length_le
      rw [List.length_append] at hl
      exact isFinal_sights ht (List.length_eq_zero_iff.mp (by omega)) y hy

/-- **What can be seen of a report.** A party looks at a handler without a result and waits for one,
in any way that falls between the writes of a report. Each exit value and each failure that it sees
is the delivered one, or it is told that there is none yet. Once it saw a result in any way, or a
wait ended with one, everything that it sees is what was delivered, and the mark stays. -/
theorem sights_of_report (ht : result.Tells v f) (hh : h.hasResult = false) {acts : List Act}
    (hp : Publishes out err result acts) :
    (∀ x ∈ h.sights acts, x.IsSafe v f) ∧
      (h.sights acts).Pairwise fun x y => x.reveals = true → y.IsFinal out err v f := by
  have hp' : [] ++ acts.flatMap Act.writes <+: report out err result := hp
  exact sights_from ht hh hp'

/-- The report of a failed execution, with a look at the exit value that begins before the mark, and
a wait in which the mark is set. -/
theorem sights_of_report_of_late_mark :
    let o : Outcome := {
      command := ["make"], exitValue := 2, status := .failed, stdout := "cc", stderr := "no rule"
      errorMessage := some exitMessage }
    let h : Handler := { capturing := true }
    let acts : List Act := [.write (.stdout "cc"),
      .look .exitValue [.stderr "no rule", .exitValue (.int 2)],
      .wait [[], [.failure (some o.toFailure), .result]], .look .failure [], .look .stdout []]
    o.result.Tells (.int 2) (some o.toFailure) ∧ h.hasResult = false ∧
      acts.flatMap Act.writes = (Runner.report (.ok o)).flatMap (writes true) ∧
      h.sights acts = [.exitValue (.error .noResult), .waited true,
        .failure (.ok (some o.toFailure)), .stdout "cc"] ∧
      (∀ x ∈ h.sights acts, x.IsSafe (.int 2) (some o.toFailure)) ∧
      (h.sights acts).Pairwise fun x y =>
        x.reveals = true → y.IsFinal "cc" "no rule" (.int 2) (some o.toFailure) := by
  intro o h acts
  have ht : o.result.Tells (.int 2) (some o.toFailure) := tells_outcome o
  have hp : Publishes o.stdout o.stderr o.result acts := by
    unfold Publishes
    rw [report_outcome]
    exact ⟨[], rfl⟩
  exact ⟨ht, rfl, rfl, rfl, sights_of_report ht rfl hp⟩

end Handler

/-! ### Waits -/

namespace Waiting

variable {τ δ : Type} [Add τ] [LE τ] [DecidableLE τ] [LT τ] [DecidableLT τ] [Schedule δ τ]

/-- A wait ends with a result if it sees the mark at its last look, and without one if not. -/
theorem hasResult_of_poll (k : Kind) (zero interval : τ) (deadline : Option τ) (sleeps : Nat)
    (w : World τ δ) :
    match poll k zero interval deadline sleeps w with
    | (.result, last) => last.handler.hasResult = true
    | (.noResult, last) => last.handler.hasResult = false
    | _ => True := by
  induction sleeps generalizing w with
  | zero =>
    unfold poll
    split_ifs with ho hr hs
    · exact hr
    · exact Bool.eq_false_iff.mpr hr
    · exact trivial
    · exact trivial
  | succ n ih =>
    unfold poll
    split_ifs with ho hr hs
    · exact hr
    · exact Bool.eq_false_iff.mpr hr
    · exact trivial
    · exact ih _

end Waiting

end Errand
