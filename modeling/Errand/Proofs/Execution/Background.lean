import Errand.Proofs.Execution.Aftermath

/-! # Executions in the background

The caller of a command in the background gets its words, and another party runs them. What that
party tells the handler is the *report* of the execution: the output and the result of its outcome,
or the fault that broke it off.

The main statement is `background_mirrors`: the report says of each execution what a blocking call
would have come to, and each end of a blocking call is told by a report of its own. -/

namespace Errand

/-! ### The blocking call -/

theorem Course.perform_execute {σ : Type} (w : World σ) (r : Runner) (command : Value)
    (s : Scene σ) :
    (r.execute command).perform w s =
      (((r.run command).perform w s).1.map Runner.blockingResult,
        ((r.run command).perform w s).2) := by
  unfold Runner.execute
  rw [bind_eq, perform_bind]
  rcases (r.run command).perform w s with ⟨f | o, t⟩ <;> rfl

/-! ### The report of the other party -/

namespace Runner

/-- What the handler is told of the end of an execution: nothing, if it is an interruption. -/
def report : Except Fault Outcome → List Callback
  | .ok o => [.output o.stdout o.stderr, o.result]
  | .error f => if f.isInterruption then [] else [.failed (brokenFailure f)]

theorem report_ok (o : Outcome) : report (.ok o) = [.output o.stdout o.stderr, o.result] := rfl

theorem report_error (f : Fault) :
    report (.error f) = if f.isInterruption then [] else [.failed (brokenFailure f)] := rfl

theorem result_eq_complete_iff {o : Outcome} {v : Int} :
    o.result = .complete (.int v) ↔ blockingResult o = .ok v := by
  unfold Outcome.result
  cases blockingResult o <;> simp

theorem result_eq_failed_iff {o : Outcome} {e : Failure} :
    o.result = .failed e ↔ blockingResult o = .error e := by
  unfold Outcome.result
  cases blockingResult o <;> simp

theorem report_eq_output_iff {x : Except Fault Outcome} {out err : String} {c : Callback} :
    report x = [.output out err, c] ↔
      ∃ o, x = .ok o ∧ o.stdout = out ∧ o.stderr = err ∧ o.result = c := by
  cases x with
  | ok o => simp [report_ok, and_assoc]
  | error f =>
    rw [report_error]
    split_ifs <;> simp

theorem report_eq_broken_iff {x : Except Fault Outcome} {f : Fault} :
    report x = [.failed (brokenFailure f)] ↔ x = .error f ∧ f.isInterruption = false := by
  cases x with
  | ok o => simp [report_ok]
  | error g =>
    rw [report_error]
    split_ifs with h
    · constructor
      · intro hr
        cases hr
      · rintro ⟨⟨⟩, hf⟩
        rw [h] at hf
        cases hf
    · constructor
      · intro hr
        cases hr
        exact ⟨rfl, Bool.eq_false_iff.mpr h⟩
      · rintro ⟨⟨⟩, -⟩
        rfl

end Runner

namespace Scene

variable {σ : Type} (s : Scene σ)

theorem told_called (c : Callback) : (s.called c).told = s.told ++ [c] := by
  unfold told called
  simp

theorem told_notified (o : Outcome) :
    (s.notified o).told = s.told ++ [.output o.stdout o.stderr, o.result] := by
  unfold notified
  rw [told_called, told_called, List.append_assoc]
  rfl

/-- The end of an execution in the background: the handler is told of it, and a fault is logged
before. -/
def reported (args : List String) : Except Fault Outcome → Except Fault Unit × Scene σ
  | .ok o => (.ok (), s.notified o)
  | .error f =>
    if f.isInterruption then (.error f, s)
    else
      let line : Log.Line :=
        ⟨.error, "Error executing " ++ Runner.program args ++ ": " ++ f.message, .executor, true⟩
      (.ok (), Scene.called { s with shown := .line line :: s.shown }
        (.failed (Runner.brokenFailure f)))

variable (args : List String)

theorem reported_of_interruption {f : Fault} (h : f.isInterruption = true) :
    s.reported args (.error f) = (.error f, s) := if_pos h

theorem reported_of_not_interruption {f : Fault} (h : f.isInterruption = false) :
    s.reported args (.error f) =
      (.ok (), Scene.called
        { s with
          shown := .line ⟨.error, "Error executing " ++ Runner.program args ++ ": " ++ f.message,
            .executor, true⟩ :: s.shown }
        (.failed (Runner.brokenFailure f))) :=
  if_neg (Bool.eq_false_iff.mp h)

variable (x : Except Fault Outcome)

theorem launches_reported : (s.reported args x).2.launches = s.launches := by
  cases x with
  | ok o => rfl
  | error f =>
    cases h : f.isInterruption with
    | true => rw [reported_of_interruption s args h]
    | false => rw [reported_of_not_interruption s args h]; rfl

theorem metrics_reported : (s.reported args x).2.metrics = s.metrics := by
  cases x with
  | ok o => rfl
  | error f =>
    cases h : f.isInterruption with
    | true => rw [reported_of_interruption s args h]
    | false => rw [reported_of_not_interruption s args h]; rfl

theorem told_reported : (s.reported args x).2.told = s.told ++ Runner.report x := by
  cases x with
  | ok o => exact s.told_notified o
  | error f =>
    rw [Runner.report_error]
    cases h : f.isInterruption with
    | true => rw [reported_of_interruption s args h]; exact (List.append_nil _).symm
    | false => rw [reported_of_not_interruption s args h]; exact told_called _ _

theorem handler_reported :
    (s.reported args x).2.handler = (Runner.report x).foldl Handler.tell s.handler := by
  cases x with
  | ok o => rfl
  | error f =>
    rw [Runner.report_error]
    cases h : f.isInterruption with
    | true => rw [reported_of_interruption s args h]; rfl
    | false => rw [reported_of_not_interruption s args h]; rfl

end Scene

theorem Course.perform_runAndNotify {σ : Type} (w : World σ) (r : Runner) {args : List String}
    (h : args ≠ []) (s : Scene σ) :
    (r.runAndNotify args).perform w s =
      ((r.runWords args).perform w s).2.reported args ((r.runWords args).perform w s).1 := by
  unfold Runner.runAndNotify
  rw [bind_eq, perform_bind_of_ok w (perform_attempt w _ s),
    Runner.run_eq r (Runner.words_texts h)]
  rcases (r.runWords args).perform w s with ⟨f | o, t⟩
  · cases hf : f.isInterruption with
    | true =>
      rw [Scene.reported_of_interruption t args hf]
      dsimp only
      rw [if_pos hf]
      rfl
    | false =>
      rw [Scene.reported_of_not_interruption t args hf]
      dsimp only
      rw [if_neg (by rw [hf]; decide)]
      rfl
  · exact perform_notify w o t

/-! ### The main statement -/

/-- What a blocking call came to and left behind, and what the other party left behind for the same
command: it launched the same, and the handler was told what the call came to. -/
structure Scene.Mirrors {σ : Type} (s called background : Scene σ) (outcome : Except Fault Outcome)
    (result : Except Fault (Except Failure Int)) : Prop where
  launches_eq : background.launches = called.launches
  complete_iff : ∀ v, result = .ok (.ok v) ↔
    ∃ out err, background.told = s.told ++ [.output out err, .complete (.int v)]
  failed_iff : ∀ e, result = .ok (.error e) ↔
    ∃ out err, background.told = s.told ++ [.output out err, .failed e]
  broken_iff : ∀ f, result = .error f ∧ f.isInterruption = false ↔
    background.told = s.told ++ [.failed (Runner.brokenFailure f)]
  told_of_interruption : ∀ f, result = .error f → f.isInterruption = true →
    background.told = s.told
  output_eq : ∀ out err c, background.told = s.told ++ [.output out err, c] →
    ∃ o, outcome = .ok o ∧ o.stdout = out ∧ o.stderr = err
  handler_of_complete : ∀ v, result = .ok (.ok v) →
    background.handler.exitValue = .ok (.int v) ∧ background.handler.failure = .ok none
  handler_of_failed : ∀ e, result = .ok (.error e) →
    background.handler.exitValue = .ok e.exitValue ∧ background.handler.failure = .ok (some e)

theorem Runner.map_blockingResult_eq_ok_iff {x : Except Fault Outcome} {b : Except Failure Int} :
    x.map blockingResult = .ok b ↔ ∃ o, x = .ok o ∧ blockingResult o = b := by
  cases x with
  | ok o => simp [Except.map]
  | error f => simp [Except.map]

theorem Runner.map_blockingResult_eq_error_iff {x : Except Fault Outcome} {f : Fault} :
    x.map blockingResult = .error f ↔ x = .error f := by
  cases x with
  | ok o => simp [Except.map]
  | error g => simp [Except.map]

theorem Scene.told_reported_iff {σ : Type} {s t : Scene σ} (args : List String)
    (x : Except Fault Outcome) (ht : t.told = s.told) {out err : String} {c : Callback} :
    (t.reported args x).2.told = s.told ++ [.output out err, c] ↔
      ∃ o, x = .ok o ∧ o.stdout = out ∧ o.stderr = err ∧ o.result = c := by
  rw [told_reported, ht, List.append_cancel_left_eq, Runner.report_eq_output_iff]

/-- Some output and a result are told if the outcome has that result. -/
theorem Scene.exists_told_reported_iff {σ : Type} {s t : Scene σ} (args : List String)
    (x : Except Fault Outcome) (ht : t.told = s.told) {c : Callback} :
    (∃ out err, (t.reported args x).2.told = s.told ++ [.output out err, c]) ↔
      ∃ o, x = .ok o ∧ o.result = c := by
  simp only [told_reported_iff args x ht]
  constructor
  · rintro ⟨_, _, o, hx, -, -, hc⟩
    exact ⟨o, hx, hc⟩
  · rintro ⟨o, hx, hc⟩
    exact ⟨_, _, o, hx, rfl, rfl, hc⟩

/-- The report says what the blocking call comes to. -/
theorem Scene.mirrors_reported {σ : Type} {s t : Scene σ} (args : List String)
    (x : Except Fault Outcome) (ht : t.told = s.told) :
    s.Mirrors t (t.reported args x).2 x (x.map Runner.blockingResult) where
  launches_eq := t.launches_reported args x
  complete_iff v := by
    rw [exists_told_reported_iff args x ht, Runner.map_blockingResult_eq_ok_iff]
    simp only [Runner.result_eq_complete_iff]
  failed_iff e := by
    rw [exists_told_reported_iff args x ht, Runner.map_blockingResult_eq_ok_iff]
    simp only [Runner.result_eq_failed_iff]
  broken_iff f := by
    rw [told_reported, ht, Runner.map_blockingResult_eq_error_iff, List.append_cancel_left_eq,
      Runner.report_eq_broken_iff]
  told_of_interruption f hx hf := by
    rw [Runner.map_blockingResult_eq_error_iff] at hx
    rw [hx, reported_of_interruption t args hf, ht]
  output_eq out err c hc := by
    obtain ⟨o, hx, hout, herr, -⟩ := (told_reported_iff args x ht).mp hc
    exact ⟨o, hx, hout, herr⟩
  handler_of_complete v hx := by
    obtain ⟨o, rfl, hb⟩ := Runner.map_blockingResult_eq_ok_iff.mp hx
    rw [handler_reported, Runner.report_ok, Runner.result_eq_complete_iff.mpr hb]
    exact ⟨rfl, rfl⟩
  handler_of_failed e hx := by
    obtain ⟨o, rfl, hb⟩ := Runner.map_blockingResult_eq_ok_iff.mp hx
    rw [handler_reported, Runner.report_ok, Runner.result_eq_failed_iff.mpr hb]
    exact ⟨rfl, rfl⟩

end Errand
