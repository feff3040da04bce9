import Errand.Proofs.Execution.Performance
import Mathlib.Tactic.SplitIfs

/-! # How an execution comes to an outcome

A process exits by itself, it takes too long, or it cannot be started: these are the conclusions
that an execution draws. The three ends of a runner, `exited`, `timedOut` and `notStarted`, are one
course with three conclusions (`exited_eq`, `timedOut_eq`, `notStarted_eq`): it reads the clock,
moves on from `running`, logs a line, records one end and gives the outcome. What launching answers
leads to a conclusion or breaks the execution off, and so the two ways of waiting are described by
`runWords_eq` and `supervise_eq`. -/

namespace Errand

/-! ### The moves of an execution -/

namespace Status

/-- A move between states is one to a successor. -/
theorem move_status (a b : Status) :
    move (.status a) (.status b) =
      if b ∈ a.successors then .ok (.status b)
      else .error (.badTransition (.status a) (.status b)) := by
  cases a <;> cases b <;> rfl

theorem canMove_status (a b : Status) :
    canMove (.status a) (.status b) = .ok (decide (b ∈ a.successors)) := by
  cases a <;> cases b <;> rfl

end Status

theorem Runner.advance_of_mem {a b : Status} (h : b ∈ a.successors) :
    Runner.advance a b = (Course.move a b).bind fun _ => .done b := by
  unfold Runner.advance
  rw [Status.move_status, if_pos h]
  rfl

/-! ### Conclusions -/

/-- How an execution comes to an outcome. -/
inductive Conclusion where
  | exited (exitValue : Int) (stdout stderr : String)
  | timedOut (stdout stderr : Capture)
  | notStarted (f : Fault)

namespace Conclusion

variable (r : Runner) (args : List String) (started : Float)

/-- The status that an execution ends in. -/
def status : Conclusion → Status
  | exited n _ _ => if r.isFailure (.int n) then .failed else .succeeded
  | timedOut _ _ => .failed
  | notStarted _ => .failed

/-- What is recorded of an end after some time. -/
def record (duration : Float) : Conclusion → Metrics.Record
  | exited n _ _ =>
    if r.isFailure (.int n) then .failed Metrics.Reason.exitValue.label duration
    else .succeeded duration
  | timedOut _ _ => .failed Metrics.Reason.timeout.label duration
  | notStarted _ => .failed Metrics.Reason.launchError.label duration

/-- How much the log line about an end matters. -/
def level : Conclusion → Log.Level
  | exited n _ _ => if r.isFailure (.int n) then .warning else .debug
  | timedOut _ _ => .warning
  | notStarted _ => .error

/-- The text of the log line about an end. -/
def text : Conclusion → String
  | exited n _ _ => "Process " ++ Runner.program args ++ " exited with " ++ toString n
  | timedOut _ _ =>
    "Process " ++ Runner.program args ++ " " ++
      ("timed out after " ++ r.timeout.display ++ " seconds")
  | notStarted f => "Could not start " ++ Runner.program args ++ ": " ++ f.message

/-- The outcome of an end after some time. -/
def outcome (duration : Float) : Conclusion → Outcome
  | exited n out err => {
      command := args
      exitValue := n
      status := if r.isFailure (.int n) then .failed else .succeeded
      stdout := out
      stderr := err
      durationSeconds := duration
      errorMessage := if r.isFailure (.int n) then some exitMessage else none }
  | timedOut out err => {
      command := args
      exitValue := invalidExitValue
      status := .failed
      stdout := out.toText
      stderr := err.toText
      durationSeconds := duration
      timedOut := true
      errorMessage := some ("Process " ++ ("timed out after " ++ r.timeout.display ++ " seconds")) }
  | notStarted f => {
      command := args
      exitValue := invalidExitValue
      status := .failed
      durationSeconds := duration
      errorMessage := some ("Execution failed: " ++ f.message)
      cause := some f }

/-- The last part of an execution: from a conclusion to the outcome. -/
def course (c : Conclusion) : Course Outcome :=
  Course.clock.bind fun now =>
    (Course.move .running (c.status r)).bind fun _ =>
      (Course.log (c.level r) (c.text r args)).bind fun _ =>
        (r.record (c.record r (now - started))).bind fun _ =>
          .done (c.outcome r args (now - started))

theorem status_mem_successors (c : Conclusion) : c.status r ∈ Status.running.successors := by
  unfold status
  split
  · split_ifs <;> decide
  · decide
  · decide

theorem status_outcome (c : Conclusion) (duration : Float) :
    (c.outcome r args duration).status = c.status r := by
  cases c <;> rfl

end Conclusion

/-! ### The three ends of a runner -/

namespace Runner

variable (r : Runner) (args : List String) (started : Float)

theorem exited_eq (n : Int) (out err : String) :
    r.exited args .running started n out err =
      (Conclusion.exited n out err).course r args started := by
  unfold exited Conclusion.course
  simp only [Course.bind_eq, Course.pure_eq, Conclusion.status, Conclusion.level,
    Conclusion.record]
  split_ifs with h
  · rw [advance_of_mem (by decide)]
    simp only [Course.bind_assoc, Course.bind_done]
    unfold Conclusion.outcome
    simp only [if_pos h]
    rfl
  · rw [advance_of_mem (by decide)]
    simp only [Course.bind_assoc, Course.bind_done]
    unfold Conclusion.outcome
    simp only [if_neg h]
    rfl

theorem timedOut_eq (out err : Capture) :
    r.timedOut args .running started out err =
      (Conclusion.timedOut out err).course r args started := by
  unfold timedOut Conclusion.course
  simp only [Course.bind_eq, Course.pure_eq]
  rw [advance_of_mem (by decide)]
  simp only [Course.bind_assoc, Course.bind_done]
  rfl

theorem notStarted_eq (f : Fault) :
    r.notStarted args .running started f = (Conclusion.notStarted f).course r args started := by
  unfold notStarted Conclusion.course
  simp only [Course.bind_eq, Course.pure_eq]
  rw [advance_of_mem (by decide)]
  simp only [Course.bind_assoc, Course.bind_done]
  rfl

end Runner

/-! ### From an answer to the outcome -/

/-- What a fault leads to: a fault of launching is a conclusion, any other one is passed on. -/
def Fault.conclusion (f : Fault) : Except Fault Conclusion :=
  if f.isLaunchFault then .ok (.notStarted f) else .error f

/-- What the answer about a launch and its end leads to. -/
def RunAnswer.conclusion : RunAnswer → Except Fault Conclusion
  | exited n out err => .ok (.exited n out.toText err.toText)
  | timedOut out err => .ok (.timedOut out err)
  | raised f => f.conclusion

theorem Fault.conclusion_eq_error_iff {f g : Fault} :
    g.conclusion = .error f ↔ f.isLaunchFault = false ∧ g = f := by
  unfold conclusion
  split_ifs with h
  · constructor
    · intro hc
      cases hc
    · rintro ⟨hf, rfl⟩
      rw [h] at hf
      cases hf
  · constructor
    · intro hc
      cases hc
      exact ⟨Bool.eq_false_iff.mpr h, rfl⟩
    · rintro ⟨-, rfl⟩
      rfl

theorem RunAnswer.conclusion_eq_error_iff {f : Fault} {answer : RunAnswer} :
    answer.conclusion = .error f ↔ f.isLaunchFault = false ∧ answer = .raised f := by
  cases answer with
  | exited n out err => exact ⟨by rintro ⟨⟩, by rintro ⟨-, ⟨⟩⟩⟩
  | timedOut out err => exact ⟨by rintro ⟨⟩, by rintro ⟨-, ⟨⟩⟩⟩
  | raised g =>
    refine Fault.conclusion_eq_error_iff.trans (and_congr_right fun _ => ?_)
    exact ⟨congrArg _, RunAnswer.raised.inj⟩

namespace Runner

variable (r : Runner) (args : List String) (started : Float)

/-- The last part of an execution that may have been broken off. -/
def conclude : Except Fault Conclusion → Course Outcome
  | .ok c => c.course r args started
  | .error f => .broken f

/-- The first part of an execution: it is logged, it runs from here on, and its start is
recorded. -/
def opening (heading : String) : Course Unit :=
  (Course.log .info (heading ++ Words.join args)).bind fun _ =>
    (Course.move .pending .running).bind fun _ => r.record .started

/-- The part of an execution for which the environment of the command is needed. -/
def inEnvironment (next : Option (List (Value × Value)) → Course Outcome) : Course Outcome :=
  match r.environment with
  | .error f => r.conclude args started f.conclusion
  | .ok env => next env

theorem inEnvironment_of_error {r : Runner} {args : List String} {started : Float} {f : Fault}
    (h : r.environment = .error f) (next : Option (List (Value × Value)) → Course Outcome) :
    r.inEnvironment args started next = r.conclude args started f.conclusion := by
  unfold inEnvironment
  rw [h]

theorem inEnvironment_of_ok {r : Runner} {args : List String} {started : Float}
    {env : Option (List (Value × Value))} (h : r.environment = .ok env)
    (next : Option (List (Value × Value)) → Course Outcome) :
    r.inEnvironment args started next = next env := by
  unfold inEnvironment
  rw [h]

/-- The last part of an execution that waited for the output of its process. -/
def watched (pid : Nat) : OutputAnswer → Course Outcome
  | .exited n (some out) (some err) =>
    r.conclude args started
      (.ok (.exited n (Text.Utf8.decodeLossy out) (Text.Utf8.decodeLossy err)))
  | .exited _ _ _ => .broken .notCaptured
  | .timedOut => killAndReap (r.conclude args started (.ok (.timedOut .nothing .nothing)))
  | .cancelled none => killAndReap (r.passOn args started pid)
  | .cancelled (some _) => r.passOn args started pid
  | .raised f => .broken f

theorem faulted_eq (f : Fault) :
    r.faulted args .running started f = r.conclude args started f.conclusion := by
  unfold faulted Fault.conclusion
  split_ifs
  · exact r.notStarted_eq args started f
  · rfl

theorem enter_bind {β : Type} (heading : String) (next : Float × Status → Course β) :
    (r.enter heading args).bind next =
      Course.clock.bind fun started =>
        (r.opening args heading).bind fun _ => next (started, .running) := by
  unfold enter opening
  simp only [Course.bind_eq, Course.pure_eq]
  rw [advance_of_mem (by decide)]
  simp only [Course.bind_assoc, Course.bind_done]

/-- A blocking execution, part by part. -/
theorem runWords_eq :
    r.runWords args =
      Course.clock.bind fun started =>
        (r.opening args "Executing: ").bind fun _ =>
          r.inEnvironment args started fun env =>
            (Course.run (r.request args env) r.timeout).bind fun answer =>
              r.conclude args started answer.conclusion := by
  unfold runWords
  simp only [Course.bind_eq]
  rw [enter_bind]
  simp only [inEnvironment, faulted_eq]
  congr 1; funext started; congr 1; funext _
  cases r.environment with
  | error f => rfl
  | ok env =>
    dsimp only
    congr 1; funext answer
    cases answer with
    | exited n out err => exact r.exited_eq args started n _ _
    | timedOut out err => exact r.timedOut_eq args started out err
    | raised f => rfl

theorem supervise_eq (pid : Nat) :
    r.supervise args .running started pid =
      (Course.output r.timeout).bind (r.watched args started pid) := by
  unfold supervise
  simp only [Course.bind_eq]
  congr 1; funext answer
  cases answer with
  | exited n out err =>
    cases out with
    | none => rfl
    | some out =>
      cases err with
      | none => rfl
      | some err => exact r.exited_eq args started n _ _
  | timedOut => exact congrArg killAndReap (r.timedOut_eq args started .nothing .nothing)
  | cancelled exitValue => cases exitValue <;> rfl
  | raised f => rfl

/-- A cooperative execution, part by part. -/
theorem runWordsCooperatively_eq :
    r.runWordsCooperatively args =
      Course.clock.bind fun started =>
        (r.opening args "Executing (async): ").bind fun _ =>
          r.inEnvironment args started fun env =>
            (Course.start (r.request args env)).bind fun answer =>
              match answer with
              | .error f => r.conclude args started f.conclusion
              | .ok pid => (Course.output r.timeout).bind (r.watched args started pid) := by
  unfold runWordsCooperatively
  simp only [Course.bind_eq]
  rw [enter_bind]
  simp only [inEnvironment, faulted_eq]
  congr 1; funext started; congr 1; funext _
  cases r.environment with
  | error f => rfl
  | ok env =>
    dsimp only
    congr 1; funext answer
    cases answer with
    | error f => rfl
    | ok pid => exact r.supervise_eq args started pid

end Runner

end Errand
