import Errand.Proofs.Execution.Background
import Errand.Proofs.Execution.Consistency

/-! # How often a handler is told a result

Whoever waits for a result is released by nothing but a result that the handler is told. What an
execution tells is a list of callbacks (`Scene.Hears`): a background execution tells its report, and
a cooperative one tells of its outcome in the end and nothing before (`hears_runAndNotify`,
`hears_runCooperatively`). So one result is told of every execution that comes to an outcome, and of
one that does not, it depends on the party that runs it.

The main statement is `results_told`: in any world a background execution tells one result unless an
interruption breaks it off, and a cooperative one tells one exactly if it comes to an outcome. One
that is cancelled does not, nor does one whose launcher brings along a fault that is none of
launching (`untold_of_broken_off`). -/

namespace Errand

/-! ### Callbacks and results -/

theorem Handler.hasResult_tell (h : Handler) (c : Callback) :
    (h.tell c).hasResult = (h.hasResult || c.isResult) := by
  cases c with
  | output out err => rw [hasResult_tell_output, Callback.isResult, Bool.or_false]
  | complete v => rw [tell_complete, Callback.isResult, Bool.or_true]
  | failed f => rw [tell_failed, Callback.isResult, Bool.or_true]

theorem Handler.hasResult_foldl_tell (h : Handler) (cs : List Callback) :
    (cs.foldl tell h).hasResult = (h.hasResult || cs.any Callback.isResult) := by
  induction cs generalizing h with
  | nil => exact (Bool.or_false _).symm
  | cons c cs ih => rw [List.foldl_cons, ih, hasResult_tell, List.any_cons, Bool.or_assoc]

theorem Outcome.isResult_result (o : Outcome) : o.result.isResult = true := by
  unfold result
  cases Runner.blockingResult o <;> rfl

namespace Scene

variable {σ : Type} {s t u : Scene σ} {c d : List Callback}

/-- The number of results that the handler was told. -/
def results (s : Scene σ) : Nat := s.told.countP Callback.isResult

/-- Between two scenes the handler was told these callbacks, in order. -/
structure Hears (s t : Scene σ) (c : List Callback) : Prop where
  told_eq : t.told = s.told ++ c
  handler_eq : t.handler = c.foldl Handler.tell s.handler

theorem Hears.of_calls_eq (hc : t.calls = s.calls) (hh : t.handler = s.handler) :
    s.Hears t [] := by
  refine ⟨?_, hh⟩
  unfold told
  rw [hc, List.append_nil]

theorem Hears.trans (h : s.Hears t c) (h' : t.Hears u d) : s.Hears u (c ++ d) := by
  refine ⟨?_, ?_⟩
  · rw [h'.told_eq, h.told_eq, List.append_assoc]
  · rw [h'.handler_eq, h.handler_eq, List.foldl_append]

theorem Hears.results_eq (h : s.Hears t c) :
    t.results = s.results + c.countP Callback.isResult := by
  unfold results
  rw [h.told_eq, List.countP_append]

theorem Hears.hasResult_eq (h : s.Hears t c) :
    t.handler.hasResult = (s.handler.hasResult || c.any Callback.isResult) := by
  rw [h.handler_eq, Handler.hasResult_foldl_tell]

/-! ### The parts of an execution -/

variable (s) (r : Runner) (args : List String)

theorem hears_mark (e : ChildEvent) : s.Hears (s.mark e) [] := by
  unfold mark
  cases s.launches <;> exact .of_calls_eq rfl rfl

theorem hears_settled (started : Float) (e : Except Fault Conclusion) :
    s.Hears (s.settled r args started e).2 [] := by
  cases e <;> exact .of_calls_eq rfl rfl

theorem hears_reaped (w : World σ) : s.Hears (s.reaped w).2 [] := by
  have hk : s.Hears (s.killed w) [] := (s.hears_mark .kill).trans (.of_calls_eq rfl rfl)
  unfold reaped
  cases (w.kill s.world).answer with
  | error f => exact hk
  | ok _ => exact (hk.trans (hears_mark _ .wait)).trans (.of_calls_eq rfl rfl)

theorem hears_reported (x : Except Fault Outcome) :
    s.Hears (s.reported args x).2 (Runner.report x) :=
  ⟨s.told_reported args x, s.handler_reported args x⟩

end Scene

/-! ### Whole executions -/

namespace Course

variable {σ : Type} (w : World σ) (r : Runner) (args : List String)

theorem hears_runWords (s : Scene σ) : s.Hears ((r.runWords args).perform w s).2 [] := by
  cases he : r.environment with
  | error f =>
    rw [perform_runWords_of_error w r args he]
    have ho : s.Hears (s.opened r args "Executing: ") [] := .of_calls_eq rfl rfl
    exact ho.trans (Scene.hears_settled _ r args _ _)
  | ok env =>
    rw [perform_runWords_of_ok w r args he]
    dsimp only
    refine Scene.Hears.trans (c := []) ?_ (Scene.hears_settled _ r args _ _)
    exact .of_calls_eq rfl rfl

/-- While a process is waited for, and after it was killed, the handler is told nothing. -/
theorem hears_watched (started : Float) (pid : Nat) (answer : OutputAnswer) (s : Scene σ) :
    s.Hears ((r.watched args started pid answer).perform w s).2 [] := by
  have hkill {next : Course Outcome}
      (hn : ∀ t : Scene σ, t.Hears (next.perform w t).2 []) :
      s.Hears ((Runner.killAndReap next).perform w s).2 [] := by
    rw [perform_killAndReap]
    cases (s.reaped w).1 with
    | ok _ => exact (s.hears_reaped w).trans (hn _)
    | error f => exact s.hears_reaped w
  have hconclude (e : Except Fault Conclusion) (t : Scene σ) :
      t.Hears ((r.conclude args started e).perform w t).2 [] := by
    rw [perform_conclude]
    exact t.hears_settled r args started e
  have hpass (t : Scene σ) : t.Hears ((r.passOn args started pid).perform w t).2 [] := by
    rw [perform_passOn]
    exact .of_calls_eq rfl rfl
  cases answer with
  | exited n out err =>
    cases out with
    | none => exact .of_calls_eq rfl rfl
    | some out =>
      cases err with
      | none => exact .of_calls_eq rfl rfl
      | some err => exact hconclude (.ok (.exited n _ _)) s
  | timedOut => exact hkill (hconclude _)
  | cancelled n =>
    cases n with
    | none => exact hkill hpass
    | some n => exact hpass s
  | raised f => exact .of_calls_eq rfl rfl

theorem hears_runWordsCooperatively (s : Scene σ) :
    s.Hears ((r.runWordsCooperatively args).perform w s).2 [] := by
  cases he : r.environment with
  | error f =>
    rw [perform_runWordsCooperatively_of_error w r args he]
    have ho : s.Hears (s.opened r args "Executing (async): ") [] := .of_calls_eq rfl rfl
    exact ho.trans (Scene.hears_settled _ r args _ _)
  | ok env =>
    rw [perform_runWordsCooperatively_of_ok w r args he]
    dsimp only
    cases (w.start (r.request args env) s.world).answer with
    | error f =>
      refine Scene.Hears.trans (c := []) ?_ (Scene.hears_settled _ r args _ _)
      exact .of_calls_eq rfl rfl
    | ok pid =>
      refine Scene.Hears.trans (c := []) ?_ (hears_watched w r args _ pid _ _)
      exact .of_calls_eq rfl rfl

/-- A background execution tells its report. -/
theorem hears_runAndNotify (h : args ≠ []) (s : Scene σ) :
    s.Hears ((r.runAndNotify args).perform w s).2
      (Runner.report ((r.runWords args).perform w s).1) := by
  rw [perform_runAndNotify w r h]
  exact (hears_runWords w r args s).trans (Scene.hears_reported _ args _)

/-- A cooperative execution tells of its outcome, if it comes to one. -/
theorem hears_runCooperatively {command : Value} (hw : Runner.words command = .ok args)
    (s : Scene σ) :
    s.Hears ((r.runCooperatively command true).perform w s).2
      (match ((r.runWordsCooperatively args).perform w s).1 with
        | .ok o => Runner.report (.ok o)
        | .error _ => []) := by
  have hs := hears_runWordsCooperatively w r args s
  cases hp : (r.runWordsCooperatively args).perform w s with
  | mk x t =>
    rw [hp] at hs
    cases x with
    | error f =>
      rw [perform_runCooperatively_of_error w r args hw true hp]
      exact hs
    | ok o =>
      rw [perform_runCooperatively_of_ok w r args hw true hp]
      exact hs.trans (Scene.hears_reported t args (.ok o))

end Course

/-! ### How executions end -/

section Ends
variable {σ : Type} (w : World σ) (r : Runner) (args : List String)

/-- Whether waiting for a process comes to its end: it exits and its outputs are captured, or it
takes too long and its end is waited for once it was killed. -/
def World.awaits (timeout : Value) (x : σ) : Bool :=
  let output := w.output timeout x
  match output.answer with
  | .exited _ out err => out.isSome && err.isSome
  | .timedOut =>
    let kill := w.kill output.world
    kill.answer.isOk && (w.reap kill.world).answer == .exited
  | .cancelled _ => false
  | .raised _ => false

/-- Whether a cooperative execution comes to an outcome: the command cannot be launched for a reason
that is one of launching, or its process is waited for until its end. -/
def World.concludes (x : σ) : Bool :=
  match r.environment with
  | .error f => f.isLaunchFault
  | .ok env =>
    let start := w.start (r.request args env) x
    match start.answer with
    | .error f => f.isLaunchFault
    | .ok _ => w.awaits r.timeout start.world

/-- Whether a blocking execution is broken off by an interruption that its launcher brings along. -/
def World.interrupts (x : σ) : Bool :=
  match r.environment with
  | .error _ => false
  | .ok env => match (w.run (r.request args env) r.timeout x).answer with
    | .raised f => f.isInterruption
    | _ => false

theorem Scene.isOk_settled (s : Scene σ) (started : Float) (f : Fault) :
    (s.settled r args started f.conclusion).1.isOk = f.isLaunchFault := by
  unfold Fault.conclusion
  cases hf : f.isLaunchFault <;> rfl

/-- Whether a process is killed and its end is waited for. -/
theorem Scene.isOk_reaped (s : Scene σ) :
    (s.reaped w).1.isOk =
      ((w.kill s.world).answer.isOk && (w.reap (w.kill s.world).world).answer == .exited) := by
  unfold reaped
  cases (w.kill s.world).answer with
  | error f => rfl
  | ok _ =>
    change (w.reap (w.kill s.world).world).answer.result.isOk = _
    cases (w.reap (w.kill s.world).world).answer <;> rfl

/-- A killed process is an outcome if its end is waited for. -/
theorem Course.isOk_killAndReap {next : Course Outcome} {b : Bool}
    (hn : ∀ t : Scene σ, (next.perform w t).1.isOk = b) (s : Scene σ) :
    ((Runner.killAndReap next).perform w s).1.isOk = ((s.reaped w).1.isOk && b) := by
  rw [perform_killAndReap]
  cases (s.reaped w).1 with
  | ok _ => exact (hn _).trans (Bool.true_and b).symm
  | error f => rfl

theorem Course.isOk_watched (started : Float) (pid : Nat) (x : σ) (s : Scene σ)
    (hs : s.world = (w.output r.timeout x).world) :
    ((r.watched args started pid (w.output r.timeout x).answer).perform w s).1.isOk =
      w.awaits r.timeout x := by
  have hconclude (c : Conclusion) (t : Scene σ) :
      ((r.conclude args started (.ok c)).perform w t).1.isOk = true := by
    rw [perform_conclude]
    rfl
  have hpass (t : Scene σ) : ((r.passOn args started pid).perform w t).1.isOk = false := by
    rw [perform_passOn]
    rfl
  unfold World.awaits
  dsimp only
  rw [← hs]
  cases (w.output r.timeout x).answer with
  | exited n out err =>
    cases out with
    | none => rfl
    | some out =>
      cases err with
      | none => rfl
      | some err => exact hconclude _ s
  | timedOut =>
    have hk := isOk_killAndReap w (hconclude (.timedOut .nothing .nothing)) s
    rw [Bool.and_true, s.isOk_reaped] at hk
    exact hk
  | cancelled n =>
    cases n with
    | none => exact (isOk_killAndReap w hpass s).trans (Bool.and_false _)
    | some n => exact hpass s
  | raised f => rfl

theorem Course.isOk_runWordsCooperatively (s : Scene σ) :
    ((r.runWordsCooperatively args).perform w s).1.isOk = w.concludes r args s.world := by
  unfold World.concludes
  cases he : r.environment with
  | error f =>
    rw [perform_runWordsCooperatively_of_error w r args he]
    exact Scene.isOk_settled r args _ _ f
  | ok env =>
    rw [perform_runWordsCooperatively_of_ok w r args he]
    dsimp only
    cases (w.start (r.request args env) s.world).answer with
    | error f => exact Scene.isOk_settled r args _ _ f
    | ok pid => exact Course.isOk_watched w r args _ pid _ _ rfl

/-- Whether an execution was broken off by an interruption. -/
def Runner.isInterrupted : Except Fault Outcome → Bool
  | .ok _ => false
  | .error f => f.isInterruption

theorem Scene.isInterrupted_settled (s : Scene σ) (started : Float) (f : Fault) :
    Runner.isInterrupted (s.settled r args started f.conclusion).1 = f.isInterruption := by
  unfold Fault.conclusion
  cases hf : f.isLaunchFault with
  | false => rfl
  | true =>
    cases hi : f.isInterruption with
    | false => rfl
    | true =>
      rw [Fault.not_isLaunchFault_of_isInterruption hi] at hf
      cases hf

theorem Runner.IsEnvironmentFault.not_isInterruption {f : Fault} (h : IsEnvironmentFault f) :
    f.isInterruption = false := by
  unfold Fault.isInterruption
  rcases h with h | h <;> rw [h]

theorem Course.isInterrupted_runWords (s : Scene σ) :
    Runner.isInterrupted ((r.runWords args).perform w s).1 = w.interrupts r args s.world := by
  unfold World.interrupts
  cases he : r.environment with
  | error f =>
    rw [perform_runWords_of_error w r args he, Scene.isInterrupted_settled]
    exact (Runner.environment_fault he).not_isInterruption
  | ok env =>
    rw [perform_runWords_of_ok w r args he]
    dsimp only
    cases (w.run (r.request args env) r.timeout s.world).answer with
    | exited n out err => rfl
    | timedOut out err => rfl
    | raised f => exact Scene.isInterrupted_settled r args _ _ f

end Ends

theorem Runner.countP_report (x : Except Fault Outcome) :
    (report x).countP Callback.isResult = (!isInterrupted x).toNat := by
  cases x with
  | ok o =>
    rw [report_ok, List.countP_cons, List.countP_singleton, o.isResult_result]
    rfl
  | error f =>
    rw [report_error]
    cases h : f.isInterruption <;> simp [isInterrupted, Callback.isResult, h]

theorem Runner.any_report (x : Except Fault Outcome) :
    (report x).any Callback.isResult = !isInterrupted x := by
  cases x with
  | ok o =>
    rw [report_ok, List.any_cons, List.any_cons, o.isResult_result]
    rfl
  | error f =>
    rw [report_error]
    cases h : f.isInterruption <;> simp [isInterrupted, Callback.isResult, h]

/-! ### The main statement -/

/-- **How many results are told.** A background execution tells its handler one result, unless an
interruption breaks it off. A cooperative execution tells one exactly if it comes to an outcome.
Otherwise none is told, and there is a result only if there was one before. -/
theorem results_told {σ : Type} (r : Runner) {command : Value} {args : List String}
    (hw : Runner.words command = .ok args) (w : World σ) (s : Scene σ) :
    let background := ((r.runAndNotify args).perform w s).2
    let cooperative := ((r.runCooperatively command true).perform w s).2
    r.runInBackground command = .ok (Runner.threadName args, r.runAndNotify args) ∧
      background.results = s.results + (!w.interrupts r args s.world).toNat ∧
      background.handler.hasResult = (s.handler.hasResult || !w.interrupts r args s.world) ∧
      cooperative.results = s.results + (w.concludes r args s.world).toNat ∧
      cooperative.handler.hasResult = (s.handler.hasResult || w.concludes r args s.world) := by
  have hb := Course.hears_runAndNotify w r args (Runner.ne_nil_of_words hw) s
  have hi := Course.isInterrupted_runWords w r args s
  have hc := Course.hears_runCooperatively w r args hw s
  have ho := Course.isOk_runWordsCooperatively w r args s
  refine ⟨r.runInBackground_eq hw, ?_, ?_, ?_, ?_⟩
  · rw [hb.results_eq, Runner.countP_report, hi]
  · rw [hb.hasResult_eq, Runner.any_report, hi]
  · rw [hc.results_eq, ← ho]
    congr 1
    cases ((r.runWordsCooperatively args).perform w s).1 with
    | ok o => exact Runner.countP_report (.ok o)
    | error f => rfl
  · rw [hc.hasResult_eq, ← ho]
    congr 1
    cases ((r.runWordsCooperatively args).perform w s).1 with
    | ok o => exact Runner.any_report (.ok o)
    | error f => rfl

/-- A process that takes too long is an outcome for both parties. -/
theorem results_told_of_timeout :
    let r : Runner := { successExitValues := [.int 0], timeout := .float 0.5 }
    let w := Script.world ⟨0.5, .timesOut (.text "so far") .nothing⟩
    let command : Value := .text "sleep 9"
    let background := ((r.runAndNotify ["sleep", "9"]).perform w { world := () }).2
    let cooperative := ((r.runCooperatively command true).perform w { world := () }).2
    Runner.words command = .ok ["sleep", "9"] ∧
      r.runInBackground command =
        .ok (Runner.threadName ["sleep", "9"], r.runAndNotify ["sleep", "9"]) ∧
      background.results = 1 ∧ background.handler.hasResult = true ∧
      cooperative.results = 1 ∧ cooperative.handler.hasResult = true :=
  ⟨rfl, results_told _ rfl _ _⟩

/-- **Some executions tell no result.** Of a cooperative execution that is cancelled, and of one
whose launcher fails in a way of its own, the handler is told nothing, and who waits for a result is
not released. -/
theorem untold_of_broken_off :
    let r : Runner := { successExitValues := [.int 0] }
    let command : Value := .list [.text "prog"]
    Runner.words command = .ok ["prog"] ∧
      ∀ ending ∈ [Ending.cancelled none, .raises (.other .runtime "no launcher")],
        let s := ((r.runCooperatively command true).perform (Script.world ⟨0.5, ending⟩)
          { world := () }).2
        s.results = 0 ∧ s.handler.hasResult = false := by
  refine ⟨rfl, fun ending he => ?_⟩
  rcases List.mem_cons.mp he with rfl | he
  · exact ⟨rfl, rfl⟩
  · rw [List.mem_singleton.mp he]
    exact ⟨rfl, rfl⟩

end Errand
