import Errand.Proofs.Execution.Background

/-! # Refused and launched commands

The words of a command are all that is looked at before an execution begins. A command without words
is refused there: the caller gets the fault as it is, and the scene is the one before
(`perform_run_of_refused` and the lemmas beside it). From its launch on an execution launches
nothing more; what it does to its process is noted on that launch (`Scene.HasLaunched`, kept by
every later part up to `hasLaunched_watched`).

The main statement is `refused_or_launched`: a command is refused by every way to run it, or every
way launches its words once, if their environment can be made. -/

namespace Errand

/-! ### What launches leave behind -/

namespace Scene

variable {σ : Type} {s t : Scene σ} {request : Request} {timeout : Option Value}
  {before : List Launch}

/-- After the launches before, this request was launched, and nothing since. -/
def HasLaunched (s : Scene σ) (request : Request) (timeout : Option Value)
    (before : List Launch) : Prop :=
  ∃ events, s.launches = ⟨request, timeout, events⟩ :: before

/-- Between two scenes these words were launched once, or not at all if their environment cannot be
made. -/
def LaunchesOnce (s t : Scene σ) (r : Runner) (args : List String)
    (timeout : Option Value) : Prop :=
  match r.environment with
  | .error _ => t.launches = s.launches
  | .ok env => t.HasLaunched ⟨args, r.directory, env⟩ timeout s.launches

theorem HasLaunched.of_launches_eq (h : s.HasLaunched request timeout before)
    (ht : t.launches = s.launches) : t.HasLaunched request timeout before := by
  obtain ⟨events, he⟩ := h
  exact ⟨events, ht.trans he⟩

/-- What is done to a process is noted on its launch. -/
theorem HasLaunched.mark (h : s.HasLaunched request timeout before) (e : ChildEvent) :
    (s.mark e).HasLaunched request timeout before := by
  obtain ⟨events, he⟩ := h
  refine ⟨events ++ [e], ?_⟩
  unfold Scene.mark
  rw [he]

theorem HasLaunched.reaped (h : s.HasLaunched request timeout before) (w : World σ) :
    (s.reaped w).2.HasLaunched request timeout before := by
  have hk : (s.killed w).HasLaunched request timeout before := (h.mark .kill).of_launches_eq rfl
  unfold Scene.reaped
  cases (w.kill s.world).answer with
  | error f => exact hk
  | ok _ => exact (hk.mark .wait).of_launches_eq rfl

end Scene

namespace Course

variable {σ : Type} (w : World σ) (r : Runner) (args : List String)

/-! ### The rest of an execution after its launch -/

section Launched
variable {s : Scene σ} {request : Request} {timeout : Option Value} {before : List Launch}
  (h : s.HasLaunched request timeout before)
include h

theorem hasLaunched_conclude (started : Float) (e : Except Fault Conclusion) :
    ((r.conclude args started e).perform w s).2.HasLaunched request timeout before := by
  rw [perform_conclude]
  exact h.of_launches_eq (s.launches_settled r args started e)

theorem hasLaunched_passOn (started : Float) (pid : Nat) :
    ((r.passOn args started pid).perform w s).2.HasLaunched request timeout before := by
  rw [perform_passOn]
  exact h.of_launches_eq rfl

theorem hasLaunched_killAndReap {next : Course Outcome}
    (hn : ∀ t : Scene σ, t.HasLaunched request timeout before →
      (next.perform w t).2.HasLaunched request timeout before) :
    ((Runner.killAndReap next).perform w s).2.HasLaunched request timeout before := by
  have hr := h.reaped w
  rw [perform_killAndReap]
  cases (s.reaped w).1 with
  | ok _ => exact hn _ hr
  | error f => exact hr

/-- While a process is waited for, and after it was killed, nothing more is launched. -/
theorem hasLaunched_watched (started : Float) (pid : Nat) (answer : OutputAnswer) :
    ((r.watched args started pid answer).perform w s).2.HasLaunched request timeout before := by
  cases answer with
  | exited n out err =>
    cases out with
    | none => exact h
    | some out =>
      cases err with
      | none => exact h
      | some err => exact hasLaunched_conclude w r args h started (.ok (.exited n _ _))
  | timedOut =>
    exact hasLaunched_killAndReap w h fun t ht => hasLaunched_conclude w r args ht started _
  | cancelled n =>
    cases n with
    | none =>
      exact hasLaunched_killAndReap w h fun t ht => hasLaunched_passOn w r args ht started pid
    | some n => exact hasLaunched_passOn w r args h started pid
  | raised f => exact h

end Launched

/-! ### One launch for the words -/

theorem launchesOnce_runWords (s : Scene σ) :
    s.LaunchesOnce ((r.runWords args).perform w s).2 r args (some r.timeout) := by
  have hl := launches_runWords w r args s
  unfold Scene.LaunchesOnce
  cases he : r.environment with
  | error f => rw [he] at hl; exact hl
  | ok env => rw [he] at hl; exact ⟨[], hl⟩

theorem launchesOnce_runWordsCooperatively (s : Scene σ) :
    s.LaunchesOnce ((r.runWordsCooperatively args).perform w s).2 r args none := by
  unfold Scene.LaunchesOnce
  cases he : r.environment with
  | error f =>
    rw [perform_runWordsCooperatively_of_error w r args he]
    exact Scene.launches_settled _ r args _ _
  | ok env =>
    rw [perform_runWordsCooperatively_of_ok w r args he]
    dsimp only
    cases (w.start (r.request args env) s.world).answer with
    | error f => exact ⟨[], Scene.launches_settled _ r args _ _⟩
    | ok pid => exact hasLaunched_watched w r args ⟨[], rfl⟩ _ pid _

end Course

namespace Scene.LaunchesOnce

variable {σ : Type} {s t u : Scene σ} {r : Runner} {args : List String} {timeout : Option Value}

theorem of_launches_eq (h : s.LaunchesOnce t r args timeout) (hu : u.launches = t.launches) :
    s.LaunchesOnce u r args timeout := by
  unfold LaunchesOnce at h ⊢
  cases he : r.environment with
  | error f => rw [he] at h; exact hu.trans h
  | ok env => rw [he] at h; exact h.of_launches_eq hu

end Scene.LaunchesOnce

namespace Course

variable {σ : Type} (w : World σ) (r : Runner) {command : Value} {args : List String}

theorem launchesOnce_runAndNotify (h : args ≠ []) (s : Scene σ) :
    s.LaunchesOnce ((r.runAndNotify args).perform w s).2 r args (some r.timeout) := by
  rw [perform_runAndNotify w r h]
  exact (launchesOnce_runWords w r args s).of_launches_eq (Scene.launches_reported _ args _)

theorem launchesOnce_runCooperatively (h : Runner.words command = .ok args) (handled : Bool)
    (s : Scene σ) :
    s.LaunchesOnce ((r.runCooperatively command handled).perform w s).2 r args none := by
  have hl := launchesOnce_runWordsCooperatively w r args s
  cases hp : (r.runWordsCooperatively args).perform w s with
  | mk x t =>
    rw [hp] at hl
    cases x with
    | error f =>
      rw [perform_runCooperatively_of_error w r args h handled hp]
      exact hl
    | ok o =>
      rw [perform_runCooperatively_of_ok w r args h handled hp]
      cases handled with
      | false => exact hl
      | true => exact hl.of_launches_eq rfl

/-! ### Refused commands -/

variable {f : Fault} (h : Runner.words command = .error f) (s : Scene σ)
include h

theorem perform_run_of_refused : (r.run command).perform w s = (.error f, s) := by
  rw [r.run_of_error h]
  rfl

theorem perform_execute_of_refused : (r.execute command).perform w s = (.error f, s) := by
  rw [perform_execute, perform_run_of_refused w r h]
  rfl

theorem perform_runCooperatively_of_refused (handled : Bool) :
    (r.runCooperatively command handled).perform w s = (.error f, s) := by
  rw [r.runCooperatively_of_error h]
  rfl

end Course

/-! ### The main statement -/

/-- **A command is refused, or its words are launched once.** If a command has no words, the caller
of every way to run it gets that fault as it is; no other party is set to work, and nothing is left
behind: no launch, no log line, no change of the metrics, no call of the handler. Otherwise every
way launches these words once and nothing else, in whatever way the world answers, unless their
environment cannot be made. -/
theorem refused_or_launched {σ : Type} (r : Runner) (command : Value) (w : World σ) (s : Scene σ) :
    match Runner.words command with
    | .error f =>
      (r.run command).perform w s = (.error f, s) ∧
        (r.execute command).perform w s = (.error f, s) ∧
        r.runInBackground command = .error f ∧
        ∀ handled, (r.runCooperatively command handled).perform w s = (.error f, s)
    | .ok args =>
      s.LaunchesOnce ((r.run command).perform w s).2 r args (some r.timeout) ∧
        s.LaunchesOnce ((r.execute command).perform w s).2 r args (some r.timeout) ∧
        (∃ course, r.runInBackground command = .ok (Runner.threadName args, course) ∧
          s.LaunchesOnce (course.perform w s).2 r args (some r.timeout)) ∧
        ∀ handled,
          s.LaunchesOnce ((r.runCooperatively command handled).perform w s).2 r args none := by
  cases hw : Runner.words command with
  | error f =>
    exact ⟨Course.perform_run_of_refused w r hw s, Course.perform_execute_of_refused w r hw s,
      r.runInBackground_of_error hw, fun handled =>
        Course.perform_runCooperatively_of_refused w r hw s handled⟩
  | ok args =>
    have hl := Course.launchesOnce_runWords w r args s
    have hb := Course.launchesOnce_runAndNotify w r (Runner.ne_nil_of_words hw) s
    refine ⟨?_, ?_, ⟨_, r.runInBackground_eq hw, hb⟩, fun handled => ?_⟩
    · rw [r.run_eq hw]
      exact hl
    · rw [Course.perform_execute, r.run_eq hw]
      exact hl
    · exact Course.launchesOnce_runCooperatively w r hw handled s

example : Runner.words (.list []) = .error .emptyCommand ∧
    Runner.words (.text " \t\n") = .error .emptyCommand ∧
    Runner.words (.text "echo 'a") = .error .unclosedQuote ∧
    Runner.words (.text "echo \\") = .error .nothingEscaped := ⟨rfl, rfl, rfl, rfl⟩

end Errand
