import Errand.Proofs.Execution.Aftermath

/-! # Outcomes are consistent

Several fields of an outcome say the same thing in their own way: its status, whether it timed out,
its cause, its exit value and its message. They never contradict each other (`Consistent`), since
every conclusion gives such an outcome, and an outcome with no other explanation carries the exit
value of the process itself (`Reports`). On the way to it an execution moves from `pending` to
`running` and on to the status of the outcome (`Walked`).

The main statement is `outcome_consistent`: either way of waiting comes to such an outcome, whatever
the runner is like and however the process ends, if its outputs are captured where they are waited
for cooperatively. Only an environment that cannot be made keeps an execution from its outcome, and
then its own fault is passed on. -/

namespace Errand

/-! ### What is to hold of an outcome -/

/-- What the fields of an outcome say about each other. -/
structure Outcome.Consistent (r : Runner) (o : Outcome) : Prop where
  status_eq : o.status = .succeeded ∨ o.status = .failed
  success_iff : o.success = true ↔
    o.timedOut = false ∧ o.cause = none ∧ r.isFailure (.int o.exitValue) = false
  errorMessage_iff : o.errorMessage = none ↔ o.success = true
  of_timedOut : o.timedOut = true → o.exitValue = invalidExitValue ∧ o.cause = none
  of_cause : o.cause ≠ none →
    o.exitValue = invalidExitValue ∧ o.timedOut = false ∧ o.stdout = "" ∧ o.stderr = ""

/-- An outcome without timeout and cause is that of the process: its exit value and its output. -/
def Outcome.Reports (o : Outcome) (e : Ending) : Prop :=
  o.timedOut = false → o.cause = none →
    ∃ out err, e = .exits o.exitValue out err ∧ o.stdout = out.toText ∧ o.stderr = err.toText

/-- The moves between two scenes are those from `pending` through `running` to a status, the last
one first, and each of them is allowed. -/
def Scene.Walked {σ : Type} (s t : Scene σ) (last : Status) : Prop :=
  t.moves = [(.running, last), (.pending, .running)] ++ s.moves ∧
    ∀ m ∈ [(Status.running, last), (.pending, .running)],
      Status.canMove (.status m.1) (.status m.2) = .ok true

/-! ### Conclusions -/

theorem Conclusion.consistent_outcome (r : Runner) (args : List String) (duration : Float)
    (c : Conclusion) : (c.outcome r args duration).Consistent r := by
  cases c with
  | exited n out err =>
    unfold outcome
    cases h : r.isFailure (.int n) with
    | true =>
      exact ⟨.inr (if_pos h), by simp [Outcome.success, h], by simp [Outcome.success],
        by simp, by simp⟩
    | false =>
      exact ⟨.inl (if_neg (by rw [h]; decide)), by simp [Outcome.success, h],
        by simp [Outcome.success], by simp, by simp⟩
  | timedOut out err =>
    unfold outcome
    exact ⟨.inr rfl, by simp [Outcome.success], by simp [Outcome.success], by simp, by simp⟩
  | notStarted f =>
    unfold outcome
    exact ⟨.inr rfl, by simp [Outcome.success], by simp [Outcome.success], by simp, by simp⟩

theorem Conclusion.reports_outcome (r : Runner) (args : List String) (duration : Float)
    {c : Conclusion} {e : Ending} (h : e.conclusion = .ok c) :
    (c.outcome r args duration).Reports e := by
  intro ht hc
  cases e with
  | exits n out err => cases h; exact ⟨out, err, rfl, rfl, rfl⟩
  | timesOut out err => cases h; cases ht
  | raises f =>
    change f.conclusion = .ok c at h
    unfold Fault.conclusion at h
    split_ifs at h
    cases h; cases hc
  | cancelled n => cases h

theorem Ending.reports_of_unread {o : Outcome} {e : Ending} (h : o.Reports e.unread) :
    o.Reports e := by
  cases e with
  | timesOut out err =>
    intro ht hc
    obtain ⟨_, _, he, -, -⟩ := h ht hc
    cases he
  | _ => exact h

/-- An output that is captured and empty reads as one that is missing. -/
theorem Outcome.Reports.piped {o : Outcome} {e : Ending} (h : o.Reports e) : o.Reports e.piped := by
  intro ht hc
  obtain ⟨out, err, rfl, hout, herr⟩ := h ht hc
  exact ⟨out.piped, err.piped, rfl, hout.trans out.toText_piped.symm,
    herr.trans err.toText_piped.symm⟩

theorem Scene.walked_concluded {σ : Type} {s t : Scene σ} (r : Runner) (args : List String)
    (c : Conclusion) (duration : Float) (ht : t.moves = (.pending, .running) :: s.moves) :
    s.Walked (t.concluded r args c duration) (c.outcome r args duration).status := by
  rw [Conclusion.status_outcome]
  refine ⟨congrArg _ ht, fun m hm => ?_⟩
  rw [Status.canMove_status]
  rcases List.mem_cons.mp hm with rfl | hm
  · rw [decide_eq_true (c.status_mem_successors r)]
  · rw [List.mem_singleton.mp hm]
    rfl

/-! ### Environments that cannot be made -/

namespace Runner

/-- The sorts of faults that an environment brings along. -/
def IsEnvironmentFault (f : Fault) : Prop := f.kind = .type ∨ f.kind = .value

theorem pairOf_fault {place : Nat} {v : Value} {f : Fault} (h : pairOf place v = .error f) :
    IsEnvironmentFault f := by
  unfold pairOf at h
  split at h
  · cases h; exact .inl rfl
  · split_ifs at h
    cases h; exact .inl rfl
  · cases h; exact .inr rfl

theorem namedValues_go_fault {place : Nat} {vs : List Value} {f : Fault}
    (h : namedValues.go place vs = .error f) : IsEnvironmentFault f := by
  induction vs generalizing place with
  | nil => cases h
  | cons v vs ih =>
    unfold namedValues.go at h
    cases hp : pairOf place v with
    | error g =>
      rw [hp] at h
      cases h; exact pairOf_fault hp
    | ok p =>
      cases hr : namedValues.go (place + 1) vs with
      | error g =>
        rw [hp, hr] at h
        cases h; exact ih hr
      | ok ps =>
        rw [hp, hr] at h
        cases h

theorem namedValues_fault {v : Value} {f : Fault} (h : namedValues v = .error f) :
    IsEnvironmentFault f := by
  unfold namedValues at h
  split at h
  · cases h
  · split at h
    · cases h; exact .inl rfl
    · exact namedValues_go_fault h

theorem environment_fault {r : Runner} {f : Fault} (h : r.environment = .error f) :
    IsEnvironmentFault f := by
  unfold environment at h
  split at h
  · cases h
  · cases hn : namedValues r.extraEnvironment with
    | error g =>
      rw [hn] at h
      cases h; exact namedValues_fault hn
    | ok added =>
      rw [hn] at h
      cases h

/-- An environment fault is none about moves. -/
theorem IsEnvironmentFault.kind_ne {f : Fault} (h : IsEnvironmentFault f) :
    f.kind ≠ .badTransition := by
  rcases h with h | h <;> rw [h] <;> decide

end Runner

/-! ### Both ways of waiting -/

/-- A course comes to a consistent outcome: it reports how the process ended, and the moves of the
execution lead to it. -/
def Course.Comes (r : Runner) (args : List String) (script : Script) (s : Scene Unit)
    (course : Course Outcome) : Prop :=
  ∃ o t, course.perform script.world s = (.ok o, t) ∧ o.command = args ∧ o.Consistent r ∧
    o.Reports script.ending ∧ s.Walked t o.status

/-- A course passes on why the environment of the command cannot be made. It is no fault of
launching, and none about moves. -/
def Course.Fails (r : Runner) (script : Script) (s : Scene Unit) (course : Course Outcome) : Prop :=
  ∃ f t, course.perform script.world s = (.error f, t) ∧ r.environment = .error f ∧
    f.isLaunchFault = false ∧ f.kind ≠ .badTransition

section Ways
variable (r : Runner) (args : List String) (script : Script) {s t : Scene Unit}
  {course : Course Outcome}

theorem Course.comes_of_settled {e : Except Fault Conclusion} {c : Conclusion}
    (hc : course.perform script.world s = t.settled r args s.clock e)
    (ht : t.moves = (.pending, .running) :: s.moves) (he : e = .ok c)
    (hr : ∀ d, (c.outcome r args d).Reports script.ending) : course.Comes r args script s := by
  subst he
  exact ⟨_, _, hc, by cases c <;> rfl, c.consistent_outcome r args _, hr _,
    Scene.walked_concluded r args c _ ht⟩

/-- Without an environment a fault of launching is the outcome, and any other one is passed on. -/
theorem Course.comes_or_fails_of_error {f : Fault} (he : r.environment = .error f)
    (hc : course.perform script.world s = t.settled r args s.clock f.conclusion)
    (ht : t.moves = (.pending, .running) :: s.moves) :
    course.Comes r args script s ∨ course.Fails r script s := by
  cases hf : f.isLaunchFault with
  | true =>
    have h : f.conclusion = .ok (.notStarted f) := if_pos hf
    exact .inl (Course.comes_of_settled r args script hc ht h fun d _ hcause => by cases hcause)
  | false =>
    have h : f.conclusion = .error f := if_neg (by rw [hf]; decide)
    rw [h] at hc
    exact .inr ⟨f, t, hc, he, hf, (Runner.environment_fault he).kind_ne⟩

theorem Runner.comes_or_fails_runWords (hs : script.ending.isOrdinary = true) (s : Scene Unit) :
    (r.runWords args).Comes r args script s ∨ (r.runWords args).Fails r script s := by
  cases he : r.environment with
  | error f =>
    exact Course.comes_or_fails_of_error r args script he
      (Course.perform_runWords_of_error script.world r args he s) rfl
  | ok env =>
    obtain ⟨c, hc⟩ := Ending.exists_conclusion hs
    exact .inl (Course.comes_of_settled r args script
      (Course.perform_runWords_script r args he script s) rfl hc
      fun d => Conclusion.reports_outcome r args d hc)

theorem Runner.comes_or_fails_runWordsCooperatively (hs : script.ending.isOrdinary = true)
    (s : Scene Unit) :
    (r.runWordsCooperatively args).Comes r args script.piped s ∨
      (r.runWordsCooperatively args).Fails r script.piped s := by
  cases he : r.environment with
  | error f =>
    exact Course.comes_or_fails_of_error r args script.piped he
      (Course.perform_runWordsCooperatively_of_error script.piped.world r args he s) rfl
  | ok env =>
    obtain ⟨c, hc⟩ := Ending.exists_conclusion (e := script.ending.unread)
      (by rw [Ending.isOrdinary_unread]; exact hs)
    exact .inl (Course.comes_of_settled r args script.piped
      (Course.perform_runWordsCooperatively_script r args he script hs s) rfl hc
      fun d => (Ending.reports_of_unread (Conclusion.reports_outcome r args d hc)).piped)

theorem Runner.comes_or_fails_runCooperatively {command : Value}
    (hw : Runner.words command = .ok args) (handled : Bool)
    (h : (r.runWordsCooperatively args).Comes r args script s ∨
      (r.runWordsCooperatively args).Fails r script s) :
    (r.runCooperatively command handled).Comes r args script s ∨
      (r.runCooperatively command handled).Fails r script s := by
  rcases h with ⟨o, t, hp, ha, hc, hr, hm, hallowed⟩ | ⟨f, t, hp, he⟩
  · refine .inl ⟨o, _, Course.perform_runCooperatively_of_ok _ r args hw handled hp, ha, hc, hr, ?_,
      hallowed⟩
    -- telling the handler moves no status
    cases handled <;> exact hm
  · exact .inr ⟨f, t, Course.perform_runCooperatively_of_error _ r args hw handled hp, he⟩

/-- Where an output is missing an execution that comes to an outcome did so without its launch. -/
theorem Runner.comes_or_fails_runCooperatively_of_missing {command : Value}
    (hw : Runner.words command = .ok args) (handled : Bool)
    (hc : script.ending.isCaptured = false) {o : Outcome}
    (ho : (r.runCooperatively command handled).perform script.world s = (.ok o, t)) :
    (r.runCooperatively command handled).Comes r args script s ∨
      (r.runCooperatively command handled).Fails r script s := by
  cases he : r.environment with
  | error f =>
    exact r.comes_or_fails_runCooperatively args script hw handled
      (Course.comes_or_fails_of_error r args script he
        (Course.perform_runWordsCooperatively_of_error script.world r args he s) rfl)
  | ok env =>
    have hbroken := Course.perform_runWordsCooperatively_of_missing r args he hc s
    cases hp : (r.runWordsCooperatively args).perform script.world s with
    | mk x v =>
      rw [hp] at hbroken
      obtain rfl : x = .error .notCaptured := hbroken
      rw [Course.perform_runCooperatively_of_error _ r args hw handled hp] at ho
      cases ho

end Ways

/-! ### The main statement -/

/-- **Outcomes are consistent.** However a process ends that is not cancelled, both ways of waiting
for it, the cooperative one with outputs that are captured, come to an outcome whose fields agree
and that reports how the process ended, by moves that are allowed. The only fault that is passed on
is that of an environment that cannot be made, and none is if texts are added to it by name. Where
an output is missing a cooperative execution has no outcome, or one of this kind. -/
theorem outcome_consistent (r : Runner) {command : Value} {args : List String}
    (hw : Runner.words command = .ok args) (script : Script)
    (hs : script.ending.isOrdinary = true) (s : Scene Unit) (handled : Bool) :
    (∀ way ∈ [(r.run command, script), (r.runCooperatively command handled, script.piped)],
      (way.1.Comes r args way.2 s ∨ way.1.Fails r way.2 s) ∧
        (r.HasTextEnvironment → way.1.Comes r args way.2 s)) ∧
      ∀ o t, (r.runCooperatively command handled).perform script.world s = (.ok o, t) →
        (r.runCooperatively command handled).Comes r args script s := by
  have hrun : (r.run command).Comes r args script s ∨ (r.run command).Fails r script s := by
    rw [r.run_eq hw]
    exact r.comes_or_fails_runWords args script hs s
  have hpiped := Runner.comes_or_fails_runCooperatively r args script.piped hw handled
    (r.comes_or_fails_runWordsCooperatively args script hs s)
  refine ⟨fun way hm => ?_, fun o t ho => ?_⟩
  · have either : way.1.Comes r args way.2 s ∨ way.1.Fails r way.2 s := by
      rcases List.mem_cons.mp hm with rfl | hm
      · exact hrun
      · rw [List.mem_singleton.mp hm]
        exact hpiped
    refine ⟨either, fun ht => either.resolve_right ?_⟩
    rintro ⟨f, -, -, hf, -⟩
    obtain ⟨env, he⟩ := ht.exists_environment
    rw [he] at hf
    cases hf
  · refine Or.resolve_right (b := (r.runCooperatively command handled).Fails r script s) ?_ ?_
    · cases hc : script.ending.isCaptured with
      | true => rwa [Script.piped_eq hc] at hpiped
      | false =>
        exact r.comes_or_fails_runCooperatively_of_missing args script hw handled hc ho
    · rintro ⟨f, u, hf, -⟩
      rw [ho] at hf
      cases hf

/-- A runner of commands that may end in the exit value that stands for none. A process that exits
with another value fails, with its own exit value and a message, and one that exits with this value
succeeds. -/
theorem outcome_consistent_of_invalid_exit :
    let r : Runner := { successExitValues := [.int 0, .int invalidExitValue] }
    let command : Value := .text "sh -c 'exit 3'"
    let words := ["sh", "-c", "exit 3"]
    Runner.words command = .ok words ∧
      ∀ n ∈ [3, invalidExitValue],
        let script : Script := ⟨0.5, .exits n (.text "out") .nothing⟩
        script.ending.isOrdinary = true ∧
        r.isFailure (.int n) = (n == 3) ∧
        ∀ way ∈ [(r.run command, script), (r.runCooperatively command true, script.piped)],
          (way.1.Comes r words way.2 { world := () } ∨ way.1.Fails r way.2 { world := () }) ∧
            (r.HasTextEnvironment → way.1.Comes r words way.2 { world := () }) := by
  intro r command words
  refine ⟨rfl, ?_⟩
  intro n hn script
  refine ⟨rfl, ?_, (outcome_consistent r rfl script rfl _ _).1⟩
  rcases List.mem_cons.mp hn with rfl | hn
  · rfl
  · rw [List.mem_singleton.mp hn]
    rfl

end Errand
