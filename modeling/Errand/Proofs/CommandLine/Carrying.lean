import Errand.Proofs.CommandLine.Modes
import Errand.Proofs.Execution.Refusal

/-! # What a job leaves behind

A job runs its command once, with its runner, and what it does besides only shows something: apart
from that, a job in the foreground leaves behind what its runner leaves that waits for the command,
and one in the background what the party leaves that runs it (`shown_runInForeground`,
`shown_runInBackground`). So the words of the command are launched once, the metrics name the
program and are those of one execution after that, and the handler is told of the end of the
execution exactly if the job is in the background (`carriesOut_course`). -/

namespace Errand

/-! ### Scenes that differ in what is shown -/

/-- Two scenes are the same, but for what is shown. -/
def Scene.IsShown {σ : Type} (s t : Scene σ) : Prop := ∃ shown, t = { s with shown }

namespace Scene.IsShown

variable {σ : Type} {s t u : Scene σ}

theorem refl (s : Scene σ) : s.IsShown s := ⟨s.shown, rfl⟩

theorem trans (h : s.IsShown t) (h' : t.IsShown u) : s.IsShown u := by
  obtain ⟨_, rfl⟩ := h
  obtain ⟨shown, rfl⟩ := h'
  exact ⟨shown, rfl⟩

theorem launches_eq (h : s.IsShown t) : t.launches = s.launches := by
  obtain ⟨_, rfl⟩ := h
  rfl

theorem metrics_eq (h : s.IsShown t) : t.metrics = s.metrics := by
  obtain ⟨_, rfl⟩ := h
  rfl

theorem hears (h : s.IsShown t) : s.Hears t [] := by
  obtain ⟨_, rfl⟩ := h
  exact .of_calls_eq rfl rfl

end Scene.IsShown

namespace Course

variable {α β σ : Type} (w : World σ)

/-- A course shows something, and does nothing else. -/
def OnlyShows (c : Course α) : Prop := ∀ s : Scene σ, s.IsShown (c.perform w s).2

theorem onlyShows_done (a : α) : (done a).OnlyShows w := Scene.IsShown.refl

theorem onlyShows_broken (f : Fault) : (broken f : Course α).OnlyShows w := Scene.IsShown.refl

theorem onlyShows_ofExcept (x : Except Fault α) : (ofExcept x).OnlyShows w := by
  cases x with
  | ok a => exact onlyShows_done w a
  | error f => exact onlyShows_broken w f

theorem onlyShows_log (line : Log.Line) : (query (.log line)).OnlyShows w :=
  fun s => ⟨.line line :: s.shown, rfl⟩

theorem onlyShows_write (out err : String) : (write out err).OnlyShows w :=
  fun s => ⟨.written out err :: s.shown, rfl⟩

theorem onlyShows_handler : handler.OnlyShows w := Scene.IsShown.refl

variable {w}

/-- What is shown after a part adds nothing else to it. -/
theorem isShown_perform_bind (c : Course α) {k : α → Course β} (hk : ∀ a, (k a).OnlyShows w)
    (s : Scene σ) : (c.perform w s).2.IsShown ((c.bind k).perform w s).2 := by
  rw [perform_bind]
  rcases c.perform w s with ⟨f | a, t⟩
  · exact .refl t
  · exact hk a t

theorem OnlyShows.bind {c : Course α} {k : α → Course β} (h : c.OnlyShows w)
    (hk : ∀ a, (k a).OnlyShows w) : (c.bind k).OnlyShows w :=
  fun s => (h s).trans (isShown_perform_bind c hk s)

end Course

/-! ### Jobs -/

namespace CommandLine.Job
open Course

variable {σ : Type} (w : World σ) (j : Job) (s : Scene σ)

/-- The scene in which the metrics name the program of a job. -/
def named : Scene σ := { s with metrics := s.metrics.apply (.named j.version j.name) }

theorem onlyShows_logFailure (f : Failure) : (logFailure f).OnlyShows w := onlyShows_log w _

theorem onlyShows_awaitResult (h : Handler) : (j.awaitResult h).OnlyShows w := by
  unfold awaitResult
  dsimp only
  split
  · exact onlyShows_done w ()
  · exact onlyShows_broken w _
  · exact onlyShows_broken w _
  · exact onlyShows_broken w _

theorem shown_runInForeground :
    ((j.runner.run j.commandValue).perform w s).2.IsShown (j.runInForeground.perform w s).2 := by
  refine isShown_perform_bind _ (fun o => ?_) s
  refine (onlyShows_write w _ _).bind fun _ => ?_
  cases o.success with
  | true => exact onlyShows_done w _
  | false => exact (onlyShows_logFailure w _).bind fun _ => onlyShows_done w _

theorem shown_runInBackground (hc : j.command ≠ []) :
    ((j.runner.runAndNotify j.command).perform w s).2.IsShown
      (j.runInBackground.perform w s).2 := by
  unfold runInBackground commandValue
  rw [j.runner.runInBackground_eq (Runner.words_texts hc)]
  have ha : ((j.runner.runAndNotify j.command).attempt.perform w s).2 =
      ((j.runner.runAndNotify j.command).perform w s).2 := by rw [perform_attempt]
  rw [← ha]
  refine isShown_perform_bind _ (fun _ => ?_) s
  refine (onlyShows_handler w).bind fun h => ?_
  refine (j.onlyShows_awaitResult w h).bind fun _ => ?_
  refine (onlyShows_ofExcept w _).bind fun failure => ?_
  refine (onlyShows_write w _ _).bind fun _ => ?_
  cases failure with
  | none => exact (onlyShows_ofExcept w _).bind fun _ => onlyShows_done w _
  | some f =>
    exact (onlyShows_logFailure w f).bind fun _ =>
      (onlyShows_ofExcept w _).bind fun _ => onlyShows_done w _

/-- A job names the program and runs its command; after that it only shows something. -/
theorem shown_course : (j.run.perform w (j.named s)).2.IsShown (j.course.perform w s).2 := by
  have ha : (j.run.attempt.perform w (j.named s)).2 = (j.run.perform w (j.named s)).2 := by
    rw [perform_attempt]
  rw [← ha]
  refine isShown_perform_bind j.run.attempt (fun x => ?_) (j.named s)
  cases x with
  | ok code => exact onlyShows_done w _
  | error f =>
    dsimp only
    split_ifs
    · exact (onlyShows_log w _).bind fun _ => onlyShows_done w _
    · exact onlyShows_broken w f

/-- A course runs these words once with a runner, in its own directory and environment. The metrics
name the program and are those of one execution after that; the handler is told of its end if this
is done in the background, and nothing otherwise. -/
def CarriesOut (course : Course Exit) : Prop :=
  ∀ {σ : Type} (w : World σ) (s : Scene σ),
    let execution := (j.runner.run j.commandValue).perform w (j.named s)
    let t := (course.perform w s).2
    t.HasLaunched ⟨j.command, none, none⟩ (some j.runner.timeout) s.launches ∧
      t.metrics = execution.2.metrics ∧
      s.Hears t (if j.background then Runner.report execution.1 else [])

theorem carriesOut_course {j : Job} (hc : j.command ≠ []) (hd : j.runner.directory = none)
    (he : j.runner.environment = .ok none) : j.CarriesOut j.course := by
  intro σ w s execution t
  have hs : (j.run.perform w (j.named s)).2.IsShown t := j.shown_course w s
  have hn : s.Hears (j.named s) [] := .of_calls_eq rfl rfl
  have hrun : execution = (j.runner.runWords j.command).perform w (j.named s) := by
    unfold execution commandValue
    rw [j.runner.run_eq (Runner.words_texts hc)]
  have launched {u : Scene σ} (hl : (j.named s).LaunchesOnce u j.runner j.command
      (some j.runner.timeout)) :
      u.HasLaunched ⟨j.command, none, none⟩ (some j.runner.timeout) s.launches := by
    unfold Scene.LaunchesOnce at hl
    rw [he, hd] at hl
    exact hl
  cases hb : j.background with
  | false =>
    have hf : execution.2.IsShown (j.run.perform w (j.named s)).2 := by
      unfold run
      rw [hb]
      exact j.shown_runInForeground w (j.named s)
    have ht : execution.2.IsShown t := hf.trans hs
    refine ⟨launched (.of_launches_eq ?_ ht.launches_eq), ht.metrics_eq, ?_⟩
    · rw [hrun]
      exact launchesOnce_runWords w j.runner j.command _
    · have hr := hears_runWords w j.runner j.command (j.named s)
      rw [← hrun] at hr
      exact (hn.trans hr).trans ht.hears
  | true =>
    have hr : ((j.runner.runAndNotify j.command).perform w (j.named s)).2.IsShown
        (j.run.perform w (j.named s)).2 := by
      unfold run
      rw [hb]
      exact j.shown_runInBackground w (j.named s) hc
    have ht := hr.trans hs
    refine ⟨launched (.of_launches_eq ?_ ht.launches_eq), ?_, ?_⟩
    · exact launchesOnce_runAndNotify w j.runner hc _
    · rw [ht.metrics_eq, perform_runAndNotify w j.runner hc, hrun]
      exact Scene.metrics_reported _ j.command _
    · have hh := hears_runAndNotify w j.runner j.command hc (j.named s)
      rw [← hrun] at hh
      have := (hn.trans hh).trans ht.hears
      rwa [List.nil_append, List.append_nil] at this

end CommandLine.Job

end Errand
