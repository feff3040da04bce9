import Errand.Execution.Runner
import Errand.Execution.Scene

/-! # What the parts of a course leave behind

A course is performed part by part: `perform_bind` for one part after the other, `perform_attempt`
for a part whose break-off is a result. The effects of an execution on a scene that need no answer
of the world have names of their own, `logged`, `moved` and `recorded`, and each of them leaves
alone what the others change. A question to the world is performed as the world answers it. -/

namespace Errand

/-! ### Effects on a scene -/

namespace Scene

variable {σ : Type} (s : Scene σ)

/-- The scene with one more log line of the runner. -/
def logged (level : Log.Level) (text : String) : Scene σ :=
  { s with shown := .line ⟨level, text, .executor, false⟩ :: s.shown }

/-- The scene after one more move. -/
def moved (current next : Status) : Scene σ := { s with moves := (current, next) :: s.moves }

/-- The scene after changes of the metrics, if they are kept. -/
def recorded (r : Runner) (x : Metrics.Record) : Scene σ :=
  { s with metrics := if r.metricsEnabled then s.metrics.record x else s.metrics }

/-- The scene in which a command was launched. -/
def launched (request : Request) (timeout : Option Value) : Scene σ :=
  { s with launches := ⟨request, timeout, []⟩ :: s.launches }

/-- The scene in which a handler was told something. -/
def called (c : Callback) : Scene σ :=
  { s with
    handler := s.handler.tell c
    calls := ⟨c, (s.handler.tell c).hasResult⟩ :: s.calls }

/-- What the handler was told, in order. -/
def told : List Callback := (s.calls.map (·.call)).reverse

theorem logs_logged (level : Log.Level) (text : String) :
    (s.logged level text).logs = s.logs ++ [⟨level, text, .executor, false⟩] := by
  simp [logs, logged]

theorem logs_mark (e : ChildEvent) : (s.mark e).logs = s.logs := by
  unfold mark
  split <;> rfl

end Scene

/-! ### Performing the parts -/

namespace Course

variable {α β σ : Type} (w : World σ)

theorem perform_bind (c : Course α) (k : α → Course β) (s : Scene σ) :
    (c.bind k).perform w s =
      match c.perform w s with
      | (.ok a, s) => (k a).perform w s
      | (.error f, s) => (.error f, s) := by
  induction c generalizing s with
  | done a => rfl
  | broken f => rfl
  | ask q next ih => exact ih _ _

theorem perform_bind_of_ok {c : Course α} {k : α → Course β} {s t : Scene σ} {a : α}
    (h : c.perform w s = (.ok a, t)) : (c.bind k).perform w s = (k a).perform w t := by
  rw [perform_bind, h]

theorem perform_bind_of_error {c : Course α} {k : α → Course β} {s t : Scene σ} {f : Fault}
    (h : c.perform w s = (.error f, t)) : (c.bind k).perform w s = (.error f, t) := by
  rw [perform_bind, h]

theorem perform_attempt (c : Course α) (s : Scene σ) :
    c.attempt.perform w s = (.ok (c.perform w s).1, (c.perform w s).2) := by
  induction c generalizing s with
  | done a => rfl
  | broken f => rfl
  | ask q next ih => exact ih _ _

theorem perform_update (us : List Metrics.Update) (s : Scene σ) :
    (update us).perform w s = (.ok (), { s with metrics := s.metrics.applyAll us }) := by
  induction us generalizing s with
  | nil => rfl
  | cons u us ih => exact ih _

theorem perform_log (level : Log.Level) (text : String) (s : Scene σ) :
    (log level text).perform w s = (.ok (), s.logged level text) := rfl

theorem perform_move (current next : Status) (s : Scene σ) :
    (move current next).perform w s = (.ok (), s.moved current next) := rfl

theorem perform_clock (s : Scene σ) : clock.perform w s = (.ok s.clock, s) := rfl

theorem perform_record (r : Runner) (x : Metrics.Record) (s : Scene σ) :
    (r.record x).perform w s = (.ok (), s.recorded r x) := by
  unfold Runner.record Scene.recorded
  split
  · exact perform_update w _ s
  · rfl

/-! ### Questions to the world -/

theorem perform_run (request : Request) (timeout : Value) (s : Scene σ) :
    (run request timeout).perform w s =
      (.ok (w.run request timeout s.world).answer,
        ((s.launched request (some timeout)).take (w.run request timeout s.world)).2) := rfl

theorem perform_start (request : Request) (s : Scene σ) :
    (start request).perform w s =
      (.ok (w.start request s.world).answer,
        ((s.launched request none).take (w.start request s.world)).2) := rfl

theorem perform_output (timeout : Value) (s : Scene σ) :
    (output timeout).perform w s =
      (.ok (w.output timeout s.world).answer, (s.take (w.output timeout s.world)).2) := rfl

theorem perform_kill (s : Scene σ) :
    kill.perform w s =
      (.ok (w.kill s.world).answer, ((s.mark .kill).take (w.kill s.world)).2) := rfl

theorem perform_handler (s : Scene σ) : handler.perform w s = (.ok s.handler, s) := rfl

/-! ### Log lines

Nothing that is asked takes a log line back. -/

theorem logs_answer (q : Query) (s : Scene σ) : s.logs <+: (s.answer w q).2.logs := by
  cases q with
  | log line =>
    refine ⟨[line], ?_⟩
    simp [Scene.answer, Scene.logs]
  | write out err =>
    refine ⟨[], ?_⟩
    simp [Scene.answer, Scene.logs]
  | kill =>
    refine ⟨[], ?_⟩
    rw [List.append_nil]
    exact (s.logs_mark .kill).symm
  | reap =>
    refine ⟨[], ?_⟩
    rw [List.append_nil]
    exact (s.logs_mark .wait).symm
  | update _ | move _ _ | clock | run _ _ | start _ | output _ | call _ | handler =>
    exact List.prefix_rfl

theorem logs_perform (c : Course α) (s : Scene σ) : s.logs <+: (c.perform w s).2.logs := by
  induction c generalizing s with
  | done a => exact List.prefix_rfl
  | broken f => exact List.prefix_rfl
  | ask q next ih => exact (logs_answer w q s).trans (ih _ _)

theorem logs_perform_bind (c : Course α) (k : α → Course β) (s : Scene σ) :
    (c.perform w s).2.logs <+: ((c.bind k).perform w s).2.logs := by
  rw [perform_bind]
  rcases c.perform w s with ⟨a | f, t⟩
  · exact List.prefix_rfl
  · exact logs_perform w _ t

end Course

end Errand
