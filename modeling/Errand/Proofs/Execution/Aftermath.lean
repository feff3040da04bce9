import Errand.Proofs.Execution.Command
import Errand.Proofs.Execution.Conclusion
import Errand.Proofs.Text.Utf8

/-! # What an execution leaves behind

The first part of an execution turns a scene into `opened`, its last part into `concluded`, and
both are known whatever the world answers. In any world a blocking execution is its first part, the
launch and its last part (`perform_runWords_of_ok`). In the world of a script the two ways of
waiting differ in the heading of a log line and in the launch, and a cooperative one does not see
what a process wrote that took too long (`perform_runWords_script`,
`perform_runWordsCooperatively_script`). A cooperative one breaks off where it misses an output
(`perform_runWordsCooperatively_of_missing`). -/

namespace Errand

/-! ### The first and the last part -/

/-- The callback about the result of an outcome. -/
def Outcome.result (o : Outcome) : Callback :=
  match Runner.blockingResult o with
  | .ok v => .complete (.int v)
  | .error f => .failed f

/-- What waiting for the end of a killed process comes to. -/
def ReapAnswer.result : ReapAnswer → Except Fault Unit
  | exited => .ok ()
  | cancelled => .error .cancelled

namespace Scene

variable {σ : Type} (s : Scene σ) (r : Runner) (args : List String)

/-- The scene after the first part of an execution. -/
def opened (heading : String) : Scene σ :=
  ((s.logged .info (heading ++ Words.join args)).moved .pending .running).recorded r .started

theorem world_opened (heading : String) : (s.opened r args heading).world = s.world := rfl

/-- The scene after the last part of an execution. -/
def concluded (c : Conclusion) (duration : Float) : Scene σ :=
  ((s.moved .running (c.status r)).logged (c.level r) (c.text r args)).recorded r
    (c.record r duration)

/-- The scene in which the handler was told of an outcome. -/
def notified (o : Outcome) : Scene σ := (s.called (.output o.stdout o.stderr)).called o.result

/-- The scene in which a process was killed. -/
def killed (w : World σ) : Scene σ := ((s.mark .kill).take (w.kill s.world)).2

/-- What killing a process and waiting for its end comes to, and the scene after it. -/
def reaped (w : World σ) : Except Fault Unit × Scene σ :=
  match (w.kill s.world).answer with
  | .error f => (.error f, s.killed w)
  | .ok () =>
    let reap := w.reap (s.killed w).world
    (reap.answer.result, (((s.killed w).mark .wait).take reap).2)

/-- The scene after a cancelled execution. -/
def abandoned (started : Float) (pid : Nat) : Scene σ :=
  (s.logged .warning
    ("Process " ++ Runner.program args ++ " cancelled, killed pid " ++ toString pid)).recorded r
    (.failed Metrics.Reason.cancelled.label (s.clock - started))

/-- The outcome and the scene after it, or the fault that is passed on. -/
def settled (started : Float) : Except Fault Conclusion → Except Fault Outcome × Scene σ
  | .ok c => (.ok (c.outcome r args (s.clock - started)), s.concluded r args c (s.clock - started))
  | .error f => (.error f, s)

theorem launches_settled (started : Float) (e : Except Fault Conclusion) :
    (s.settled r args started e).2.launches = s.launches := by
  cases e <;> rfl

theorem calls_settled (started : Float) (e : Except Fault Conclusion) :
    (s.settled r args started e).2.calls = s.calls := by
  cases e <;> rfl

theorem settled_eq_error_iff (started : Float) {e : Except Fault Conclusion} {f : Fault} :
    (s.settled r args started e).1 = .error f ↔ e = .error f := by
  cases e <;> simp [settled]

end Scene

namespace Course

variable {σ : Type} (w : World σ) (r : Runner) (args : List String)

theorem perform_opening (heading : String) (s : Scene σ) :
    (r.opening args heading).perform w s = (.ok (), s.opened r args heading) := by
  unfold Runner.opening
  rw [perform_bind_of_ok w (perform_log ..), perform_bind_of_ok w (perform_move ..),
    perform_record]
  rfl

theorem perform_conclude (started : Float) (e : Except Fault Conclusion) (s : Scene σ) :
    (r.conclude args started e).perform w s = s.settled r args started e := by
  cases e with
  | error f => rfl
  | ok c =>
    unfold Runner.conclude
    dsimp only
    unfold Conclusion.course
    rw [perform_bind_of_ok w (perform_clock w s), perform_bind_of_ok w (perform_move ..),
      perform_bind_of_ok w (perform_log ..), perform_bind_of_ok w (perform_record ..)]
    rfl

theorem perform_notify (o : Outcome) (s : Scene σ) :
    (Runner.notify o).perform w s = (.ok (), s.notified o) := rfl

/-! ### Any world -/

/-- Either way of waiting begins in the same way, apart from the heading of the log line. -/
theorem perform_begin {α : Type} (heading : String) (next : Float → Course α) (s : Scene σ) :
    (Course.clock.bind fun started => (r.opening args heading).bind fun _ => next started).perform
      w s = (next s.clock).perform w (s.opened r args heading) := by
  rw [perform_bind_of_ok w (perform_clock w s), perform_bind_of_ok w (perform_opening ..)]

theorem perform_runWords_of_error {f : Fault} (he : r.environment = .error f) (s : Scene σ) :
    (r.runWords args).perform w s =
      (s.opened r args "Executing: ").settled r args s.clock f.conclusion := by
  rw [Runner.runWords_eq, perform_begin, Runner.inEnvironment_of_error he, perform_conclude]

theorem perform_runWords_of_ok {env : Option (List (Value × Value))}
    (he : r.environment = .ok env) (s : Scene σ) :
    (r.runWords args).perform w s =
      let answer := w.run (r.request args env) r.timeout s.world
      (((s.opened r args "Executing: ").launched (r.request args env) (some r.timeout)).take
        answer).2.settled r args s.clock answer.answer.conclusion := by
  rw [Runner.runWords_eq, perform_begin, Runner.inEnvironment_of_ok he,
    perform_bind_of_ok w (perform_run ..), perform_conclude]
  rfl

theorem perform_runWordsCooperatively_of_error {f : Fault} (he : r.environment = .error f)
    (s : Scene σ) :
    (r.runWordsCooperatively args).perform w s =
      (s.opened r args "Executing (async): ").settled r args s.clock f.conclusion := by
  rw [Runner.runWordsCooperatively_eq, perform_begin, Runner.inEnvironment_of_error he,
    perform_conclude]

theorem perform_runWordsCooperatively_of_ok {env : Option (List (Value × Value))}
    (he : r.environment = .ok env) (s : Scene σ) :
    (r.runWordsCooperatively args).perform w s =
      let start := w.start (r.request args env) s.world
      let t := (((s.opened r args "Executing (async): ").launched (r.request args env) none).take
        start).2
      match start.answer with
      | .error f => t.settled r args s.clock f.conclusion
      | .ok pid =>
        let output := w.output r.timeout t.world
        (r.watched args s.clock pid output.answer).perform w (t.take output).2 := by
  rw [Runner.runWordsCooperatively_eq, perform_begin, Runner.inEnvironment_of_ok he,
    perform_bind_of_ok w (perform_start ..), Scene.world_opened]
  dsimp only
  change (match (w.start (r.request args env) s.world).answer with
    | .error f => _
    | .ok pid => _ : Course Outcome).perform w _ = _
  cases (w.start (r.request args env) s.world).answer with
  | error f => exact perform_conclude ..
  | ok pid =>
    dsimp only
    rw [perform_bind_of_ok w (perform_output ..)]

/-! ### A process that is killed -/

theorem perform_killAndReap {α : Type} (next : Course α) (s : Scene σ) :
    (Runner.killAndReap next).perform w s =
      match (s.reaped w).1 with
      | .ok () => next.perform w (s.reaped w).2
      | .error f => (.error f, (s.reaped w).2) := by
  unfold Runner.killAndReap Scene.reaped
  simp only [bind_eq]
  rw [perform_bind_of_ok w (perform_kill w s)]
  cases (w.kill s.world).answer with
  | error f => rfl
  | ok u =>
    change (match (w.reap (s.killed w).world).answer with
      | .exited => next
      | .cancelled => .broken .cancelled : Course α).perform w _ = _
    cases (w.reap (s.killed w).world).answer <;> rfl

/-- A cancelled execution is recorded as such and broken off. -/
theorem perform_passOn (started : Float) (pid : Nat) (s : Scene σ) :
    (r.passOn args started pid).perform w s =
      (.error .cancelled, s.abandoned r args started pid) := by
  have hl := perform_log w .warning
    ("Process " ++ Runner.program args ++ " cancelled, killed pid " ++ toString pid) s
  unfold Runner.passOn Scene.abandoned
  simp only [bind_eq]
  rw [perform_bind_of_ok w hl]
  split_ifs with hr
  · rw [perform_bind_of_ok w (perform_clock ..), perform_bind_of_ok w (perform_record ..)]
    rfl
  · unfold Scene.recorded
    rw [if_neg hr]
    rfl

/-! ### A blocking execution -/

/-- An execution is broken off by a fault that launching brings along and that is none of
launching. -/
theorem perform_runWords_eq_error_iff (s : Scene σ) (f : Fault) :
    ((r.runWords args).perform w s).1 = .error f ↔
      f.isLaunchFault = false ∧ (r.environment = .error f ∨ ∃ env, r.environment = .ok env ∧
        (w.run (r.request args env) r.timeout s.world).answer = .raised f) := by
  cases he : r.environment with
  | error g =>
    rw [perform_runWords_of_error w r args he, Scene.settled_eq_error_iff,
      Fault.conclusion_eq_error_iff]
    simp
  | ok env =>
    rw [perform_runWords_of_ok w r args he]
    dsimp only
    rw [Scene.settled_eq_error_iff, RunAnswer.conclusion_eq_error_iff]
    simp

/-- A blocking execution launches its words, if their environment can be made. -/
theorem launches_runWords (s : Scene σ) :
    ((r.runWords args).perform w s).2.launches =
      match r.environment with
      | .error _ => s.launches
      | .ok env => ⟨r.request args env, some r.timeout, []⟩ :: s.launches := by
  cases he : r.environment with
  | error f =>
    rw [perform_runWords_of_error w r args he, Scene.launches_settled]
    rfl
  | ok env =>
    rw [perform_runWords_of_ok w r args he]
    dsimp only
    rw [Scene.launches_settled]
    rfl

/-- A blocking execution tells the handler nothing. -/
theorem calls_runWords (s : Scene σ) :
    ((r.runWords args).perform w s).2.calls = s.calls := by
  cases he : r.environment with
  | error f =>
    rw [perform_runWords_of_error w r args he, Scene.calls_settled]
    rfl
  | ok env =>
    rw [perform_runWords_of_ok w r args he]
    dsimp only
    rw [Scene.calls_settled]
    rfl

/-! ### A whole command -/

theorem perform_runCooperatively_of_ok {command : Value} (hw : Runner.words command = .ok args)
    (handled : Bool) {s t : Scene σ} {o : Outcome}
    (h : (r.runWordsCooperatively args).perform w s = (.ok o, t)) :
    (r.runCooperatively command handled).perform w s =
      (.ok o, if handled then t.notified o else t) := by
  rw [r.runCooperatively_eq hw, perform_bind_of_ok w h]
  cases handled <;> rfl

theorem perform_runCooperatively_of_error {command : Value} (hw : Runner.words command = .ok args)
    (handled : Bool) {s t : Scene σ} {f : Fault}
    (h : (r.runWordsCooperatively args).perform w s = (.error f, t)) :
    (r.runCooperatively command handled).perform w s = (.error f, t) := by
  rw [r.runCooperatively_eq hw, perform_bind_of_error w h]

end Course

/-! ### Environments of texts -/

/-- The environment of a command is that of this program, or texts by name are added to it. -/
def Runner.HasTextEnvironment (r : Runner) : Prop :=
  r.extraEnvironment = .null ∨
    ∃ es : List (String × String), r.extraEnvironment = .dict (es.map fun e => (e.1, .text e.2))

/-- Such an environment can be made. -/
theorem Runner.HasTextEnvironment.exists_environment {r : Runner} (h : r.HasTextEnvironment) :
    ∃ env, r.environment = .ok env := by
  unfold environment
  rcases h with h | ⟨es, h⟩
  · rw [h]; exact ⟨_, rfl⟩
  · rw [h]; exact ⟨_, rfl⟩

/-! ### A script -/

/-- The ending as a cooperative execution learns of it: of a process that takes too long it does
not see the output. -/
def Ending.unread : Ending → Ending
  | .timesOut _ _ => .timesOut .nothing .nothing
  | e => e

/-- What a cooperative execution does to a process with this ending. -/
def Ending.events : Ending → List ChildEvent
  | .timesOut _ _ | .cancelled none => [.kill, .wait]
  | _ => []

/-- Whether a process with this ending comes to an outcome: it is not that the waiting party is
cancelled, and a fault of launching is one that executions take care of. -/
def Ending.isOrdinary : Ending → Bool
  | .exits _ _ _ | .timesOut _ _ => true
  | .raises f => f.isLaunchFault
  | .cancelled _ => false

/-- Whether the outputs of a process with this ending were captured. -/
def Ending.isCaptured : Ending → Bool
  | exits _ out err => out.bytes?.isSome && err.bytes?.isSome
  | _ => true

/-- The conclusion that a process with this ending leads to. -/
def Ending.conclusion (e : Ending) : Except Fault Conclusion := (Script.runAnswer e).conclusion

theorem Ending.isOrdinary_unread (e : Ending) : e.unread.isOrdinary = e.isOrdinary := by
  cases e <;> rfl

theorem Ending.exists_conclusion {e : Ending} (h : e.isOrdinary = true) :
    ∃ c, e.conclusion = .ok c := by
  cases e with
  | exits n out err => exact ⟨_, rfl⟩
  | timesOut out err => exact ⟨_, rfl⟩
  | raises f => exact ⟨.notStarted f, if_pos h⟩
  | cancelled n => cases h

theorem Ending.not_isCaptured {e : Ending} (h : e.isCaptured = false) :
    ∃ n out err, e = .exits n out err ∧ (out.bytes? = none ∨ err.bytes? = none) := by
  cases e with
  | exits n out err =>
    have hnone {o : Option Bytes} (ho : o.isSome = false) : o = none :=
      Option.isNone_iff_eq_none.mp (Option.isSome_eq_false_iff.mp ho)
    exact ⟨n, out, err, rfl, (Bool.and_eq_false_iff.mp h).imp hnone hnone⟩
  | _ => cases h

/-- The bytes of captured output are read as its text. -/
theorem decodeLossy_toBytes (c : Capture) : Text.Utf8.decodeLossy c.toBytes = c.toText := by
  cases c with
  | nothing => rfl
  | text s => exact Text.Utf8.decodeLossy_encode s
  | bytes bs => rfl

theorem Capture.bytes?_piped (c : Capture) : c.piped.bytes? = some c.toBytes := by
  cases c <;> rfl

theorem Capture.toText_piped (c : Capture) : c.piped.toText = c.toText := by
  cases c <;> rfl

theorem Capture.piped_eq {c : Capture} (h : c.bytes?.isSome = true) : c.piped = c := by
  cases c with
  | nothing => cases h
  | _ => rfl

theorem Script.piped_eq {script : Script} (h : script.ending.isCaptured = true) :
    script.piped = script := by
  obtain ⟨after, ending⟩ := script
  cases ending with
  | exits n out err =>
    obtain ⟨hout, herr⟩ := Bool.and_eq_true_iff.mp h
    change (⟨after, .exits n out.piped err.piped⟩ : Script) = _
    rw [Capture.piped_eq hout, Capture.piped_eq herr]
  | _ => rfl

namespace Course

variable (r : Runner) (args : List String)

theorem perform_runWords_script {env : Option (List (Value × Value))}
    (he : r.environment = .ok env) (script : Script) (s : Scene Unit) :
    (r.runWords args).perform script.world s =
      Scene.settled
        { s.opened r args "Executing: " with
          clock := s.clock + script.after
          launches := ⟨r.request args env, some r.timeout, []⟩ :: s.launches }
        r args s.clock script.ending.conclusion :=
  perform_runWords_of_ok script.world r args he s

theorem perform_runWordsCooperatively_script {env : Option (List (Value × Value))}
    (he : r.environment = .ok env) (script : Script) (hs : script.ending.isOrdinary = true)
    (s : Scene Unit) :
    (r.runWordsCooperatively args).perform script.piped.world s =
      Scene.settled
        { s.opened r args "Executing (async): " with
          clock := s.clock + script.after
          launches := ⟨r.request args env, none, script.ending.events⟩ :: s.launches }
        r args s.clock script.ending.unread.conclusion := by
  rw [perform_runWordsCooperatively_of_ok _ r args he]
  obtain ⟨after, ending⟩ := script
  cases ending with
  | exits n out err =>
    change (r.watched args s.clock _ (.exited n out.piped.bytes? err.piped.bytes?)).perform _ _ = _
    rw [out.bytes?_piped, err.bytes?_piped]
    change (r.conclude args s.clock (.ok (.exited n (Text.Utf8.decodeLossy out.toBytes)
      (Text.Utf8.decodeLossy err.toBytes)))).perform _ _ = _
    rw [perform_conclude, decodeLossy_toBytes, decodeLossy_toBytes]
    rfl
  | timesOut out err =>
    exact perform_conclude _ r args s.clock (.ok (.timedOut .nothing .nothing)) _
  | raises f => rfl
  | cancelled n => cases hs

/-- An execution breaks off where an output is missing. -/
theorem perform_runWordsCooperatively_of_missing {env : Option (List (Value × Value))}
    (he : r.environment = .ok env) {script : Script} (hc : script.ending.isCaptured = false)
    (s : Scene Unit) :
    ((r.runWordsCooperatively args).perform script.world s).1 = .error .notCaptured := by
  obtain ⟨after, ending⟩ := script
  obtain ⟨n, out, err, rfl, hmissing⟩ := Ending.not_isCaptured hc
  rw [perform_runWordsCooperatively_of_ok _ r args he]
  change ((r.watched args s.clock _ (.exited n out.bytes? err.bytes?)).perform _ _).1 = _
  rcases hmissing with h | h
  · rw [h]
    rfl
  · rw [h]
    cases out.bytes? <;> rfl

end Course

end Errand
