import Errand.Host.Patience
import Errand.Proofs.Execution.Aftermath

/-! # The two ways of waiting agree

A blocking and a cooperative execution of one command meet the same process. They launch it once and
in the same way, they record the same, and they come to the same outcome (`run_agrees`), because
both draw their conclusions from its ending and a cooperative one reads the bytes of a text as that
text. Of a process that takes too long the blocking one shows what was written so far, and the
cooperative one shows nothing.

Two things stand between a cooperative execution and the exit of its process. It reads outputs that
are captured, and breaks off where one is missing; and it keeps the time itself, so under a limit
that is spent it does not learn of the exit (`run_disagrees`). A world whose waits keep to their
limits is one of three for each limit (`World.under`,
`Course.perform_runWordsCooperatively_limited`). -/

namespace Errand

/-! ### Worlds that answer alike -/

namespace Course

variable {σ : Type} (r : Runner) (args : List String)

section Alike
variable {w w' : World σ} (hk : w.kill = w'.kill) (hr : w.reap = w'.reap)
include hk hr

theorem reaped_congr (s : Scene σ) : s.reaped w = s.reaped w' := by
  unfold Scene.reaped Scene.killed
  rw [hk, hr]

theorem perform_killAndReap_congr {α : Type} {next : Course α}
    (hn : ∀ t : Scene σ, next.perform w t = next.perform w' t) (s : Scene σ) :
    (Runner.killAndReap next).perform w s = (Runner.killAndReap next).perform w' s := by
  rw [perform_killAndReap, perform_killAndReap, reaped_congr hk hr]
  cases (s.reaped w').1 with
  | ok _ => exact hn _
  | error f => rfl

/-- Once a process was waited for, only killing and waiting for its end are left to the world. -/
theorem perform_watched_congr (started : Float) (pid : Nat) (answer : OutputAnswer) (s : Scene σ) :
    (r.watched args started pid answer).perform w s =
      (r.watched args started pid answer).perform w' s := by
  have hconclude (e : Except Fault Conclusion) (t : Scene σ) :
      (r.conclude args started e).perform w t = (r.conclude args started e).perform w' t := by
    rw [perform_conclude, perform_conclude]
  have hpass (t : Scene σ) :
      (r.passOn args started pid).perform w t = (r.passOn args started pid).perform w' t := by
    rw [perform_passOn, perform_passOn]
  unfold Runner.watched
  split
  · exact hconclude _ s
  · rfl
  · exact perform_killAndReap_congr hk hr (hconclude _) s
  · exact perform_killAndReap_congr hk hr hpass s
  · exact hpass s
  · rfl

/-- Worlds that launch alike, and whose waits have the same answers under the limit of a runner, are
the same to its cooperative executions. -/
theorem perform_runWordsCooperatively_congr (hs : w.start = w'.start)
    (ho : w.output r.timeout = w'.output r.timeout) (s : Scene σ) :
    (r.runWordsCooperatively args).perform w s = (r.runWordsCooperatively args).perform w' s := by
  cases he : r.environment with
  | error f =>
    rw [perform_runWordsCooperatively_of_error w r args he,
      perform_runWordsCooperatively_of_error w' r args he]
  | ok env =>
    rw [perform_runWordsCooperatively_of_ok w r args he,
      perform_runWordsCooperatively_of_ok w' r args he, hs, ho]
    dsimp only
    cases (w'.start (r.request args env) s.world).answer with
    | error f => rfl
    | ok pid => exact perform_watched_congr r args hk hr _ pid _ _

end Alike

/-- Limits of cooperative waits are none of a blocking execution. -/
theorem perform_runWords_limited (w : World σ) (s : Scene σ) :
    (r.runWords args).perform w.limited s = (r.runWords args).perform w s := by
  cases he : r.environment with
  | error f => rw [perform_runWords_of_error _ r args he, perform_runWords_of_error _ r args he]
  | ok env =>
    rw [perform_runWords_of_ok _ r args he, perform_runWords_of_ok _ r args he]
    rfl

/-- Where waits keep to their limits, an execution is one in the world under its own limit. -/
theorem perform_runWordsCooperatively_limited (w : World σ) (s : Scene σ) :
    (r.runWordsCooperatively args).perform w.limited s =
      (r.runWordsCooperatively args).perform (w.under r.timeout) s :=
  perform_runWordsCooperatively_congr (w := w.limited) r args (w.kill_under r.timeout).symm
    (w.reap_under r.timeout).symm (w.start_under r.timeout).symm (w.output_limited r.timeout) s

end Course

/-! ### One process, two outcomes -/

/-- The outcomes of the two ways for a process with this ending. -/
def Ending.Relates (blocking cooperative : Outcome) : Ending → Prop
  | .timesOut out err =>
    blocking.stdout = out.toText ∧ blocking.stderr = err.toText ∧
      cooperative = { blocking with stdout := "", stderr := "" }
  | _ => cooperative = blocking

/-- What is recorded of an ending does not depend on whether the output was seen. -/
theorem Conclusion.record_unread (r : Runner) (duration : Float) {e : Ending} {c d : Conclusion}
    (hc : e.conclusion = .ok c) (hd : e.unread.conclusion = .ok d) :
    c.record r duration = d.record r duration := by
  cases e with
  | timesOut out err => cases hc; cases hd; rfl
  | exits n out err => cases hc; cases hd; rfl
  | raises f =>
    rw [hc.symm.trans hd |> Except.ok.inj]
  | cancelled n => cases hc

theorem Conclusion.relates_outcome (r : Runner) (args : List String) (duration : Float)
    {e : Ending} {c d : Conclusion} (hc : e.conclusion = .ok c)
    (hd : e.unread.conclusion = .ok d) :
    e.Relates (c.outcome r args duration) (d.outcome r args duration) := by
  cases e with
  | timesOut out err => cases hc; cases hd; exact ⟨rfl, rfl, rfl⟩
  | exits n out err => cases hc; cases hd; rfl
  | raises f =>
    rw [hc.symm.trans hd |> Except.ok.inj]
    rfl
  | cancelled n => cases hc

/-- Whether a process with this ending could be launched. -/
def Ending.isLaunched : Ending → Bool
  | raises _ => false
  | _ => true

namespace Course

variable (r : Runner) (args : List String) {env : Option (List (Value × Value))}

/-- An execution under a limit that is spent kills its process, however that would have ended. -/
theorem perform_runWordsCooperatively_of_isSpent (he : r.environment = .ok env) {script : Script}
    (hl : script.ending.isLaunched = true) (ht : Host.Limit.isSpent r.timeout = .ok true)
    (s : Scene Unit) :
    (r.runWordsCooperatively args).perform script.world.limited s =
      Scene.settled
        { s.opened r args "Executing (async): " with
          launches := ⟨r.request args env, none, [.kill, .wait]⟩ :: s.launches }
        r args s.clock (.ok (.timedOut .nothing .nothing)) := by
  rw [perform_runWordsCooperatively_limited]
  unfold World.under
  rw [ht, perform_runWordsCooperatively_of_ok _ r args he]
  obtain ⟨after, ending⟩ := script
  cases ending with
  | raises f => cases hl
  | _ => exact perform_conclude _ r args s.clock (.ok (.timedOut .nothing .nothing)) _

end Course

/-- **The two ways of waiting agree.** On one process that is not cancelled, whose outputs are
captured where they are waited for cooperatively, both come to an outcome. Each launches the command
once, with the same words, directory and environment; the metrics change in the same way; and the
outcomes are equal, apart from the output of a process that took too long. Waits that keep to their
limits change nothing for a blocking execution, nor for a cooperative one under a limit that is not
spent. Under one that is spent, a cooperative execution kills the process and is too late; and where
an output is missing, it breaks off. -/
theorem run_agrees (r : Runner) (hr : r.HasTextEnvironment) {command : Value} {args : List String}
    (hw : Runner.words command = .ok args) (script : Script)
    (hs : script.ending.isOrdinary = true) (s : Scene Unit) (handled : Bool) :
    ∃ env o p t u, r.environment = .ok env ∧
      (r.run command).perform script.world s = (.ok o, t) ∧
      (r.run command).perform script.world.limited s = (.ok o, t) ∧
      (r.runCooperatively command handled).perform script.piped.world s = (.ok p, u) ∧
      t.launches = ⟨⟨args, r.directory, env⟩, some r.timeout, []⟩ :: s.launches ∧
      u.launches = ⟨⟨args, r.directory, env⟩, none, script.ending.events⟩ :: s.launches ∧
      t.metrics = u.metrics ∧ script.ending.Relates o p ∧
      (Host.Limit.isSpent r.timeout = .ok false →
        (r.runCooperatively command handled).perform script.piped.world.limited s = (.ok p, u)) ∧
      (Host.Limit.isSpent r.timeout = .ok true → script.ending.isLaunched = true →
        ∃ q v, (r.runCooperatively command handled).perform script.piped.world.limited s =
            (.ok q, v) ∧
          q.timedOut = true ∧ q.stdout = "" ∧ q.stderr = "" ∧
          v.launches = ⟨⟨args, r.directory, env⟩, none, [.kill, .wait]⟩ :: s.launches) ∧
      (script.ending.isCaptured = false →
        ((r.runCooperatively command handled).perform script.world s).1 = .error .notCaptured) := by
  obtain ⟨env, he⟩ := hr.exists_environment
  obtain ⟨c, hc⟩ := Ending.exists_conclusion hs
  obtain ⟨d, hd⟩ := Ending.exists_conclusion (e := script.ending.unread)
    (by rw [Ending.isOrdinary_unread]; exact hs)
  have hb := Course.perform_runWords_script r args he script s
  have hu := Course.perform_runWordsCooperatively_script r args he script hs s
  rw [hc] at hb
  rw [hd] at hu
  have hl := Course.perform_runWords_limited r args script.world s
  rw [hb] at hl
  rw [← r.run_eq hw] at hb hl
  refine ⟨env, _, _, _, _, he, hb, hl,
    Course.perform_runCooperatively_of_ok _ r args hw handled hu, rfl, ?_, ?_,
    Conclusion.relates_outcome r args _ hc hd, fun ht => ?_, fun ht hl => ?_, fun hmissing => ?_⟩
  · cases handled <;> rfl
  · have hm := Conclusion.record_unread r (s.clock + script.after - s.clock) hc hd
    -- the heading of the log line is the only difference between the two first parts
    have hmetrics := congrArg (fun x => Scene.metrics ((s.opened r args "").recorded r x)) hm
    cases handled <;> exact hmetrics
  · have hunder : script.piped.world.under r.timeout = script.piped.world := by
      unfold World.under
      rw [ht]
    refine Course.perform_runCooperatively_of_ok _ r args hw handled ?_
    rw [Course.perform_runWordsCooperatively_limited, hunder]
    exact hu
  · have hl' : script.piped.ending.isLaunched = true := by
      rw [← hl]
      unfold Script.piped
      cases script.ending <;> rfl
    have hlate := Course.perform_runWordsCooperatively_of_isSpent r args he hl' ht s
    refine ⟨_, _, Course.perform_runCooperatively_of_ok _ r args hw handled hlate, rfl, rfl, rfl,
      ?_⟩
    cases handled <;> rfl
  · have hbroken := Course.perform_runWordsCooperatively_of_missing r args he hmissing s
    cases hp : (r.runWordsCooperatively args).perform script.world s with
    | mk x v =>
      rw [hp] at hbroken
      obtain rfl : x = .error .notCaptured := hbroken
      rw [Course.perform_runCooperatively_of_error _ r args hw handled hp]

/-- A process that wrote a text and no errors, with a variable added to its environment. -/
theorem run_agrees_on_text :
    let r : Runner :=
      { successExitValues := [.int 0], extraEnvironment := .dict [("LANG", .text "C")] }
    let script : Script := ⟨0.25, .exits 3 (.text "Grüße\r\n") .nothing⟩
    let command : Value := .list [.text "printf", .text "a b"]
    r.HasTextEnvironment ∧ Runner.words command = .ok ["printf", "a b"] ∧
      script.ending.isOrdinary = true ∧ Host.Limit.isSpent r.timeout = .ok false ∧
      script.ending.isCaptured = false ∧
      ∃ env o p t u, r.environment = .ok env ∧
        (r.run command).perform script.world { world := () } = (.ok o, t) ∧
        (r.runCooperatively command false).perform script.piped.world { world := () } = (.ok p, u) ∧
        t.launches = [⟨⟨["printf", "a b"], r.directory, env⟩, some r.timeout, []⟩] ∧
        u.launches = [⟨⟨["printf", "a b"], r.directory, env⟩, none, script.ending.events⟩] ∧
        t.metrics = u.metrics ∧ script.ending.Relates o p ∧
        (r.runCooperatively command false).perform script.piped.world.limited { world := () } =
          (.ok p, u) ∧
        ((r.runCooperatively command false).perform script.world { world := () }).1 =
          .error .notCaptured := by
  intro r script command
  have hw : Runner.words command = .ok ["printf", "a b"] := rfl
  obtain ⟨env, o, p, t, u, he, ho, -, hp, ht, hu, hm, hrel, hlimited, -, hmissing⟩ :=
    run_agrees r (.inr ⟨[("LANG", "C")], rfl⟩) hw script rfl { world := () } false
  exact ⟨.inr ⟨[("LANG", "C")], rfl⟩, rfl, rfl, rfl, rfl, env, o, p, t, u, he, ho, hp, ht, hu, hm,
    hrel, hlimited rfl, hmissing rfl⟩

/-- **Where the two ways disagree.** A process exits with 0, and its error output is not captured: a
blocking execution comes to a success and counts it, and a cooperative one breaks off and counts
nothing but its start. A process exits with 0 under a limit of no seconds: a blocking execution that
is told of the exit comes to it, and a cooperative one is too late. -/
theorem run_disagrees :
    let command : Value := .list [.text "prog"]
    (let r : Runner := { successExitValues := [.int 0] }
      let script : Script := ⟨0.0, .exits 0 (.text "x") .nothing⟩
      ∃ o t u, (r.run command).perform script.world { world := () } = (.ok o, t) ∧
        (r.runCooperatively command false).perform script.world { world := () } =
          (.error .notCaptured, u) ∧
        o.status = .succeeded ∧ t.metrics.succeeded = 1 ∧ u.metrics.started = 1 ∧
        u.metrics.succeeded = 0) ∧
    let r : Runner := { successExitValues := [.int 0], timeout := .float 0.0 }
    let script : Script := ⟨0.0, .exits 0 (.text "x") (.text "")⟩
    ∃ o p t u, (r.run command).perform script.world.limited { world := () } = (.ok o, t) ∧
      (r.runCooperatively command false).perform script.world.limited { world := () } = (.ok p, u) ∧
      o.exitValue = 0 ∧ o.timedOut = false ∧ p.exitValue = invalidExitValue ∧ p.timedOut = true :=
  ⟨⟨_, _, _, rfl, rfl, rfl, rfl, rfl, rfl⟩, _, _, _, _, rfl, rfl, rfl, rfl, rfl, rfl⟩

end Errand
