import Errand.Host
import Errand.Proofs.Execution.Accounting
import Errand.Proofs.Execution.Aftermath

/-! # Processes whose output is no text

A process that exits by itself leaves an exit value and two outputs of bytes (`World.Exits`). A
cooperative execution gets the bytes and replaces what is no text. A launch that waits for the end
gives back texts, and a complaint if the bytes are none (`Host.ended`); such a complaint is a launch
fault, because it is about a value that cannot be taken.

So the outcome of a cooperative execution tells of every exit (`Scene.TellsOfExit`). That of a
blocking one tells of it if both outputs are UTF-8, and otherwise it says that the process could not
be launched, although it ran (`Scene.BlamesLaunch`); the main statement is `exit_told`. -/

namespace Errand

/-! ### Bytes that are a text -/

/-- Whether bytes are UTF-8. -/
def Text.Utf8.isText (bs : Bytes) : Bool := (decode? bs).isOk

section Outputs
open Text.Utf8

variable {out err : Bytes}

theorem Host.textOf_of_isText (h : isText out = true) : ∃ a, textOf out = .ok (.text a) := by
  unfold isText at h
  unfold textOf
  cases hd : decode? out with
  | ok a => exact ⟨_, rfl⟩
  | error m => rw [hd] at h; cases h

theorem Host.textOf_of_not_isText (h : isText out = false) :
    ∃ m, textOf out = .error (.undecodable m) := by
  unfold isText at h
  unfold textOf
  cases hd : decode? out with
  | ok a => rw [hd] at h; cases h
  | error m => exact ⟨m, rfl⟩

/-- The end of a process that wrote texts is told as it is. -/
theorem Host.ended_of_isText (n : Int) (h : (isText out && isText err) = true) :
    ∃ a b, ended n out err = .exited n (.text a) (.text b) := by
  obtain ⟨hout, herr⟩ := Bool.and_eq_true_iff.mp h
  obtain ⟨a, ha⟩ := textOf_of_isText hout
  obtain ⟨b, hb⟩ := textOf_of_isText herr
  refine ⟨a, b, ?_⟩
  unfold ended
  rw [ha, hb]

/-- The end of any other process is not told, and neither is its exit value. -/
theorem Host.ended_of_not_isText (n : Int) (h : (isText out && isText err) = false) :
    ∃ m, ended n out err = .raised (.undecodable m) := by
  unfold ended
  -- the output is read first, and the error output only if the output is a text
  cases hout : isText out with
  | false =>
    obtain ⟨m, hm⟩ := textOf_of_not_isText hout
    rw [hm]
    exact ⟨m, rfl⟩
  | true =>
    have herr : isText err = false := by rw [hout, Bool.true_and] at h; exact h
    obtain ⟨a, ha⟩ := textOf_of_isText hout
    obtain ⟨m, hm⟩ := textOf_of_not_isText herr
    rw [ha, hm]
    exact ⟨m, rfl⟩

end Outputs

/-! ### Processes that exit by themselves -/

/-- In this world a request is granted, and its process exits by itself within the timeout, with
this exit value and these outputs. -/
structure World.Exits {σ : Type} (w : World σ) (request : Request) (timeout : Value) (x : σ)
    (n : Int) (out err : Bytes) : Prop where
  run_eq : (w.run request timeout x).answer = Host.ended n out err
  start_eq : ∃ pid, (w.start request x).answer = .ok pid
  output_eq : (w.output timeout (w.start request x).world).answer = .exited n (some out) (some err)

/-- The world in which every process exits so. -/
def World.ofExit (n : Int) (out err : Bytes) : World Unit where
  run _ _ _ := ⟨Host.ended n out err, none, ()⟩
  start _ _ := ⟨.ok Script.pid, none, ()⟩
  output _ _ := ⟨.exited n (some out) (some err), none, ()⟩
  kill _ := ⟨.ok (), none, ()⟩
  reap _ := ⟨.exited, none, ()⟩

theorem World.exits_ofExit (n : Int) (out err : Bytes) (request : Request) (timeout : Value) :
    (ofExit n out err).Exits request timeout () n out err :=
  ⟨rfl, ⟨_, rfl⟩, rfl⟩

/-! ### What an outcome tells of an exit -/

theorem Metrics.failures_record (m : Metrics) (x : Record) (label : String) :
    (m.record x).failures label =
      m.failures label + if x.count = .failed label then 1 else 0 := by
  have h (m : Metrics) (u : Update) : (m.apply u).failures label =
      m.failures label + if u = .failed label then 1 else 0 := by
    exact_mod_cast failures_apply label m u
  cases x with
  | started => exact h m .started
  | succeeded d =>
    change ((m.apply .succeeded).apply (.lasted succeededLabel d)).failures label = _
    rw [h, h]
    rfl
  | failed reason d =>
    change ((m.apply (.failed reason)).apply (.lasted failedLabel d)).failures label = _
    rw [h, h]
    rfl

/-- Whether the conclusion is that a command could not be launched. -/
def Conclusion.isLaunchFailure : Conclusion → Bool
  | notStarted _ => true
  | exited _ _ _ | timedOut _ _ => false

/-- Of all conclusions only a failed launch is counted as one. -/
theorem Conclusion.count_record_eq_iff (r : Runner) (c : Conclusion) (duration : Float) :
    (c.record r duration).count = .failed Metrics.Reason.launchError.label ↔
      c.isLaunchFailure = true := by
  cases c with
  | exited n out err =>
    cases h : r.isFailure (.int n) <;>
      simp [record, h, Metrics.Record.count, Metrics.Reason.label, isLaunchFailure]
  | timedOut out err =>
    simp [record, Metrics.Record.count, Metrics.Reason.label, isLaunchFailure]
  | notStarted f => simp [record, Metrics.Record.count, isLaunchFailure]

namespace Scene

variable {σ : Type} (s : Scene σ) (r : Runner)

/-- How many failures there were because a command could not be launched. -/
def launchFailures : Nat := s.metrics.failures Metrics.Reason.launchError.label

/-- The outcome of an execution and the metrics after it tell of a process that exited. -/
structure TellsOfExit (n : Int) (o : Outcome) (t : Scene σ) : Prop where
  exitValue_eq : o.exitValue = n
  status_eq : o.status = if r.isFailure (.int n) then .failed else .succeeded
  timedOut_eq : o.timedOut = false
  cause_eq : o.cause = none
  launchFailures_eq : t.launchFailures = s.launchFailures

/-- The outcome of an execution and the metrics after it tell of a process that could not be
launched, because some bytes are no text. -/
structure BlamesLaunch (o : Outcome) (t : Scene σ) : Prop where
  exitValue_eq : o.exitValue = invalidExitValue
  status_eq : o.status = .failed
  timedOut_eq : o.timedOut = false
  cause_eq : ∃ m, o.cause = some (.undecodable m)
  launchFailures_eq : t.launchFailures = s.launchFailures + r.metricsEnabled.toNat

variable {s r} {o : Outcome} {t : Scene σ} {n : Int}

theorem BlamesLaunch.not_tellsOfExit (h : s.BlamesLaunch r o t) : ¬ s.TellsOfExit r n o t := by
  intro ht
  obtain ⟨m, hm⟩ := h.cause_eq
  rw [ht.cause_eq] at hm
  cases hm

variable (s r) (args : List String)

theorem failures_recorded (x : Metrics.Record) (label : String) :
    (s.recorded r x).metrics.failures label =
      s.metrics.failures label +
        if r.metricsEnabled = true ∧ x.count = .failed label then 1 else 0 := by
  unfold recorded
  cases hm : r.metricsEnabled with
  | false => simp
  | true => simpa using s.metrics.failures_record x label

theorem launchFailures_take {α : Type} (a : Reply α σ) :
    (s.take a).2.launchFailures = s.launchFailures := rfl

theorem launchFailures_launched (request : Request) (timeout : Option Value) :
    (s.launched request timeout).launchFailures = s.launchFailures := rfl

theorem launchFailures_opened (heading : String) :
    (s.opened r args heading).launchFailures = s.launchFailures := by
  unfold launchFailures opened
  rw [failures_recorded]
  simp [Metrics.Record.count, logged, moved]

/-- Up to the answer about a process no launch has failed. -/
theorem launchFailures_begun {α : Type} (heading : String) (request : Request)
    (timeout : Option Value) (a : Reply α σ) :
    (((s.opened r args heading).launched request timeout).take a).2.launchFailures =
      s.launchFailures := by
  rw [launchFailures_take, launchFailures_launched, launchFailures_opened]

/-- The last part of an execution counts a failed launch only if there was one. -/
theorem launchFailures_settled (started : Float) (c : Conclusion) :
    (t.settled r args started (.ok c)).2.launchFailures =
      t.launchFailures + (r.metricsEnabled && c.isLaunchFailure).toNat := by
  change ((((t.moved .running _).logged _ _)).recorded r
    (c.record r (t.clock - started))).launchFailures = _
  unfold launchFailures
  rw [failures_recorded]
  have hc := c.count_record_eq_iff r (t.clock - started)
  congr 1
  cases hm : r.metricsEnabled <;> cases hl : c.isLaunchFailure <;> simp [hc, hl]

theorem tellsOfExit_settled (ht : t.launchFailures = s.launchFailures) (started : Float)
    (a b : String) :
    ∃ o u, t.settled r args started (.ok (.exited n a b)) = (.ok o, u) ∧ s.TellsOfExit r n o u := by
  refine ⟨_, _, rfl, rfl, rfl, rfl, rfl, ?_⟩
  have hl := t.launchFailures_settled r args started (.exited n a b)
  rw [Conclusion.isLaunchFailure, Bool.and_false, ht] at hl
  exact hl

theorem blamesLaunch_settled (ht : t.launchFailures = s.launchFailures) (started : Float)
    (m : Text.Utf8.Malformed) :
    ∃ o u, t.settled r args started (.ok (.notStarted (.undecodable m))) = (.ok o, u) ∧
      s.BlamesLaunch r o u := by
  refine ⟨_, _, rfl, rfl, rfl, rfl, ⟨m, rfl⟩, ?_⟩
  have hl := t.launchFailures_settled r args started (.notStarted (.undecodable m))
  rw [Conclusion.isLaunchFailure, Bool.and_true, ht] at hl
  exact hl

end Scene

/-! ### The main statement -/

section Executions
variable {σ : Type} {w : World σ} {r : Runner} {args : List String}
  {env : Option (List (Value × Value))} {n : Int} {out err : Bytes} {s : Scene σ}

open Text.Utf8

/-- A cooperative execution concludes with the exit, and reads its outputs itself. -/
theorem Course.exists_settled_runWordsCooperatively (he : r.environment = .ok env)
    (hx : w.Exits (r.request args env) r.timeout s.world n out err) :
    ∃ t : Scene σ, t.launchFailures = s.launchFailures ∧
      (r.runWordsCooperatively args).perform w s =
        t.settled r args s.clock (.ok (.exited n (decodeLossy out) (decodeLossy err))) := by
  obtain ⟨pid, hpid⟩ := hx.start_eq
  rw [perform_runWordsCooperatively_of_ok w r args he]
  dsimp only
  rw [hpid]
  dsimp only
  -- of the scene after the start only the world and the counts matter from here on
  generalize ht : (((s.opened r args "Executing (async): ").launched (r.request args env) none).take
    (w.start (r.request args env) s.world)).2 = t
  have hworld : t.world = (w.start (r.request args env) s.world).world := by rw [← ht]; rfl
  have hl : t.launchFailures = s.launchFailures := by
    rw [← ht, Scene.launchFailures_begun]
  rw [hworld, hx.output_eq]
  refine ⟨_, ?_, perform_conclude w r args s.clock (.ok (.exited n _ _)) _⟩
  exact hl

/-- A blocking execution concludes with what it is answered about the exit. -/
theorem Course.exists_settled_runWords (he : r.environment = .ok env)
    (hx : w.Exits (r.request args env) r.timeout s.world n out err) :
    ∃ t : Scene σ, t.launchFailures = s.launchFailures ∧
      (r.runWords args).perform w s =
        t.settled r args s.clock (Host.ended n out err).conclusion := by
  rw [perform_runWords_of_ok w r args he]
  dsimp only
  rw [hx.run_eq]
  exact ⟨_, s.launchFailures_begun r args _ _ _ _, rfl⟩

theorem Course.tellsOfExit_runWordsCooperatively (he : r.environment = .ok env)
    (hx : w.Exits (r.request args env) r.timeout s.world n out err) :
    ∃ o t, (r.runWordsCooperatively args).perform w s = (.ok o, t) ∧ s.TellsOfExit r n o t := by
  obtain ⟨t, hl, ht⟩ := exists_settled_runWordsCooperatively he hx
  rw [ht]
  exact Scene.tellsOfExit_settled s r args hl s.clock _ _

theorem Course.tellsOfExit_runWords (he : r.environment = .ok env)
    (hx : w.Exits (r.request args env) r.timeout s.world n out err)
    (h : (isText out && isText err) = true) :
    ∃ o t, (r.runWords args).perform w s = (.ok o, t) ∧ s.TellsOfExit r n o t := by
  obtain ⟨a, b, hab⟩ := Host.ended_of_isText n h
  obtain ⟨t, hl, ht⟩ := exists_settled_runWords he hx
  rw [ht, hab]
  exact Scene.tellsOfExit_settled s r args hl s.clock a b

theorem Course.blamesLaunch_runWords (he : r.environment = .ok env)
    (hx : w.Exits (r.request args env) r.timeout s.world n out err)
    (h : (isText out && isText err) = false) :
    ∃ o t, (r.runWords args).perform w s = (.ok o, t) ∧ s.BlamesLaunch r o t := by
  obtain ⟨m, hm⟩ := Host.ended_of_not_isText n h
  obtain ⟨t, hl, ht⟩ := exists_settled_runWords he hx
  rw [ht, hm]
  exact Scene.blamesLaunch_settled s r args hl s.clock m

/-- **A process that ran is told of, if it wrote text.** Of a process that exits by itself the
outcome of a cooperative execution tells the exit, whatever it wrote. So does that of a blocking
execution if both outputs are UTF-8; if one of them is not, it says that the command could not be
launched, and this is what is counted. -/
theorem exit_told {command : Value} (hw : Runner.words command = .ok args)
    (he : r.environment = .ok env) (hx : w.Exits (r.request args env) r.timeout s.world n out err)
    (handled : Bool) :
    ∃ o t p u, (r.run command).perform w s = (.ok o, t) ∧
      (r.runCooperatively command handled).perform w s = (.ok p, u) ∧
      s.TellsOfExit r n p u ∧
      (s.TellsOfExit r n o t ↔ (isText out && isText err) = true) ∧
      (s.BlamesLaunch r o t ↔ (isText out && isText err) = false) := by
  obtain ⟨p, v, hp, hv⟩ := Course.tellsOfExit_runWordsCooperatively he hx
  have hc := Course.perform_runCooperatively_of_ok w r args hw handled hp
  have hu : s.TellsOfExit r n p (if handled then v.notified p else v) := by
    cases handled
    · exact hv
    · exact { hv with launchFailures_eq := hv.launchFailures_eq }
  rw [r.run_eq hw]
  cases h : isText out && isText err with
  | true =>
    obtain ⟨o, t, ho, ht⟩ := Course.tellsOfExit_runWords he hx h
    exact ⟨o, t, p, _, ho, hc, hu, iff_of_true ht rfl, iff_of_false (·.not_tellsOfExit ht) nofun⟩
  | false =>
    obtain ⟨o, t, ho, ht⟩ := Course.blamesLaunch_runWords he hx h
    exact ⟨o, t, p, _, ho, hc, hu, iff_of_false ht.not_tellsOfExit nofun, iff_of_true ht rfl⟩

end Executions

/-- A process that wrote texts and failed. -/
theorem exit_told_of_text :
    let r : Runner := { successExitValues := [.int 0], timeout := .int 5 }
    let w := World.ofExit 3 [0x47, 0x72, 0xc3, 0xbc, 0xc3, 0x9f, 0x65] []
    let command : Value := .text "greet -n"
    Runner.words command = .ok ["greet", "-n"] ∧ r.environment = .ok none ∧
      w.Exits (r.request ["greet", "-n"] none) r.timeout () 3
        [0x47, 0x72, 0xc3, 0xbc, 0xc3, 0x9f, 0x65] [] ∧
      ∃ o t, (r.run command).perform w { world := () } = (.ok o, t) ∧
        Scene.TellsOfExit { world := () } r 3 o t := by
  intro r w command
  have hx := World.exits_ofExit 3 [0x47, 0x72, 0xc3, 0xbc, 0xc3, 0x9f, 0x65] []
    (r.request ["greet", "-n"] none) r.timeout
  refine ⟨rfl, rfl, hx, ?_⟩
  obtain ⟨o, t, -, -, ho, -, -, ht, -⟩ := exit_told (s := { world := () })
    (show Runner.words command = .ok ["greet", "-n"] from rfl) rfl hx false
  exact ⟨o, t, ho, ht.mpr (by decide +kernel)⟩

/-- **One byte hides an exit.** A process exits with 0 after it wrote a byte that starts no
character. A blocking execution gives it no exit value, names the byte as what kept it from
starting, and counts a failed launch. -/
theorem exit_hidden_of_byte :
    let r : Runner := { successExitValues := [.int 0] }
    let command : Value := .list [.text "printf", .text "\\377"]
    let s : Scene Unit := { world := () }
    let w := World.ofExit 0 [0xff] []
    w.Exits (r.request ["printf", "\\377"] none) r.timeout () 0 [0xff] [] ∧
      ∃ o t, (r.run command).perform w s = (.ok o, t) ∧
        o.exitValue = invalidExitValue ∧ o.status = .failed ∧
        o.cause = some (.undecodable ⟨0, [0xff], .badStart⟩) ∧
        t.launchFailures = 1 ∧ ¬ s.TellsOfExit r 0 o t := by
  refine ⟨World.exits_ofExit _ _ _ _ _, _, _, rfl, rfl, rfl, rfl, rfl, fun h => ?_⟩
  cases h.cause_eq

end Errand
