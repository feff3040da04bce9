import Errand.Host.Patience
import Errand.Proofs.Execution.Captured
import Errand.Proofs.Host.Launching

/-! # Executions on a host

A host is a world that knows its processes from files and programs, and here is what its executions
come to. A request that cannot be launched is a failed launch for both ways of waiting, and leaves
the host as it is (`notStarted_of_launch`).

A limit under which a blocking wait goes on is the same to a cooperative one
(`Limit.ofCooperative_eq`), and hosts keep to the limits of cooperative waits by themselves
(`answer_output_limited`). So hosts are worlds in which a process exits by itself if it is over
within the limit (`exits_world`), and both ways tell of that exit (`exit_of_fate`). If it is not,
the blocking one shows a beginning of each output, because a fate has its output by time
(`cut_of_timedOut`). -/

namespace Errand.Host

/-! ### Limits -/

namespace Limit

/-- A limit for both ways of waiting: none, or a time above zero. -/
def IsTime : Limit → Prop
  | never | after _ => True
  | atOnce | refused _ => False

/-- A process with this fate is over within the limit. -/
def Allows : Limit → Fate → Prop
  | never, _ => True
  | after t, f => f.exit.isSome = true ∧ f.doneAt < t
  | atOnce, _ | refused _, _ => False

theorem Allows.isTime {limit : Limit} {f : Fate} (h : limit.Allows f) : limit.IsTime := by
  cases limit <;> trivial

theorem isSpent_of_seconds {v : Value} {x : Float} (h : seconds v = .ok (some x)) :
    isSpent v = .ok (x ≤ 0.0) := by
  unfold isSpent
  rw [h]
  cases v with
  | null => cases h
  | _ => rfl

theorem ofCooperative_of_seconds {v : Value} {x : Float} (h : seconds v = .ok (some x))
    (hx : ¬x ≤ 0.0) :
    ofCooperative v =
      if x.isNaN then .atOnce else if x.isInf then .never else .after (nanoseconds x) := by
  unfold ofCooperative
  rw [isSpent_of_seconds h, h, decide_eq_false hx]

/-- Where a blocking wait goes on, a cooperative one goes on as long. -/
theorem ofCooperative_eq {v : Value} (h : (ofBlocking v).IsTime) :
    ofCooperative v = ofBlocking v := by
  unfold ofBlocking at h ⊢
  split at h
  · rfl
  · exact h.elim
  · exact h.elim
  · rename_i x _ hs
    dsimp only at h ⊢
    split_ifs at h with hn hz hi ht hw
    · exact h.elim
    · exact h.elim
    · exact h.elim
    · exact h.elim
    · exact h.elim
    · rw [ofCooperative_of_seconds hs hz, if_neg hn, if_neg hi, if_neg hn, if_neg hz, if_neg hi,
        if_neg ht, if_neg hw]

end Limit

/-- Hosts keep to the limits of cooperative waits by themselves. -/
theorem answer_output_limited {h : Host} (hs : h.started.isSome) (timeout : Value) :
    (world.limited.output timeout h).answer = (world.output timeout h).answer := by
  obtain ⟨s, hs⟩ := Option.isSome_iff_exists.mp hs
  unfold World.limited
  dsimp only
  change _ = (output timeout h).answer
  unfold output Limit.ofCooperative
  rw [hs]
  cases hl : Limit.isSpent timeout with
  | error f => rfl
  | ok spent =>
    cases spent with
    | true =>
      dsimp only [Limit.time?]
      cases h.cancelAfter with
      | none => simp [isBefore]
      | some c => simp [isBefore]
    | false =>
      change (output timeout h).answer = _
      unfold output Limit.ofCooperative
      rw [hs, hl]

/-! ### A launch that is refused -/

section Refused
variable {r : Runner} {args : List String} {env : Option (List (Value × Value))} {s : Scene Host}
  {f : Fault}

/-- **A request that is refused.** Both ways of waiting come to the same outcome, a failed launch,
and the host is as it was. -/
theorem notStarted_of_launch (he : r.environment = .ok env)
    (hl : launch s.world.files s.world.directory s.world.environment (r.request args env) =
      .error f)
    (hf : f.isLaunchFault = true) :
    ∃ o t u, (r.runWords args).perform world s = (.ok o, t) ∧
      (r.runWordsCooperatively args).perform world s = (.ok o, u) ∧
      o.status = .failed ∧ o.cause = some f ∧ t.world = s.world ∧ u.world = s.world := by
  have hc : f.conclusion = .ok (.notStarted f) := if_pos hf
  have hrun : world.run (r.request args env) r.timeout s.world = ⟨.raised f, none, s.world⟩ := by
    change run _ _ _ = _
    unfold run
    rw [hl]
  have hstart : world.start (r.request args env) s.world = ⟨.error f, none, s.world⟩ := by
    change start _ _ = _
    unfold start
    rw [hl]
  rw [Course.perform_runWords_of_ok world r args he,
    Course.perform_runWordsCooperatively_of_ok world r args he, hrun, hstart]
  dsimp only [RunAnswer.conclusion]
  rw [hc]
  -- no time passes, so both outcomes last equally long
  exact ⟨Conclusion.outcome r args (s.clock - s.clock) (.notStarted f), _, _, rfl, rfl, rfl, rfl,
    rfl, rfl⟩

end Refused

/-! ### Output by time -/

namespace Fate

open Shell (Emission Written)

theorem pairwise_inOrder (w : Written) :
    (inOrder w).Pairwise fun a b => a.time ≤ b.time := by
  have h : (inOrder w).Pairwise fun a b => decide (a.time ≤ b.time) := List.pairwise_mergeSort
    (fun a b c hab hbc => decide_eq_true ((of_decide_eq_true hab).trans (of_decide_eq_true hbc)))
    (fun a b => by simpa using Nat.le_total a.time b.time) w.emissions.reverse
  exact h.imp of_decide_eq_true

/-- What is written before a time is a beginning of all that is written. -/
theorem bytes_prefix {l : List Emission} (h : l.Pairwise fun a b => a.time ≤ b.time) (t : Nat) :
    bytes l (some t) <+: bytes l none := by
  induction l with
  | nil => exact List.prefix_rfl
  | cons e l ih =>
    obtain ⟨he, hl⟩ := List.pairwise_cons.mp h
    unfold bytes at ih ⊢
    by_cases ht : e.time < t
    · simp only [List.filter_cons, ht, decide_true, if_true, List.flatMap_cons]
      exact List.prefix_append_right_inj _ |>.mpr (ih hl)
    · have hnone : (e :: l).filter (fun e => decide (e.time < t)) = [] := by
        refine List.filter_eq_nil_iff.mpr fun e' he' hlt => ht ?_
        rcases List.mem_cons.mp he' with rfl | he'
        · exact of_decide_eq_true hlt
        · exact (he e' he').trans_lt (of_decide_eq_true hlt)
      rw [hnone]
      exact List.nil_prefix

theorem pairwise_output (files : Files) (start : Start) (killedAt : Option Nat) :
    (Fate.of files start killedAt).output.Pairwise fun a b => a.time ≤ b.time :=
  pairwise_inOrder _

theorem pairwise_errors (files : Files) (start : Start) (killedAt : Option Nat) :
    (Fate.of files start killedAt).errors.Pairwise fun a b => a.time ≤ b.time :=
  pairwise_inOrder _

end Fate

theorem toBytes_partialOutput (bs : Bytes) : (partialOutput bs).toBytes = bs := by
  unfold partialOutput
  cases bs <;> rfl

/-! ### Waiting -/

section Waiting
variable {h : Host} {request : Request} {start : Start} {timeout : Value}

theorem exitedWith_ne_timedOut (f : Fate) (out err : Capture) :
    exitedWith f ≠ .timedOut out err := by
  unfold exitedWith ended
  split <;> nofun

/-- The answer to a blocking wait for a time. -/
theorem answer_run_after (hl : launch h.files h.directory h.environment request = .ok start)
    {t : Nat} (hb : Limit.ofBlocking timeout = .after t) :
    let fate := Fate.of h.files start (some t)
    (run request timeout h).answer =
      if fate.exit.isSome && fate.doneAt < t then exitedWith fate
      else if t ≤ fate.closesAt then
        .timedOut (partialOutput (Fate.bytes fate.output (some t)))
          (partialOutput (Fate.bytes fate.errors (some t)))
      else .timedOut .nothing .nothing := by
  intro fate
  unfold run
  rw [hl]
  dsimp only
  rw [hb]
  change (if fate.exit.isSome && fate.doneAt < t then ⟨exitedWith fate, _, _⟩ else
    if t ≤ fate.closesAt then _ else _ : Reply RunAnswer Host).answer = _
  split_ifs
  · rfl
  · rfl
  · rfl

/-- What was captured when time was up is a beginning of what the process writes. -/
theorem prefix_of_timedOut (hl : launch h.files h.directory h.environment request = .ok start)
    {out err : Capture} (ha : (run request timeout h).answer = .timedOut out err) :
    let fate := Fate.of h.files start (Limit.ofBlocking timeout).time?
    out.toBytes <+: Fate.bytes fate.output none ∧ err.toBytes <+: Fate.bytes fate.errors none := by
  intro fate
  have hstopped (hb : (run request timeout h).answer = .timedOut .nothing .nothing) :
      out.toBytes <+: Fate.bytes fate.output none ∧
        err.toBytes <+: Fate.bytes fate.errors none := by
    rw [hb] at ha
    cases ha
    exact ⟨List.nil_prefix, List.nil_prefix⟩
  cases hb : Limit.ofBlocking timeout with
  | after t =>
    have hfate : fate = Fate.of h.files start (some t) :=
      congrArg (fun limit : Limit => Fate.of h.files start limit.time?) hb
    have hrun := answer_run_after hl hb
    rw [← hfate] at hrun
    dsimp only at hrun
    split_ifs at hrun
    · exact (exitedWith_ne_timedOut fate out err (hrun.symm.trans ha)).elim
    · rw [hrun] at ha
      cases ha
      rw [toBytes_partialOutput, toBytes_partialOutput]
      exact ⟨Fate.bytes_prefix (Fate.pairwise_output _ _ _) t,
        Fate.bytes_prefix (Fate.pairwise_errors _ _ _) t⟩
    · exact hstopped hrun
  | never =>
    unfold run at ha
    rw [hl, hb] at ha
    dsimp only [Limit.time?] at ha
    exact (exitedWith_ne_timedOut _ out err ha).elim
  | atOnce =>
    refine hstopped ?_
    unfold run
    rw [hl, hb]
  | refused f =>
    unfold run at ha
    rw [hl, hb] at ha
    cases ha

/-- Hosts are worlds in which a process exits by itself, if nobody cancels the wait for it and it is
over within the limit. -/
theorem exits_world (hl : launch h.files h.directory h.environment request = .ok start)
    (hc : h.cancelAfter = none)
    (hf : (Limit.ofBlocking timeout).Allows
      (Fate.of h.files start (Limit.ofBlocking timeout).time?)) :
    let fate := Fate.of h.files start (Limit.ofBlocking timeout).time?
    world.Exits request timeout h (fate.exit.getD (-9)) (Fate.bytes fate.output none)
      (Fate.bytes fate.errors none) := by
  have hs : Host.start request h =
      ⟨.ok Fate.firstNumber, none, { h with started := some start }⟩ := by
    unfold Host.start
    rw [hl]
  have hp := Limit.ofCooperative_eq hf.isTime
  refine ⟨?_, ⟨Fate.firstNumber, congrArg Reply.answer hs⟩, ?_⟩
  · change (run request timeout h).answer = exitedWith _
    cases hb : Limit.ofBlocking timeout with
    | never =>
      unfold run
      rw [hl, hb]
      dsimp only [Limit.time?]
    | after t =>
      rw [hb] at hf
      exact (answer_run_after hl hb).trans
        (if_pos (Bool.and_eq_true_iff.mpr ⟨hf.1, decide_eq_true hf.2⟩))
    | atOnce => rw [hb] at hf; exact hf.elim
    | refused f => rw [hb] at hf; exact hf.elim
  · change (output timeout (Host.start request h).world).answer = _
    rw [hs]
    unfold output
    dsimp only
    rw [hp, hc]
    cases hb : Limit.ofBlocking timeout with
    | never => simp [Limit.time?, earlier, isBefore]
    | after t =>
      rw [hb] at hf
      dsimp only [Limit.time?] at hf ⊢
      simp [earlier, isBefore, hf.1, hf.2]
    | atOnce => rw [hb] at hf; exact hf.elim
    | refused f => rw [hb] at hf; exact hf.elim

end Waiting

/-! ### Outcomes -/

section Outcomes
open Text.Utf8

variable {r : Runner} {args : List String} {env : Option (List (Value × Value))} {s : Scene Host}
  {start : Start}

/-- **A process on a host that takes too long.** A blocking execution shows a cut of each output
that is a text. -/
theorem cut_of_timedOut (he : r.environment = .ok env)
    (hl : launch s.world.files s.world.directory s.world.environment (r.request args env) =
      .ok start)
    {out err : Capture}
    (ha : (run (r.request args env) r.timeout s.world).answer = .timedOut out err) :
    let fate := Fate.of s.world.files start (Limit.ofBlocking r.timeout).time?
    ∃ o t, (r.runWords args).perform world s = (.ok o, t) ∧ o.timedOut = true ∧
      (∀ a, Fate.bytes fate.output none = encode a → ∃ k, ShowsCut a k o.stdout) ∧
      ∀ b, Fate.bytes fate.errors none = encode b → ∃ k, ShowsCut b k o.stderr := by
  intro fate
  obtain ⟨o, t, ho, ht, hout, herr⟩ := Course.exists_stdout_of_timedOut (w := world) he ha
  obtain ⟨hpo, hpe⟩ := prefix_of_timedOut hl ha
  refine ⟨o, t, ho, ht, fun a hw => ⟨out.toBytes.length, ?_⟩, fun b hw => ⟨err.toBytes.length, ?_⟩⟩
  · rw [hout]
    exact showsCut_toText (hw ▸ List.prefix_iff_eq_take.mp hpo)
  · rw [herr]
    exact showsCut_toText (hw ▸ List.prefix_iff_eq_take.mp hpe)

/-- **A process on a host that exits by itself.** A cooperative execution tells its exit, and shows
what it wrote if that is text. A blocking one tells the exit if both outputs are UTF-8, and otherwise
says that the command could not be launched. -/
theorem exit_of_fate (he : r.environment = .ok env)
    (hl : launch s.world.files s.world.directory s.world.environment (r.request args env) =
      .ok start)
    (hc : s.world.cancelAfter = none)
    (hf : (Limit.ofBlocking r.timeout).Allows
      (Fate.of s.world.files start (Limit.ofBlocking r.timeout).time?)) :
    let fate := Fate.of s.world.files start (Limit.ofBlocking r.timeout).time?
    let n := fate.exit.getD (-9)
    let out := Fate.bytes fate.output none
    let err := Fate.bytes fate.errors none
    (∃ o t, (r.runWordsCooperatively args).perform world s = (.ok o, t) ∧
      s.TellsOfExit r n o t ∧
      ∀ a b, out = encode a → err = encode b → o.stdout = a ∧ o.stderr = b) ∧
    ∃ o t, (r.runWords args).perform world s = (.ok o, t) ∧
      if isText out && isText err then s.TellsOfExit r n o t else s.BlamesLaunch r o t := by
  intro fate n out err
  have hx : world.Exits (r.request args env) r.timeout s.world n out err := exits_world hl hc hf
  constructor
  · obtain ⟨o, t, ho, ht⟩ := Course.tellsOfExit_runWordsCooperatively he hx
    refine ⟨o, t, ho, ht, fun a b ha hb => ?_⟩
    rw [ha, hb] at hx
    obtain ⟨o', t', ho', hshown⟩ := Course.exists_stdout_runWordsCooperatively he hx
    rw [ho] at ho'
    cases ho'
    exact hshown
  · cases h : isText out && isText err with
    | true => exact Course.tellsOfExit_runWords he hx h
    | false => exact Course.blamesLaunch_runWords he hx h

end Outcomes

end Errand.Host
