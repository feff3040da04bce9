import Errand.Proofs.Metrics.Samples
import Mathlib.Algebra.BigOperators.Ring.Finset

/-! # Counts and durations keep in step

Every record counts twice: in a number of executions and among the durations of its outcome. A
client that can be relied on shows every change of a metric in the series of that metric, and in no
other (`Tallied.concat`), so after any changes it shows how many there were of each kind
(`tallied_exposed`). The changes of records are as many as the records themselves
(`count_changes_failed` and the lemmas beside it), and so the two never drift apart.

The main statement is `samples_keep_step`, for all clients that can be relied on. -/

namespace Errand.Metrics

/-! ### Changes -/

/-- The duration that a change adds to those of an outcome. -/
def Update.duration? (outcome : String) : Update → Option Float
  | lasted o x => if outcome = o then some x else none
  | started | succeeded | failed _ | named _ _ => none

/-- The durations of an outcome among changes. -/
def durationsIn (outcome : String) (us : List Update) : List Float :=
  us.filterMap (Update.duration? outcome)

/-- Samples show how many changes there were of each kind. -/
structure Tallied (samples : List Sample) (boundText : Float → String) (us : List Update) :
    Prop where
  started : (startedCounter.series []).Shows samples (us.count .started)
  succeeded : (succeededCounter.series []).Shows samples (us.count .succeeded)
  failed : ∀ reason, (failedCounter.series [reason]).Shows samples (us.count (.failed reason))
  count : ∀ outcome,
    (durationHistogram.count [outcome]).Shows samples (durationsIn outcome us).length
  bucket : ∀ outcome, ∀ b ∈ durationHistogram.buckets,
    (durationHistogram.bucket [outcome] (boundText b)).Shows samples
      ((durationsIn outcome us).countP (· ≤ b))

/-! ### The series of a change -/

section Touches
variable {s : Series} {u : Update} {reason outcome text : String}

@[simp]
theorem touches_started : Update.started.call.Touches s ↔ s = startedCounter.series [] := .rfl

@[simp]
theorem touches_succeeded : Update.succeeded.call.Touches s ↔ s = succeededCounter.series [] := .rfl

@[simp]
theorem touches_failed :
    (Update.failed reason).call.Touches s ↔ s = failedCounter.series [reason] := .rfl

@[simp]
theorem touches_lasted {x : Float} : (Update.lasted outcome x).call.Touches s ↔
    s.name ∈ ["procexec_execution_duration_seconds_bucket",
        "procexec_execution_duration_seconds_count", "procexec_execution_duration_seconds_sum"] ∧
      ("status", .text outcome) ∈ s.labels :=
  and_congr .rfl List.forall_mem_singleton

@[simp]
theorem touches_named {version name : String} :
    (Update.named version name).call.Touches s ↔ s.name = "procexec_system_info" := .rfl

theorem eq_started_of_touches (h : u.call.Touches (startedCounter.series [])) : u = .started := by
  cases u <;> simp_all [Series.ext_iff]

theorem eq_succeeded_of_touches (h : u.call.Touches (succeededCounter.series [])) :
    u = .succeeded := by
  cases u <;> simp_all [Series.ext_iff]

theorem eq_failed_of_touches (h : u.call.Touches (failedCounter.series [reason])) :
    u = .failed reason := by
  cases u <;> simp_all [Series.ext_iff]

theorem exists_lasted_of_touches_count
    (h : u.call.Touches (durationHistogram.count [outcome])) : ∃ x, u = .lasted outcome x := by
  cases u <;> simp_all [Series.ext_iff]

theorem exists_lasted_of_touches_bucket
    (h : u.call.Touches (durationHistogram.bucket [outcome] text)) :
    ∃ x, u = .lasted outcome x := by
  cases u <;> simp_all [Series.ext_iff]

end Touches

/-! ### One more change -/

theorem Series.Shows.congr {s : Series} {samples samples' : List Sample} {n : Nat}
    (h : s.Shows samples n) (hs : ∀ x, (⟨s, x⟩ : Sample) ∈ samples' ↔ ⟨s, x⟩ ∈ samples) :
    s.Shows samples' n := by
  unfold Shows
  simp only [hs]
  exact h

theorem durationsIn_concat (outcome : String) (us : List Update) (u : Update) :
    durationsIn outcome (us ++ [u]) = durationsIn outcome us ++ (u.duration? outcome).toList := by
  unfold durationsIn
  rw [List.filterMap_append]
  cases h : u.duration? outcome with
  | none => rw [List.filterMap_cons_none h]; rfl
  | some x => rw [List.filterMap_cons_some h]; rfl

theorem duration?_lasted (outcome : String) (x : Float) :
    (Update.lasted outcome x).duration? outcome = some x := if_pos rfl

theorem duration?_of_ne_lasted {u : Update} {outcome : String} (h : ∀ x, u ≠ .lasted outcome x) :
    u.duration? outcome = none := by
  cases u with
  | lasted o x =>
    refine if_neg fun ho => h x ?_
    rw [ho]
  | _ => rfl

section Documented
variable {c : Client} (hc : c.Documented counters histograms)
include hc

theorem shows_of_not_touches {calls : List Call} {k : Call} {s : Series} {n : Nat}
    (h : s.Shows (c.exposed calls) n) (hk : ¬k.Touches s) : s.Shows (c.exposed (calls ++ [k])) n :=
  h.congr fun x => hc.mem_iff_of_not_touches calls k ⟨s, x⟩ hk

/-- A counter shows one more change if it is its own. -/
theorem shows_concat {calls : List Call} {us : List Update} {k : Counter} (hk : k ∈ counters)
    (values : List String) (hv : values.length = k.labelNames.length) {own : Update}
    (hown : own.call = .inc k values)
    (h : (k.series values).Shows (c.exposed calls) (us.count own)) (u : Update)
    (hu : u.call.Touches (k.series values) → u = own) :
    (k.series values).Shows (c.exposed (calls ++ [u.call])) ((us ++ [u]).count own) := by
  rw [List.count_append, List.count_singleton]
  by_cases he : u = own
  · subst he
    rw [beq_self_eq_true, if_pos rfl, hown]
    exact hc.counter_inc calls k hk values _ hv h
  · rw [beq_false_of_ne he, if_neg Bool.false_ne_true, Nat.add_zero]
    exact shows_of_not_touches hc h (mt hu he)

/-- What samples show is kept by one more change. -/
theorem Tallied.concat {calls : List Call} {us : List Update}
    (h : Tallied (c.exposed calls) c.boundText us) {u : Update}
    (hn : ∀ outcome x, u = .lasted outcome x → x.isNaN = false) :
    Tallied (c.exposed (calls ++ [u.call])) c.boundText (us ++ [u]) where
  started := shows_concat hc (.head _) [] rfl rfl h.started u eq_started_of_touches
  succeeded := shows_concat hc (.tail _ (.head _)) [] rfl rfl h.succeeded u eq_succeeded_of_touches
  failed reason :=
    shows_concat hc (.tail _ (.tail _ (.head _))) [reason] rfl rfl (h.failed reason) u
      eq_failed_of_touches
  count outcome := by
    rw [durationsIn_concat, List.length_append]
    by_cases hu : ∃ x, u = .lasted outcome x
    · obtain ⟨x, rfl⟩ := hu
      rw [duration?_lasted]
      exact hc.count_observe calls _ (.head _) [outcome] _ rfl x (hn outcome x rfl)
        (h.count outcome)
    · rw [duration?_of_ne_lasted (not_exists.mp hu)]
      exact shows_of_not_touches hc (h.count outcome) (mt exists_lasted_of_touches_count hu)
  bucket outcome b hb := by
    rw [durationsIn_concat, List.countP_append]
    by_cases hu : ∃ x, u = .lasted outcome x
    · obtain ⟨x, rfl⟩ := hu
      have hs := hc.bucket_observe calls _ (.head _) [outcome] _ rfl x b hb (h.bucket outcome b hb)
      rw [duration?_lasted, Option.toList_some, List.countP_singleton]
      by_cases hx : x ≤ b
      · rw [if_pos hx] at hs
        rwa [if_pos (decide_eq_true hx)]
      · rw [if_neg hx] at hs
        rwa [if_neg (by simpa using hx)]
    · rw [duration?_of_ne_lasted (not_exists.mp hu)]
      exact shows_of_not_touches hc (h.bucket outcome b hb) (mt exists_lasted_of_touches_bucket hu)

/-- After any changes samples show how many there were of each kind. -/
theorem tallied_exposed {us : List Update}
    (hn : ∀ outcome x, .lasted outcome x ∈ us → x.isNaN = false) :
    Tallied (c.exposed (us.map Update.call)) c.boundText us := by
  induction us using List.reverseRecOn with
  | nil =>
    exact ⟨hc.counter_initial _ (.head _) [] rfl, hc.counter_initial _ (.tail _ (.head _)) [] rfl,
      fun reason => hc.counter_initial _ (.tail _ (.tail _ (.head _))) [reason] rfl,
      fun outcome => hc.count_initial _ (.head _) [outcome] rfl,
      fun outcome => hc.bucket_initial _ (.head _) [outcome] rfl⟩
  | append_singleton us u ih =>
    rw [List.map_append]
    refine (ih fun outcome x hx => hn outcome x (List.mem_append_left _ hx)).concat hc ?_
    rintro outcome x rfl
    exact hn outcome x (List.mem_append_right _ (.head _))

end Documented

/-! ### Records -/

namespace Record

/-- The duration that is recorded of an outcome. -/
def duration? (outcome : String) : Record → Option Float
  | started => none
  | succeeded x => if outcome = succeededLabel then some x else none
  | failed _ x => if outcome = failedLabel then some x else none

/-- Whether a start is recorded. -/
def isStart : Record → Bool
  | started => true
  | succeeded _ | failed _ _ => false

/-- The reason of the failure that is recorded. -/
def reason? : Record → Option String
  | failed reason _ => some reason
  | started | succeeded _ => none

/-- Whether a series is one of those that a record changes: its own number, and the durations of its
outcome. -/
def Concerns : Record → Series → Prop
  | started, s => s = startedCounter.series []
  | succeeded _, s => s = succeededCounter.series [] ∨ Measures succeededLabel s
  | failed reason _, s => s = failedCounter.series [reason] ∨ Measures failedLabel s
where
  /-- Whether a series measures the durations of an outcome. -/
  Measures (outcome : String) (s : Series) : Prop :=
    s.name ∈ [durationHistogram.bucketName, durationHistogram.countName,
      durationHistogram.sumName] ∧ ("status", .text outcome) ∈ s.labels

end Record

/-- The durations that are recorded of an outcome. -/
def durationsOf (outcome : String) (rs : List Record) : List Float :=
  rs.filterMap (Record.duration? outcome)

/-- The reasons of the failures that are recorded. -/
def reasonsOf (rs : List Record) : List String := rs.filterMap Record.reason?

/-- The changes of records. -/
def changes (rs : List Record) : List Update := rs.flatMap Record.updates

/-- The calls that record something, in order. -/
def callsOf (rs : List Record) : List Call := rs.flatMap Record.calls

section Changes
variable (rs : List Record)

theorem callsOf_eq : callsOf rs = (changes rs).map Update.call := by
  unfold callsOf changes
  rw [List.map_flatMap]
  rfl

theorem count_changes_started : (changes rs).count .started = rs.countP Record.isStart := by
  induction rs with
  | nil => rfl
  | cons r rs ih =>
    unfold changes at ih ⊢
    rw [List.flatMap_cons, List.count_append, ih, List.countP_cons]
    cases r <;> simp [Record.updates, Record.isStart, Nat.add_comm]

theorem count_changes_succeeded :
    (changes rs).count .succeeded = (durationsOf succeededLabel rs).length := by
  induction rs with
  | nil => rfl
  | cons r rs ih =>
    unfold changes durationsOf at ih ⊢
    rw [List.flatMap_cons, List.count_append, ih]
    cases r <;> simp [Record.updates, Record.duration?, List.filterMap_cons, succeededLabel,
      failedLabel, Nat.add_comm]

theorem count_changes_failed (reason : String) :
    (changes rs).count (.failed reason) = (reasonsOf rs).count reason := by
  induction rs with
  | nil => rfl
  | cons r rs ih =>
    unfold changes reasonsOf at ih ⊢
    rw [List.flatMap_cons, List.count_append, ih]
    cases r <;> simp [Record.updates, Record.reason?, List.filterMap_cons, List.count_cons,
      Nat.add_comm]

theorem durationsIn_changes (outcome : String) :
    durationsIn outcome (changes rs) = durationsOf outcome rs := by
  induction rs with
  | nil => rfl
  | cons r rs ih =>
    have hr : durationsIn outcome r.updates = (r.duration? outcome).toList := by
      cases r with
      | started => rfl
      | succeeded x => exact durationsIn_concat outcome [.succeeded] (.lasted succeededLabel x)
      | failed reason x =>
        exact durationsIn_concat outcome [.failed reason] (.lasted failedLabel x)
    unfold durationsIn at hr
    unfold durationsIn changes durationsOf at ih ⊢
    rw [List.flatMap_cons, List.filterMap_append, hr, ih, List.filterMap_cons]
    cases r.duration? outcome <;> rfl

theorem length_reasonsOf : (reasonsOf rs).length = (durationsOf failedLabel rs).length := by
  induction rs with
  | nil => rfl
  | cons r rs ih =>
    unfold reasonsOf durationsOf at ih ⊢
    cases r <;> simp [Record.reason?, Record.duration?, List.filterMap_cons, succeededLabel,
      failedLabel, ih]

end Changes

/-! ### The main statement -/

/-- Among different values that include all of a list, each element is counted once. -/
theorem sum_map_count {α : Type} [DecidableEq α] {used l : List α} (hn : used.Nodup)
    (h : ∀ a ∈ l, a ∈ used) : (used.map fun a => l.count a).sum = l.length := by
  have hl : ∀ a ∈ (l : Multiset α), a ∈ used.toFinset := fun a ha =>
    List.mem_toFinset.mpr (h a (Multiset.mem_coe.mp ha))
  rw [← List.sum_toFinset _ hn]
  exact (Finset.sum_congr rfl fun a _ => (Multiset.coe_count a l).symm).trans
    (Multiset.sum_count_eq_card hl)

/-- Two lists that agree under some maps agree under others that these determine. -/
theorem map_eq_map_of_map_eq {α β γ δ : Type} {f : α → γ} {g : β → γ} {f' : α → δ} {g' : β → δ}
    {as : List α} {bs : List β} (h : as.map f = bs.map g)
    (hd : ∀ a ∈ as, ∀ b, f a = g b → f' a = g' b) : as.map f' = bs.map g' := by
  induction as generalizing bs with
  | nil => rw [List.map_eq_nil_iff.mp h.symm]; rfl
  | cons a as ih =>
    obtain ⟨b, bs, rfl, hb, hbs⟩ := List.map_eq_cons_iff.mp h.symm
    rw [List.map_cons, List.map_cons, hd a (.head _) b hb.symm,
      ih hbs.symm fun c hc => hd c (.tail _ hc)]

/-- The samples show how many records there were of each kind, and both counts of an outcome agree:
the number of its executions, and that of its durations, which are shown bucket by bucket. -/
structure InStep (samples : List Sample) (boundText : Float → String) (rs : List Record) :
    Prop where
  started : (startedCounter.series []).Shows samples (rs.countP Record.isStart)
  succeeded : (succeededCounter.series []).Shows samples (durationsOf succeededLabel rs).length
  failed : ∀ reason, (failedCounter.series [reason]).Shows samples ((reasonsOf rs).count reason)
  failed_sum : ∃ ns : List Nat,
    (samples.filter (·.name == failedCounter.name)).map (·.value) = ns.map Reading.count ∧
      ns.sum = (durationsOf failedLabel rs).length
  count : ∀ outcome,
    (durationHistogram.count [outcome]).Shows samples (durationsOf outcome rs).length
  bucket : ∀ outcome, ∀ b ∈ durationHistogram.buckets,
    (durationHistogram.bucket [outcome] (boundText b)).Shows samples
      ((durationsOf outcome rs).countP (· ≤ b))
  bucket_le : ∀ outcome,
    (durationHistogram.buckets.map fun b =>
      (durationsOf outcome rs).countP (· ≤ b)).Pairwise (· ≤ ·)
  last_bucket : ∀ outcome,
    (durationsOf outcome rs).countP (· ≤ Durations.lastBound) = (durationsOf outcome rs).length

section Documented
variable {c : Client} (hc : c.Documented counters histograms) {rs : List Record}
include hc

/-- The failures of all reasons together. -/
theorem failed_sum_exposed {calls : List Call}
    (hf : ∀ reason, (failedCounter.series [reason]).Shows (c.exposed calls)
      ((reasonsOf rs).count reason)) :
    ∃ ns : List Nat,
      ((c.exposed calls).filter (·.name == failedCounter.name)).map (·.value) =
          ns.map Reading.count ∧
        ns.sum = (reasonsOf rs).length := by
  obtain ⟨used, hn, hl, hu⟩ := hc.counter_series calls failedCounter (.tail _ (.tail _ (.head _)))
  obtain ⟨reasons, rfl⟩ : ∃ reasons : List String, used = reasons.map fun reason => [reason] := by
    refine ⟨used.map (·.headD ""), ?_⟩
    rw [List.map_map]
    refine ((List.map_congr_left fun values hv => ?_).trans (List.map_id used)).symm
    obtain ⟨reason, rfl⟩ := List.length_eq_one_iff.mp (hl values hv)
    rfl
  rw [List.map_map] at hu
  refine ⟨reasons.map fun reason => (reasonsOf rs).count reason, ?_, sum_map_count ?_ ?_⟩
  · rw [List.map_map]
    refine map_eq_map_of_map_eq hu fun s hs reason hr => (hf reason).1 s.value ?_
    change _ = failedCounter.series [reason] at hr
    rw [← hr]
    exact List.mem_of_mem_filter hs
  · exact List.Nodup.of_map _ hn
  · intro reason hr
    by_contra hnr
    -- a failure of the reason is counted, so its series has a sample
    have hcount : 0 < (reasonsOf rs).count reason := List.count_pos_iff.mpr hr
    refine hcount.ne' ((hf reason).2 fun x hx => hnr ?_)
    have hs : failedCounter.series [reason] ∈
        ((c.exposed calls).filter (·.name == failedCounter.name)).map (·.toSeries) :=
      List.mem_map.mpr ⟨_, List.mem_filter.mpr ⟨hx, beq_self_eq_true failedCounter.name⟩, rfl⟩
    rw [hu] at hs
    obtain ⟨other, ho, he⟩ := List.mem_map.mp hs
    have hlabels : [("reason", Value.text other)] = [("reason", Value.text reason)] :=
      congrArg Series.labels he
    simp only [List.cons.injEq, Prod.mk.injEq, Value.text.injEq, true_and, and_true] at hlabels
    exact hlabels ▸ ho

theorem inStep_exposed (hn : ∀ outcome, ∀ x ∈ durationsOf outcome rs, x.isNaN = false) :
    InStep (c.exposed (callsOf rs)) c.boundText rs := by
  have ht : Tallied (c.exposed (callsOf rs)) c.boundText (changes rs) := by
    rw [callsOf_eq]
    refine tallied_exposed hc fun outcome x hx => hn outcome x ?_
    rw [← durationsIn_changes]
    exact List.mem_filterMap.mpr ⟨_, hx, duration?_lasted outcome x⟩
  have hf (reason : String) : (failedCounter.series [reason]).Shows (c.exposed (callsOf rs))
      ((reasonsOf rs).count reason) := count_changes_failed rs reason ▸ ht.failed reason
  exact {
    started := count_changes_started rs ▸ ht.started
    succeeded := count_changes_succeeded rs ▸ ht.succeeded
    failed := hf
    failed_sum := length_reasonsOf rs ▸ failed_sum_exposed hc hf
    count := fun outcome => durationsIn_changes rs outcome ▸ ht.count outcome
    bucket := fun outcome => durationsIn_changes rs outcome ▸ ht.bucket outcome
    bucket_le := fun outcome =>
      List.Pairwise.map _ (fun _ _ => Durations.countP_le_of_le _) Durations.bounds_le
    last_bucket := fun outcome => Durations.countP_le_lastBound (hn outcome) }

/-- Calls that touch no series of a sample keep it. -/
theorem mem_exposed_append {calls ks : List Call} {s : Sample}
    (hs : ∀ k ∈ ks, ¬k.Touches s.toSeries) :
    s ∈ c.exposed (calls ++ ks) ↔ s ∈ c.exposed calls := by
  induction ks generalizing calls with
  | nil => rw [List.append_nil]
  | cons k ks ih =>
    rw [List.append_cons, ih fun k' hk => hs k' (.tail _ hk)]
    exact hc.mem_iff_of_not_touches calls k s (hs k (.head _))

omit hc

/-- The calls of a record touch nothing else than what it concerns. -/
theorem not_touches_of_not_concerns {r : Record} {s : Series} (h : ¬r.Concerns s) :
    ∀ k ∈ r.calls, ¬k.Touches s := by
  intro k hk ht
  obtain ⟨u, hu, rfl⟩ := List.mem_map.mp hk
  cases r with
  | started =>
    obtain rfl := List.mem_singleton.mp hu
    exact h ht
  | succeeded x =>
    rcases List.mem_pair.mp hu with rfl | rfl
    · exact h (.inl ht)
    · exact h (.inr (touches_lasted.mp ht))
  | failed reason x =>
    rcases List.mem_pair.mp hu with rfl | rfl
    · exact h (.inl ht)
    · exact h (.inr (touches_lasted.mp ht))

end Documented

/-- The metrics after records in order. -/
def recordAll (m : Metrics) (rs : List Record) : Metrics := rs.foldl record m

/-- The client that keeps the metrics here exposes what was recorded. -/
theorem exposed_callsOf (rs : List Record) :
    client.exposed (callsOf rs) = (recordAll {} rs).samples := by
  rw [exposed_client, callsOf_eq, kept_calls, changes, applyAll, List.foldl_flatMap]
  rfl

end Errand.Metrics
