import Errand.Metrics.Exposition
import Errand.Proofs.Metrics.Buckets
import Mathlib.Data.List.Induction

/-! # What the samples show

The samples of metrics show what is kept of each of them, where a sample not yet there counts
as zero (`shows_failed_iff` and the lemmas beside it). That takes metrics that are `Sound`: no label
has two entries, and durations have a number for each bucket. No call makes them anything else
(`sound_kept`), and a change shows in no series but its own (`mem_samples_apply`).

So the client that keeps the metrics here is one that can be relied on (`documented_client`). -/

namespace Errand.Metrics

/-! ### Sound metrics -/

/-- What holds of metrics after any changes. -/
structure Sound (m : Metrics) : Prop where
  nodup_failed : (m.failed.map (·.1)).Nodup
  nodup_durations : (m.durations.map (·.1)).Nodup
  length_counts : ∀ outcome,
    ((m.durations.lookup outcome).getD .empty).counts.length = Durations.bounds.length

theorem sound_empty : Sound {} := ⟨.nil, .nil, fun _ => rfl⟩

theorem Sound.apply {m : Metrics} (h : m.Sound) (u : Update) : (m.apply u).Sound := by
  cases u with
  | started | succeeded | named _ _ => exact ⟨h.nodup_failed, h.nodup_durations, h.length_counts⟩
  | failed reason =>
    exact ⟨Labelled.nodup_adjust h.nodup_failed _ _ _, h.nodup_durations, h.length_counts⟩
  | lasted outcome x =>
    refine ⟨h.nodup_failed, Labelled.nodup_adjust h.nodup_durations _ _ _, fun other => ?_⟩
    have hadjust : ((m.apply (.lasted outcome x)).durations.lookup other).getD .empty =
        if other = outcome then ((m.durations.lookup outcome).getD .empty).observe x
        else (m.durations.lookup other).getD .empty :=
      Labelled.getD_adjust outcome other _ _ _
    rw [hadjust]
    split
    · exact Durations.length_observe (h.length_counts outcome) x
    · exact h.length_counts other

/-! ### Names and labels -/

section Series
variable (values : List String) (reason outcome bound : String) (labels : List (String × Value))

@[simp]
theorem name_startedCounter :
    (startedCounter.series values).name = "procexec_executions_started_total" := rfl

@[simp]
theorem name_succeededCounter :
    (succeededCounter.series values).name = "procexec_executions_succeeded_total" := rfl

@[simp]
theorem name_failedCounter :
    (failedCounter.series values).name = "procexec_executions_failed_total" := rfl

@[simp]
theorem name_bucket :
    (durationHistogram.bucket values bound).name =
      "procexec_execution_duration_seconds_bucket" := rfl

@[simp]
theorem name_count :
    (durationHistogram.count values).name = "procexec_execution_duration_seconds_count" := rfl

@[simp]
theorem name_sum :
    (durationHistogram.sum values).name = "procexec_execution_duration_seconds_sum" := rfl

@[simp]
theorem name_systemInfo : (systemInfo.series labels).name = "procexec_system_info" := rfl

@[simp]
theorem labels_startedCounter : (startedCounter.series values).labels = [] := rfl

@[simp]
theorem labels_succeededCounter : (succeededCounter.series values).labels = [] := rfl

@[simp]
theorem labels_failedCounter :
    (failedCounter.series [reason]).labels = [("reason", .text reason)] := rfl

@[simp]
theorem labels_bucket :
    (durationHistogram.bucket [outcome] bound).labels =
      [("le", .text bound), ("status", .text outcome)] := rfl

@[simp]
theorem labels_count :
    (durationHistogram.count [outcome]).labels = [("status", .text outcome)] := rfl

@[simp]
theorem labels_sum : (durationHistogram.sum [outcome]).labels = [("status", .text outcome)] := rfl

end Series

/-! ### Samples by their series -/

/-- Every sample, metric by metric. -/
theorem samples_eq (m : Metrics) :
    m.samples = ⟨startedCounter.series [], .count m.started⟩ ::
      ⟨succeededCounter.series [], .count m.succeeded⟩ ::
      (m.failed.map failedSample ++
        (m.durations.flatMap durationSamples ++ [m.programSample])) := rfl

theorem mem_samples {m : Metrics} {s : Sample} :
    s ∈ m.samples ↔ s = ⟨startedCounter.series [], .count m.started⟩ ∨
      s = ⟨succeededCounter.series [], .count m.succeeded⟩ ∨
      (∃ e ∈ m.failed, s = failedSample e) ∨
      (∃ e ∈ m.durations, s ∈ durationSamples e) ∨ s = m.programSample := by
  simp [samples_eq, eq_comm (b := s)]

theorem mem_durationSamples {e : String × Durations} {s : Sample} :
    s ∈ durationSamples e ↔
      (∃ bound n, (bound, n) ∈ Durations.bounds.zip e.2.cumulative ∧
        s = ⟨durationHistogram.bucket [e.1] (numberText bound), .count n⟩) ∨
      s = ⟨durationHistogram.count [e.1], .count e.2.count⟩ ∨
      s = ⟨durationHistogram.sum [e.1], .amount e.2.sum⟩ := by
  unfold durationSamples
  simp only [List.mem_append, List.mem_map, List.mem_cons, List.not_mem_nil, or_false,
    Prod.exists, eq_comm (b := s)]

section Members
variable {m : Metrics} {x : Reading}

theorem mem_samples_started :
    ⟨startedCounter.series [], x⟩ ∈ m.samples ↔ x = .count m.started := by
  simp [mem_samples, mem_durationSamples, failedSample, programSample, Series.ext_iff]

theorem mem_samples_succeeded :
    ⟨succeededCounter.series [], x⟩ ∈ m.samples ↔ x = .count m.succeeded := by
  simp [mem_samples, mem_durationSamples, failedSample, programSample, Series.ext_iff]

theorem mem_samples_failed {reason : String} :
    ⟨failedCounter.series [reason], x⟩ ∈ m.samples ↔
      ∃ n, (reason, n) ∈ m.failed ∧ x = .count n := by
  simp [mem_samples, mem_durationSamples, failedSample, programSample, Series.ext_iff]

theorem mem_samples_bucket {outcome text : String} :
    ⟨durationHistogram.bucket [outcome] text, x⟩ ∈ m.samples ↔
      ∃ d, (outcome, d) ∈ m.durations ∧ ∃ bound n, (bound, n) ∈ Durations.bounds.zip d.cumulative ∧
        text = numberText bound ∧ x = .count n := by
  simp [mem_samples, mem_durationSamples, failedSample, programSample, Series.ext_iff]

theorem mem_samples_count {outcome : String} :
    ⟨durationHistogram.count [outcome], x⟩ ∈ m.samples ↔
      ∃ d, (outcome, d) ∈ m.durations ∧ x = .count d.count := by
  simp [mem_samples, mem_durationSamples, failedSample, programSample, Series.ext_iff]

end Members

/-! ### What samples show -/

/-- The bounds are written differently. -/
theorem numberText_inj {a b : Float} (ha : a ∈ Durations.bounds) (hb : b ∈ Durations.bounds)
    (h : numberText a = numberText b) : a = b := by
  have hall : ∀ a ∈ Durations.bounds, ∀ b ∈ Durations.bounds,
      numberText a = numberText b → a = b := by
    decide +kernel
  exact hall a ha b hb h

/-- If a series has one sample or none, it shows the number of that sample, or else zero. -/
theorem Series.shows_iff {s : Series} {samples : List Sample} {n : Nat} (shown : Option Nat)
    (h : ∀ x, (⟨s, x⟩ : Sample) ∈ samples ↔ shown.map Reading.count = some x) :
    s.Shows samples n ↔ shown.getD 0 = n := by
  unfold Shows
  cases shown with
  | none => simp [h, eq_comm]
  | some k => simp [h]

section Shows
variable {m : Metrics} {n : Nat}

theorem shows_started_iff : (startedCounter.series []).Shows m.samples n ↔ m.started = n :=
  Series.shows_iff (some m.started) fun x => by
    simp [mem_samples_started, eq_comm]

theorem shows_succeeded_iff : (succeededCounter.series []).Shows m.samples n ↔ m.succeeded = n :=
  Series.shows_iff (some m.succeeded) fun x => by
    simp [mem_samples_succeeded, eq_comm]

namespace Sound
variable (h : m.Sound)
include h

theorem shows_failed_iff {reason : String} :
    (failedCounter.series [reason]).Shows m.samples n ↔ m.failures reason = n :=
  Series.shows_iff (m.failed.lookup reason) fun x => by
    simp [mem_samples_failed, Labelled.mem_iff_lookup h.nodup_failed, eq_comm]

theorem shows_count_iff {outcome : String} :
    (durationHistogram.count [outcome]).Shows m.samples n ↔
      ((m.durations.lookup outcome).getD .empty).count = n := by
  have hshows : (durationHistogram.count [outcome]).Shows m.samples n ↔
      ((m.durations.lookup outcome).map Durations.count).getD 0 = n :=
    Series.shows_iff _ fun x => by
      simp [mem_samples_count, Labelled.mem_iff_lookup h.nodup_durations, eq_comm]
  rw [hshows]
  cases m.durations.lookup outcome <;> rfl

theorem shows_bucket_iff {outcome : String} {b : Float} (hb : b ∈ Durations.bounds) :
    (durationHistogram.bucket [outcome] (numberText b)).Shows m.samples n ↔
      (b, n) ∈ Durations.bounds.zip ((m.durations.lookup outcome).getD .empty).cumulative := by
  obtain ⟨k, hk⟩ := Durations.exists_mem_zip (h.length_counts outcome) hb
  have hshows : (durationHistogram.bucket [outcome] (numberText b)).Shows m.samples n ↔
      ((m.durations.lookup outcome).map fun _ => k).getD 0 = n :=
    Series.shows_iff _ fun x => by
      rw [mem_samples_bucket]
      simp only [Labelled.mem_iff_lookup h.nodup_durations]
      constructor
      · rintro ⟨d, hd, c, l, hl, ht, rfl⟩
        rw [hd] at hk ⊢
        obtain rfl := numberText_inj hb (List.of_mem_zip hl).1 ht
        rw [Durations.eq_of_mem_zip hl hk]
        rfl
      · intro hx
        cases hd : m.durations.lookup outcome with
        | none =>
          rw [hd] at hx
          cases hx
        | some d =>
          rw [hd] at hk hx
          cases hx
          exact ⟨d, rfl, b, k, hk, rfl, rfl⟩
  have hshown : ((m.durations.lookup outcome).map fun _ => k).getD 0 = k := by
    cases hd : m.durations.lookup outcome with
    | none =>
      rw [hd] at hk
      exact (Durations.eq_zero_of_mem_zip hk).symm
    | some d => rfl
  rw [hshows, hshown]
  exact ⟨fun he => he ▸ hk, Durations.eq_of_mem_zip hk⟩

end Sound

end Shows

/-! ### Changes -/

/-- A change shows in no series but its own. -/
theorem mem_samples_apply {m : Metrics} {u : Update} {s : Sample}
    (h : ¬u.call.Touches s.toSeries) : s ∈ (m.apply u).samples ↔ s ∈ m.samples := by
  rw [mem_samples, mem_samples]
  cases u with
  | started =>
    have hs (x : Reading) : s ≠ ⟨startedCounter.series [], x⟩ := by
      rintro rfl
      exact h rfl
    simp only [hs, false_or]
    exact .rfl
  | succeeded =>
    have hs (x : Reading) : s ≠ ⟨succeededCounter.series [], x⟩ := by
      rintro rfl
      exact h rfl
    simp only [hs, false_or]
    exact .rfl
  | failed reason =>
    refine or_congr .rfl (or_congr .rfl (or_congr (exists_congr fun e => and_congr_left ?_) .rfl))
    rintro rfl
    refine Labelled.mem_adjust_of_ne (fun he => h ?_) _ _ _
    subst he
    rfl
  | lasted outcome x =>
    refine or_congr .rfl (or_congr .rfl (or_congr .rfl (or_congr
      (exists_congr fun e => and_congr_left fun hs => ?_) .rfl)))
    refine Labelled.mem_adjust_of_ne (fun he => h ?_) _ _ _
    subst he
    rcases mem_durationSamples.mp hs with ⟨bound, n, -, rfl⟩ | rfl | rfl
    · exact Call.touches_bucket ..
    · exact Call.touches_count ..
    · exact Call.touches_sum ..
  | named version name =>
    have hs (x : Metrics) : s ≠ x.programSample := by
      rintro rfl
      exact h rfl
    simp only [hs, or_false]
    exact .rfl

theorem failures_failed (m : Metrics) (reason : String) :
    (m.apply (.failed reason)).failures reason = m.failures reason + 1 :=
  (Labelled.getD_adjust reason reason 0 (· + 1) m.failed).trans (if_pos rfl)

theorem lookup_lasted (m : Metrics) (outcome : String) (x : Float) :
    ((m.apply (.lasted outcome x)).durations.lookup outcome).getD .empty =
      ((m.durations.lookup outcome).getD .empty).observe x :=
  (Labelled.getD_adjust outcome outcome _ _ m.durations).trans (if_pos rfl)

/-- The samples of the name of a counter are the counter, once for each of some values. -/
theorem Sound.exists_used {m : Metrics} (h : m.Sound) {k : Counter} (hk : k ∈ counters) :
    ∃ used : List (List String), used.Nodup ∧
      (∀ values ∈ used, values.length = k.labelNames.length) ∧
      (m.samples.filter (·.name == k.name)).map (·.toSeries) = used.map k.series := by
  simp only [counters, List.mem_cons, List.not_mem_nil, or_false] at hk
  rcases hk with rfl | rfl | rfl
  · refine ⟨[[]], by simp, by simp [startedCounter], ?_⟩
    change (m.samples.filter (·.name == "procexec_executions_started_total")).map _ = _
    simp [samples_eq, failedSample, programSample, durationSamples, List.filter_flatMap,
      List.filter_map, Function.comp_def]
  · refine ⟨[[]], by simp, by simp [succeededCounter], ?_⟩
    change (m.samples.filter (·.name == "procexec_executions_succeeded_total")).map _ = _
    simp [samples_eq, failedSample, programSample, durationSamples, List.filter_flatMap,
      List.filter_map, Function.comp_def]
  · refine ⟨m.failed.map fun e => [e.1], ?_, fun values hv => ?_, ?_⟩
    · have hn := h.nodup_failed.map (f := fun reason => [reason]) fun _ _ he => by simpa using he
      rwa [List.map_map] at hn
    · obtain ⟨e, -, rfl⟩ := List.mem_map.mp hv
      rfl
    · change (m.samples.filter (·.name == "procexec_executions_failed_total")).map _ = _
      simp [samples_eq, failedSample, programSample, durationSamples, List.filter_flatMap,
        List.filter_map, Function.comp_def]

/-! ### The client -/

theorem ofCall?_call (u : Update) : Update.ofCall? u.call = some u := by
  cases u <;> rfl

theorem call_of_ofCall? {k : Call} {u : Update} (h : Update.ofCall? k = some u) : u.call = k := by
  unfold Update.ofCall? at h
  split at h
  · split_ifs at h with hs hu
    · cases h
      rw [hs]
      rfl
    · cases h
      rw [hu]
      rfl
  · split_ifs at h with hf
    cases h
    rw [hf]
    rfl
  · split_ifs at h with hd
    cases h
    rw [hd]
    rfl
  · split_ifs at h with hi
    cases h
    rw [hi]
    rfl
  · cases h

/-- What the client keeps after calls. -/
def kept (calls : List Call) : Metrics := calls.foldl applyCall {}

theorem exposed_client (calls : List Call) : client.exposed calls = (kept calls).samples := rfl

theorem kept_concat (calls : List Call) (k : Call) :
    kept (calls ++ [k]) = (kept calls).applyCall k := by
  unfold kept
  rw [List.foldl_append]
  rfl

/-- The call that makes a change makes it. -/
theorem applyCall_call (m : Metrics) (u : Update) : m.applyCall u.call = m.apply u := by
  unfold applyCall
  rw [ofCall?_call]
  rfl

theorem kept_concat_call (calls : List Call) (u : Update) :
    kept (calls ++ [u.call]) = (kept calls).apply u := by
  rw [kept_concat, applyCall_call]

theorem kept_calls (us : List Update) : kept (us.map Update.call) = applyAll {} us := by
  unfold kept applyAll
  rw [List.foldl_map]
  exact List.foldl_ext _ _ _ fun m u _ => m.applyCall_call u

theorem sound_kept (calls : List Call) : (kept calls).Sound := by
  induction calls using List.reverseRecOn with
  | nil => exact sound_empty
  | append_singleton calls k ih =>
    rw [kept_concat, applyCall]
    cases Update.ofCall? k with
    | none => exact ih
    | some u => exact ih.apply u

/-- **The client here can be relied on.** Whatever calls were made, it keeps counters and durations
as the documentation of a client says. -/
theorem documented_client : client.Documented counters histograms where
  counter_initial k hk values hv := by
    simp only [counters, List.mem_cons, List.not_mem_nil, or_false] at hk
    rcases hk with rfl | rfl | rfl
    · obtain rfl := List.length_eq_zero_iff.mp hv
      exact shows_started_iff.mpr rfl
    · obtain rfl := List.length_eq_zero_iff.mp hv
      exact shows_succeeded_iff.mpr rfl
    · obtain ⟨reason, rfl⟩ := List.length_eq_one_iff.mp hv
      exact sound_empty.shows_failed_iff.mpr rfl
  bucket_initial h hh values hv b hb := by
    obtain rfl := List.mem_singleton.mp hh
    obtain ⟨outcome, rfl⟩ := List.length_eq_one_iff.mp hv
    obtain ⟨n, hn⟩ := Durations.exists_mem_zip (sound_empty.length_counts outcome) hb
    obtain rfl := Durations.eq_zero_of_mem_zip hn
    exact (sound_empty.shows_bucket_iff hb).mpr hn
  count_initial h hh values hv := by
    obtain rfl := List.mem_singleton.mp hh
    obtain ⟨outcome, rfl⟩ := List.length_eq_one_iff.mp hv
    exact sound_empty.shows_count_iff.mpr rfl
  counter_inc calls k hk values n hv hs := by
    have hm := sound_kept calls
    simp only [counters, List.mem_cons, List.not_mem_nil, or_false] at hk
    rw [exposed_client] at hs ⊢
    rcases hk with rfl | rfl | rfl
    · obtain rfl := List.length_eq_zero_iff.mp hv
      rw [shows_started_iff] at hs
      have hn : ((kept calls).apply .started).started = n + 1 := congrArg (· + 1) hs
      rwa [← kept_concat_call, ← shows_started_iff] at hn
    · obtain rfl := List.length_eq_zero_iff.mp hv
      rw [shows_succeeded_iff] at hs
      have hn : ((kept calls).apply .succeeded).succeeded = n + 1 := congrArg (· + 1) hs
      rwa [← kept_concat_call, ← shows_succeeded_iff] at hn
    · obtain ⟨reason, rfl⟩ := List.length_eq_one_iff.mp hv
      rw [hm.shows_failed_iff] at hs
      have hn : ((kept calls).apply (.failed reason)).failures reason = n + 1 :=
        (failures_failed _ reason).trans (congrArg (· + 1) hs)
      rwa [← (hm.apply _).shows_failed_iff, ← kept_concat_call] at hn
  bucket_observe calls h hh values n hv x b hb hs := by
    obtain rfl := List.mem_singleton.mp hh
    obtain ⟨outcome, rfl⟩ := List.length_eq_one_iff.mp hv
    have hm := sound_kept calls
    have hn := Durations.mem_zip_observe (hm.length_counts outcome) x
      ((hm.shows_bucket_iff hb).mp hs)
    rw [← lookup_lasted] at hn
    have hshows := ((hm.apply _).shows_bucket_iff hb).mpr hn
    rwa [← kept_concat_call] at hshows
  count_observe calls h hh values n hv x hx hs := by
    obtain rfl := List.mem_singleton.mp hh
    obtain ⟨outcome, rfl⟩ := List.length_eq_one_iff.mp hv
    have hm := sound_kept calls
    have hn := Durations.count_observe (hm.length_counts outcome) hx
    rw [← lookup_lasted, hm.shows_count_iff.mp hs] at hn
    have hshows := (hm.apply _).shows_count_iff.mpr hn
    rwa [← kept_concat_call] at hshows
  mem_iff_of_not_touches calls k s hs := by
    rw [exposed_client, exposed_client, kept_concat, applyCall]
    cases hk : Update.ofCall? k with
    | none => exact .rfl
    | some u => exact mem_samples_apply (by rwa [call_of_ofCall? hk])
  counter_series calls k hk := (sound_kept calls).exists_used hk

end Errand.Metrics
