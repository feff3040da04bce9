import Errand.Settings.Loading
import Errand.Settings.Making
import Mathlib.Data.List.Induction

/-! # Settings in a history of changes, clears and calls

The settings that are kept are those of the last call that came to any, if there was no clear since.
A history is read from its end: `Came` says that a call came to settings and what has happened
since, `Linked` ties what is kept to such a call, and one more event keeps it so (`Linked.concat`).
Settings that were built are told apart by their numbers: a call that builds some takes a number
above those of all earlier answers.

The main statement is `settings_snapshot`: calls, and parties that make runners and handlers, get
the settings of the last call, or those that the sources give at that moment. -/

namespace Errand.Settings

/-! ### Sources in a history -/

/-- The sources after an event, whatever is kept. -/
def Sources.meet (s : Sources) : Event → Sources
  | .changed name value => s.change name value
  | .cleared | .asked => s

/-- The sources after a history. -/
def Sources.after (s : Sources) (events : List Event) : Sources := events.foldl meet s

section Events
variable (load : Sources → Except Fault Settings) (k : Kept) (s : Sources) (events : List Event)
  (e : Event)

/-- What is kept after a history that begins with nothing kept. -/
def Sources.keeps : Kept := Kept.after load { sources := s } events

theorem Sources.keeps_concat :
    s.keeps load (events ++ [e]) = ((s.keeps load events).meet load e).2 := by
  unfold keeps Kept.after
  rw [List.foldl_append]
  rfl

theorem Sources.after_concat : s.after (events ++ [e]) = (s.after events).meet e := by
  unfold after
  rw [List.foldl_append]
  rfl

theorem Kept.sources_meet : (k.meet load e).2.sources = k.sources.meet e := by
  cases e <;> rfl

theorem Sources.sources_keeps : (s.keeps load events).sources = s.after events := by
  induction events using List.reverseRecOn with
  | nil => rfl
  | append_singleton events e ih =>
    rw [keeps_concat, Kept.sources_meet, ih, after_concat]

end Events

/-! ### What a call leaves -/

namespace Kept
variable {load : Sources → Except Fault Settings} {k : Kept} {n : Numbered}

/-- A call keeps what it came to. -/
theorem kept_ask_iff : (k.ask load).2.cache.kept = some n ↔ (k.ask load).1 = .ok n := by
  rcases k.ask_cases load with ⟨m, hk, h⟩ | ⟨hk, ⟨x, -, h⟩ | ⟨f, -, h⟩⟩ <;> simp [h, hk]

theorem built_le_ask (k : Kept) : k.cache.built ≤ (k.ask load).2.cache.built := by
  rcases k.ask_cases load with ⟨m, -, h⟩ | ⟨-, ⟨x, -, h⟩ | ⟨f, -, h⟩⟩ <;> simp [h]

/-- What a call comes to was kept, or is built under the next number. -/
theorem number_lt_ask (hk : ∀ m, k.cache.kept = some m → m.number < k.cache.built)
    (h : (k.ask load).1 = .ok n) : n.number < (k.ask load).2.cache.built := by
  rcases k.ask_cases load with ⟨m, hm, ha⟩ | ⟨-, ⟨x, -, ha⟩ | ⟨f, -, ha⟩⟩ <;> rw [ha] at h ⊢
  · obtain rfl := Except.ok.inj h
    exact hk m hm
  · obtain rfl := Except.ok.inj h
    exact Nat.lt_succ_self _
  · cases h

end Kept

/-! ### Calls in a history -/

/-- A call in a history came to settings, and these events have happened since. -/
def Came (load : Sources → Except Fault Settings) (s : Sources) (events : List Event) (n : Numbered)
    (since : List Event) : Prop :=
  ∃ before, events = before ++ .asked :: since ∧
    ((s.keeps load before).meet load .asked).1 = some (.ok n)

/-- Whether a call came to settings that were not cleared since. -/
def Holds (load : Sources → Except Fault Settings) (s : Sources) (events : List Event)
    (n : Numbered) : Prop :=
  ∃ since, Came load s events n since ∧ .cleared ∉ since

section Calls
variable {load : Sources → Except Fault Settings} {s : Sources} {events : List Event} {e : Event}
  {n : Numbered}

theorem not_came_nil (since : List Event) : ¬Came load s [] n since := by
  rintro ⟨before, h, -⟩
  simp at h

/-- A call is the last event of a history, or one of those before it. -/
theorem came_concat {since : List Event} : Came load s (events ++ [e]) n since ↔
    (∃ rest, since = rest ++ [e] ∧ Came load s events n rest) ∨
      (e = .asked ∧ since = [] ∧ ((s.keeps load events).ask load).1 = .ok n) := by
  constructor
  · rintro ⟨before, h, hn⟩
    induction since using List.reverseRecOn with
    | nil =>
      obtain ⟨rfl, he⟩ := List.append_inj' h rfl
      obtain rfl := List.singleton_inj.mp he
      exact .inr ⟨rfl, rfl, Option.some.inj hn⟩
    | append_singleton rest last =>
      rw [← List.cons_append, ← List.append_assoc] at h
      obtain ⟨rfl, he⟩ := List.append_inj' h rfl
      obtain rfl := List.singleton_inj.mp he
      exact .inl ⟨rest, rfl, before, rfl, hn⟩
  · rintro (⟨rest, rfl, before, rfl, hn⟩ | ⟨rfl, rfl, hn⟩)
    · exact ⟨before, by simp, hn⟩
    · exact ⟨events, rfl, congrArg some hn⟩

theorem holds_concat : Holds load s (events ++ [e]) n ↔
    (e ≠ .cleared ∧ Holds load s events n) ∨
      (e = .asked ∧ ((s.keeps load events).ask load).1 = .ok n) := by
  unfold Holds
  simp only [came_concat]
  constructor
  · rintro ⟨since, ⟨rest, rfl, hr⟩ | ⟨rfl, rfl, hn⟩, hc⟩
    · rw [List.mem_append, not_or, List.mem_singleton] at hc
      exact .inl ⟨Ne.symm hc.2, rest, hr, hc.1⟩
    · exact .inr ⟨rfl, hn⟩
  · rintro (⟨he, rest, hr, hc⟩ | ⟨rfl, hn⟩)
    · refine ⟨rest ++ [e], .inl ⟨rest, rfl, hr⟩, ?_⟩
      rw [List.mem_append, List.mem_singleton]
      exact not_or.mpr ⟨hc, Ne.symm he⟩
    · exact ⟨[], .inr ⟨rfl, rfl, hn⟩, List.not_mem_nil⟩

/-- What is kept after a history is what the last call came to, if there was no clear since; the
numbers of all answers are below the next one. -/
structure Linked (load : Sources → Except Fault Settings) (s : Sources) (events : List Event) :
    Prop where
  kept_iff : ∀ n, (s.keeps load events).cache.kept = some n ↔ Holds load s events n
  number_lt : ∀ n since, Came load s events n since → n.number < (s.keeps load events).cache.built

theorem Linked.number_lt_of_kept (h : Linked load s events)
    (hk : (s.keeps load events).cache.kept = some n) :
    n.number < (s.keeps load events).cache.built := by
  obtain ⟨since, hs, -⟩ := (h.kept_iff n).mp hk
  exact h.number_lt n since hs

/-- One more event keeps the link. -/
theorem Linked.concat (h : Linked load s events) (e : Event) : Linked load s (events ++ [e]) := by
  refine ⟨fun n => ?_, fun n since hs => ?_⟩
  · rw [holds_concat, Sources.keeps_concat, ← h.kept_iff]
    cases e with
    | changed name value => exact (by simp [Kept.meet])
    | cleared => exact (by simp [Kept.meet, Cache.clear])
    | asked =>
      -- What was kept before a call is what it comes to.
      have hk : (s.keeps load events).cache.kept = some n →
          ((s.keeps load events).ask load).1 = .ok n :=
        fun hk => by rw [Kept.ask_of_kept hk]
      rw [Kept.meet_asked, Kept.kept_ask_iff]
      exact ⟨fun ha => .inr ⟨rfl, ha⟩, fun ha => ha.elim (fun ha => hk ha.2) (·.2)⟩
  · rw [Sources.keeps_concat]
    rcases came_concat.mp hs with ⟨rest, -, hr⟩ | ⟨rfl, -, hn⟩
    · have hlt := h.number_lt n rest hr
      cases e with
      | asked => exact Nat.lt_of_lt_of_le hlt (Kept.built_le_ask _)
      | _ => exact hlt
    · exact Kept.number_lt_ask (fun m hm => h.number_lt_of_kept hm) hn

theorem linked (load : Sources → Except Fault Settings) (s : Sources) (events : List Event) :
    Linked load s events := by
  induction events using List.reverseRecOn with
  | nil =>
    refine ⟨fun n => iff_of_false nofun ?_, fun n since hs => absurd hs (not_came_nil since)⟩
    rintro ⟨since, hs, -⟩
    exact not_came_nil since hs
  | append_singleton events e ih => exact ih.concat e

theorem Linked.kept_eq_none (h : Linked load s events) (hn : ∀ n, ¬Holds load s events n) :
    (s.keeps load events).cache.kept = none :=
  Option.eq_none_iff_forall_not_mem.mpr fun n hk => hn n ((h.kept_iff n).mp hk)

/-- What a call came to holds on until something is cleared. -/
theorem Holds.append (h : Holds load s events n) {more : List Event} (hm : .cleared ∉ more) :
    Holds load s (events ++ more) n := by
  obtain ⟨since, ⟨before, rfl, hn⟩, hc⟩ := h
  refine ⟨since ++ more, ⟨before, by simp, hn⟩, ?_⟩
  rw [List.mem_append]
  exact not_or.mpr ⟨hc, hm⟩

theorem Holds.ask (h : Holds load s events n) :
    (s.keeps load events).ask load = (.ok n, s.keeps load events) :=
  Kept.ask_of_kept (((linked load s events).kept_iff n).mpr h)

end Calls

/-! ### Who is made with the settings -/

/-- Settings decide of a runner what its configuration does not. -/
structure Governs (x : Settings) (config : List (String × Value)) (r : Runner) : Prop where
  metricsEnabled : r.metricsEnabled = x.metricsEnabled
  successExitValues : Runner.configValue config "success_exit_values" = .null →
    r.successExitValues = x.successExitValues.map .int
  timeout : Runner.configValue config "timeout_seconds" = .null →
    r.timeout = (x.defaultTimeoutSeconds.map Value.float).getD .null

/-- A configuration of known names makes a runner, if there are a directory and exit values to be
had. -/
theorem exists_governed (x : Settings) (surroundings : List (String × String))
    {config : List (String × Value)} {directory : Option String}
    (hu : Runner.unknownConfig? config = none)
    (hd : Runner.directoryOf (Runner.configValue config "working_directory") = .ok directory)
    (he : Runner.configValue config "success_exit_values" = .null ∨
      (Runner.configValue config "success_exit_values").parts?.isSome) :
    ∃ r, Runner.configure (.ok x) surroundings config = .ok r ∧ x.Governs config r := by
  obtain ⟨exits, hx⟩ : ∃ exits, Runner.exitValuesOf x
      (Runner.configValue config "success_exit_values") = .ok exits := by
    rcases he with he | he
    · rw [he]
      exact ⟨_, rfl⟩
    · obtain ⟨vs, hv⟩ := Option.isSome_iff_exists.mp he
      unfold Runner.exitValuesOf
      split
      · exact ⟨_, rfl⟩
      · rw [hv]
        exact ⟨vs, rfl⟩
  unfold Runner.configure
  rw [hu, hd]
  dsimp only [bind, Except.bind]
  rw [hx]
  refine ⟨_, rfl, rfl, fun hn => ?_, fun hn => ?_⟩
  · rw [hn] at hx
    exact (Except.ok.inj hx).symm
  · dsimp only
    rw [hn]

/-- Whoever makes a runner or a handler makes it with these settings, and changes nothing. -/
structure Kept.MakesWith (load : Sources → Except Fault Settings) (k : Kept) (x : Settings) :
    Prop where
  runner : ∀ surroundings config,
    k.makeRunner load surroundings config = (Runner.configure (.ok x) surroundings config, k)
  handler : ∀ milliseconds,
    k.makeHandler load milliseconds = (Waiting.milliseconds (.ok x) milliseconds, k)
  /-- The settings decide what the configuration of a runner does not. -/
  governs : ∀ surroundings config directory, Runner.unknownConfig? config = none →
    Runner.directoryOf (Runner.configValue config "working_directory") = .ok directory →
    (Runner.configValue config "success_exit_values" = .null ∨
      (Runner.configValue config "success_exit_values").parts?.isSome) →
    ∃ r, k.makeRunner load surroundings config = (.ok r, k) ∧ x.Governs config r
  /-- The settings decide the interval of a handler that is given none. -/
  interval : k.makeHandler load .null = (.ok (.int x.sleepTimeMs), k)

theorem Kept.makesWith {load : Sources → Except Fault Settings} {k : Kept} {n : Numbered}
    (h : k.ask load = (.ok n, k)) : k.MakesWith load n.settings := by
  have hk : (k.meet load .asked).2 = k := by rw [meet_asked, h]
  have hrunner (surroundings : List (String × String)) (config : List (String × Value)) :
      k.makeRunner load surroundings config =
        (Runner.configure (.ok n.settings) surroundings config, k) := by
    refine Prod.ext ?_ ?_
    · rw [makeRunner_fst, h]
      rfl
    · exact (k.makeRunner_snd surroundings config).elim id (·.trans hk)
  have hhandler (milliseconds : Value) : k.makeHandler load milliseconds =
      (Waiting.milliseconds (.ok n.settings) milliseconds, k) := by
    refine Prod.ext ?_ ?_
    · rw [makeHandler_fst, h]
      rfl
    · exact (k.makeHandler_snd milliseconds).elim id (·.trans hk)
  refine ⟨hrunner, hhandler, fun surroundings config directory hu hd he => ?_, hhandler .null⟩
  obtain ⟨r, hr, hf⟩ := exists_governed n.settings surroundings hu hd he
  exact ⟨r, by rw [hrunner, hr], hf⟩

/-! ### The main statement -/

/-- What a call comes to after a history. It is what the last call came to that came to any
settings, whatever the sources have become since, unless there was a clear. Else settings are built
from the sources of that moment, under a number that no earlier answer had; if that fails, nothing
is kept, and the next call has to build them from the sources of its own moment. -/
structure Snapshot (load : Sources → Except Fault Settings) (s : Sources) (events : List Event) :
    Prop where
  same : ∀ n, Holds load s events n → (s.keeps load events).ask load = (.ok n, s.keeps load events)
  fresh : (∀ n, ¬Holds load s events n) → ∀ x, load (s.after events) = .ok x →
    ∃ number, ((s.keeps load events).ask load).1 = .ok ⟨number, x⟩ ∧
      ∀ n since, Came load s events n since → n.number ≠ number
  failing : (∀ n, ¬Holds load s events n) → ∀ f, load (s.after events) = .error f →
    (s.keeps load events).ask load = (.error f, s.keeps load events) ∧
      ∀ n, ¬Holds load s (events ++ [.asked]) n

theorem Linked.snapshot {load : Sources → Except Fault Settings} {s : Sources} {events : List Event}
    (h : Linked load s events) : Snapshot load s events where
  same _ hn := hn.ask
  fresh hn x hx := by
    rw [← Sources.sources_keeps load] at hx
    refine ⟨(s.keeps load events).cache.built, ?_,
      fun n since hs => Nat.ne_of_lt (h.number_lt n since hs)⟩
    rw [Kept.ask_of_ok (h.kept_eq_none hn) hx]
  failing hn f hf := by
    rw [← Sources.sources_keeps load] at hf
    have ha := Kept.ask_of_error (h.kept_eq_none hn) hf
    refine ⟨ha, fun n hh => ?_⟩
    rcases holds_concat.mp hh with ⟨-, hh⟩ | ⟨-, he⟩
    · exact hn n hh
    · rw [ha] at he
      cases he

/-- **Settings are a snapshot.** Whatever the sources give, after every history of changes, clears
and calls a call comes to the settings of the last one that came to any, if there was no clear
since, and else to what the sources give at that moment, which is kept unless it is a fault. Until
the next clear all runners and handlers are made with the same settings. -/
theorem settings_snapshot (load : Sources → Except Fault Settings) (s : Sources)
    (events : List Event) :
    Snapshot load s events ∧
      ∀ n, Holds load s events n → ∀ more : List Event, .cleared ∉ more →
        (s.keeps load (events ++ more)).MakesWith load n.settings :=
  ⟨(linked load s events).snapshot, fun _ hn _ hm => Kept.makesWith (hn.append hm).ask⟩

/-- A call fails, the variable is repaired, a call comes to settings, the variable is broken again:
these settings stay until they are cleared. Other ones are built when the variable is in order. -/
theorem settings_snapshot_of_repair :
    let s : Sources := { environment := [("EXEC_SLEEP_TIME_MS", "0")] }
    let broken : List Event := [.asked, .changed "EXEC_SLEEP_TIME_MS" (some "75"), .asked,
      .changed "EXEC_SLEEP_TIME_MS" (some "soon")]
    let mended := broken ++ [.cleared, .asked, .changed "EXEC_SLEEP_TIME_MS" (some "20")]
    ∃ x, ((s.keeps load broken).ask load).1 = .ok ⟨0, x⟩ ∧ x.sleepTimeMs = 75 ∧
      (s.keeps load broken).MakesWith load x ∧
      (s.keeps load broken).makeHandler load .null = (.ok (.int 75), s.keeps load broken) ∧
      (∃ f, load (s.after broken) = .error f) ∧
      (∃ f, ((s.keeps load (broken ++ [.cleared])).ask load).1 = .error f) ∧
      ∃ number y, ((s.keeps load mended).ask load).1 = .ok ⟨number, y⟩ ∧ number ≠ 0 ∧
        y.sleepTimeMs = 20 := by
  intro s broken mended
  have h75 : (load (s.after (broken.take 2))).toOption.map (·.sleepTimeMs) = some 75 := by
    decide +kernel
  have h20 : (load (s.after mended)).toOption.map (·.sleepTimeMs) = some 20 := by decide +kernel
  obtain ⟨x, hl, hsleep⟩ := exists_load h75
  obtain ⟨y, hy, hy20⟩ := exists_load h20
  have hx : ((s.keeps load (broken.take 2)).meet load .asked).1 = some (.ok ⟨0, x⟩) := by
    rw [← Sources.sources_keeps load] at hl
    rw [Kept.meet_asked, Kept.ask_of_ok rfl hl]
    rfl
  have hn : Holds load s broken ⟨0, x⟩ :=
    ⟨broken.drop 3, ⟨broken.take 2, rfl, hx⟩, by simp [broken]⟩
  obtain ⟨f, hf⟩ : ∃ f, load (s.after (broken ++ [.cleared])) = .error f := ⟨_, rfl⟩
  have hcleared : ∀ n, ¬Holds load s (broken ++ [.cleared]) n := by simp [holds_concat]
  obtain ⟨ha, hasked⟩ := (settings_snapshot load s (broken ++ [.cleared])).1.failing hcleared f hf
  have hmended : ∀ n, ¬Holds load s mended n := fun n hm =>
    (holds_concat.mp hm).elim (fun hm => hasked n hm.2) (fun hm => nomatch hm.1)
  obtain ⟨number, hnew, hne⟩ := (settings_snapshot load s mended).1.fresh hmended y hy
  have hmakes : (s.keeps load broken).MakesWith load x :=
    (settings_snapshot load s broken).2 _ hn [] List.not_mem_nil
  have hinterval := hmakes.interval
  rw [hsleep] at hinterval
  refine ⟨x, ?_, hsleep, hmakes, hinterval, ⟨f, hf⟩, ⟨f, congrArg Prod.fst ha⟩, number, y, hnew, ?_,
    hy20⟩
  · rw [(settings_snapshot load s broken).1.same _ hn]
  · exact (hne ⟨0, x⟩ (mended.drop 3) ⟨mended.take 2, rfl, hx⟩).symm

end Errand.Settings
