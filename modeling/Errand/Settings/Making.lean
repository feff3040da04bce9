import Errand.Execution.Runner
import Errand.Handler.Waiting
import Errand.Settings.Cache

/-! # Making runners and handlers

A runner asks for the settings when it is made, and so does a handler that is given no interval of
its own. They ask as any party does: the settings that are kept will do, else new ones are built and
kept. A runner whose configuration has an unknown name is refused before it asks. -/

namespace Errand.Settings.Kept

variable (load : Sources → Except Fault Settings)

/-- Asks for the settings. -/
def ask (k : Kept) : Except Fault Numbered × Kept :=
  let (answer, cache) := k.cache.get load k.sources
  (answer, { k with cache })

/-- Makes a runner of a configuration. -/
def makeRunner (k : Kept) (surroundings : List (String × String))
    (config : List (String × Value)) : Except Fault Runner × Kept :=
  match Runner.unknownConfig? config with
  | some name => (.error (.unknownField Runner.owner name), k)
  | none =>
    let (answer, k) := k.ask load
    (Runner.configure (answer.map Numbered.settings) surroundings config, k)

/-- Makes a handler, which is told how many milliseconds to sleep between two looks; null stands for
those of the settings. -/
def makeHandler (k : Kept) (milliseconds : Value) : Except Fault Value × Kept :=
  match milliseconds with
  | .null =>
    let (answer, k) := k.ask load
    (Waiting.milliseconds (answer.map Numbered.settings) .null, k)
  | v => (.ok v, k)

theorem meet_asked (k : Kept) : k.meet load .asked = (some (k.ask load).1, (k.ask load).2) := rfl

variable {load} {k : Kept}

theorem ask_of_kept {n : Numbered} (h : k.cache.kept = some n) : k.ask load = (.ok n, k) := by
  obtain ⟨sources, ⟨kept, built⟩⟩ := k
  obtain rfl : kept = some n := h
  rfl

theorem ask_of_ok {x : Settings} (h : k.cache.kept = none) (hx : load k.sources = .ok x) :
    k.ask load = (.ok ⟨k.cache.built, x⟩,
      { k with cache := ⟨some ⟨k.cache.built, x⟩, k.cache.built + 1⟩ }) := by
  simp [ask, Cache.get, h, hx]

theorem ask_of_error {f : Fault} (h : k.cache.kept = none) (hf : load k.sources = .error f) :
    k.ask load = (.error f, k) := by
  simp [ask, Cache.get, h, hf]

/-- All that a call can do: it finds settings that are kept, builds new ones or fails to. -/
theorem ask_cases (load : Sources → Except Fault Settings) (k : Kept) :
    (∃ n, k.cache.kept = some n ∧ k.ask load = (.ok n, k)) ∨
      k.cache.kept = none ∧
        ((∃ x, load k.sources = .ok x ∧ k.ask load = (.ok ⟨k.cache.built, x⟩,
          { k with cache := ⟨some ⟨k.cache.built, x⟩, k.cache.built + 1⟩ })) ∨
        ∃ f, load k.sources = .error f ∧ k.ask load = (.error f, k)) := by
  cases hk : k.cache.kept with
  | some n => exact .inl ⟨n, rfl, ask_of_kept hk⟩
  | none =>
    cases hl : load k.sources with
    | ok x => exact .inr ⟨rfl, .inl ⟨x, rfl, ask_of_ok hk hl⟩⟩
    | error f => exact .inr ⟨rfl, .inr ⟨f, rfl, ask_of_error hk hl⟩⟩

/-- What is made is made with the settings that a party which asks would get. -/
theorem makeRunner_fst (k : Kept) (surroundings : List (String × String))
    (config : List (String × Value)) :
    (k.makeRunner load surroundings config).1 =
      Runner.configure ((k.ask load).1.map Numbered.settings) surroundings config := by
  unfold makeRunner
  cases h : Runner.unknownConfig? config with
  | none => rfl
  | some name =>
    unfold Runner.configure
    rw [h]
    rfl

theorem makeHandler_fst (k : Kept) (milliseconds : Value) :
    (k.makeHandler load milliseconds).1 =
      Waiting.milliseconds ((k.ask load).1.map Numbered.settings) milliseconds := by
  cases milliseconds <;> rfl

/-- Who makes something leaves what a party leaves that asks, or changes nothing. -/
theorem makeRunner_snd (k : Kept) (surroundings : List (String × String))
    (config : List (String × Value)) :
    (k.makeRunner load surroundings config).2 = k ∨
      (k.makeRunner load surroundings config).2 = (k.meet load .asked).2 := by
  unfold makeRunner
  cases Runner.unknownConfig? config with
  | none => exact .inr rfl
  | some name => exact .inl rfl

theorem makeHandler_snd (k : Kept) (milliseconds : Value) :
    (k.makeHandler load milliseconds).2 = k ∨
      (k.makeHandler load milliseconds).2 = (k.meet load .asked).2 := by
  cases milliseconds with
  | null => exact .inr rfl
  | _ => exact .inl rfl

end Errand.Settings.Kept
