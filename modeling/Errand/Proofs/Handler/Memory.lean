import Errand.Handler.History
import Errand.Proofs.Handler.Firing
import Errand.Proofs.Handler.Publication

/-! # What a handler remembers

However often a handler is told something, it holds the latest result, and the latest output if it
captures output; before the first result there is none to read (`Handler.Remembers`). One callback
keeps this (`Remembers.tell`), so any number of them do.

Over a history the handler is told callbacks at once, when the clock goes on, and while somebody
waits. Each event of it adds certain callbacks to those that were told (`hears_meet`) and changes
the handler by these alone. The main statement is `remembers_after`: after every history the handler
remembers what it was told, every callback of the history was told once or is still due, and
whatever happens next without a result leaves the mark, the exit value and the failure as they are.
-/

namespace Errand

/-- The output that a callback tells. -/
def Callback.output? : Callback → Option (String × String)
  | output out err => some (out, err)
  | complete _ | failed _ => none

namespace Handler

/-- The handler holds the latest result and the latest output of what it was told. -/
structure Remembers (capturing : Bool) (told : List Callback) (h : Handler) : Prop where
  capturing_eq : h.capturing = capturing
  hasResult_iff : h.hasResult = true ↔ ∃ c ∈ told, c.isResult = true
  /-- Without a result there is none to read, and none is stored. -/
  absent : h.hasResult = false →
    h.exitValue = .error .noResult ∧ h.failure = .error .noResult ∧
      h.storedExitValue = .int invalidExitValue ∧ h.storedFailure = none
  /-- With one, the latest is what is read. -/
  present : ∀ c v f, (told.filter Callback.isResult).getLast? = some c → c.Tells v f →
    h.exitValue = .ok v ∧ h.failure = .ok f
  output_eq : capturing = true →
    (h.stdout, h.stderr) = ((told.filterMap Callback.output?).getLast?).getD ("", "")

variable {capturing : Bool} {told : List Callback} {h : Handler}

theorem remembers_fresh (capturing : Bool) : Remembers capturing [] { capturing } where
  capturing_eq := rfl
  hasResult_iff := by simp
  absent _ := ⟨rfl, rfl, rfl, rfl⟩
  present _ _ _ hc := by cases hc
  output_eq _ := rfl

/-! ### One callback -/

theorem Remembers.tell_output (hr : Remembers capturing told h) (out err : String) :
    Remembers capturing (told ++ [.output out err]) (h.tell (.output out err)) := by
  have hf : (told ++ [Callback.output out err]).filter Callback.isResult =
      told.filter Callback.isResult := by
    rw [List.filter_append]
    exact List.append_nil _
  have ho : ((told ++ [Callback.output out err]).filterMap Callback.output?).getLast? =
      some (out, err) := by
    rw [List.filterMap_append]
    exact List.getLast?_concat
  -- the fields of a result are those of before
  have he : h.tell (.output out err) =
      if capturing then { h with stdout := out, stderr := err } else h := by
    have hw : writes h.capturing (.output out err) = writes capturing (.output out err) := by
      rw [hr.capturing_eq]
    unfold Handler.tell
    rw [hw]
    cases capturing <;> rfl
  have hm : h.hasResult = true ↔
      ∃ c ∈ told ++ [Callback.output out err], c.isResult = true := by
    rw [hr.hasResult_iff]
    simp [Callback.isResult]
  cases capturing with
  | false =>
    rw [he, if_neg Bool.false_ne_true]
    exact ⟨hr.capturing_eq, hm, hr.absent, hf ▸ hr.present, fun h => absurd h Bool.false_ne_true⟩
  | true =>
    rw [he, if_pos rfl]
    exact ⟨hr.capturing_eq, hm, hr.absent, hf ▸ hr.present, fun _ => by rw [ho]; rfl⟩

theorem Remembers.tell_result (hr : Remembers capturing told h) {c : Callback} {v : Value}
    {f : Option Failure} (ht : c.Tells v f) : Remembers capturing (told ++ [c]) (h.tell c) := by
  have hc : c.isResult = true ∧ c.output? = none := by
    cases ht <;> exact ⟨rfl, rfl⟩
  have hh : h.tell c = { h with storedExitValue := v, storedFailure := f, hasResult := true } := by
    cases ht <;> rfl
  have hf : ((told ++ [c]).filter Callback.isResult).getLast? = some c := by
    rw [List.filter_append, List.filter_cons_of_pos hc.1]
    exact List.getLast?_concat
  have ho : (told ++ [c]).filterMap Callback.output? = told.filterMap Callback.output? := by
    rw [List.filterMap_append, List.filterMap_cons_none hc.2]
    exact List.append_nil _
  rw [hh]
  refine ⟨hr.capturing_eq, ?_, nofun, fun d w g hd hw => ?_, ?_⟩
  · exact iff_of_true rfl ⟨c, List.mem_append_right _ (List.mem_singleton_self c), hc.1⟩
  · cases hf.symm.trans hd
    obtain ⟨rfl, rfl⟩ : v = w ∧ f = g := by
      cases ht <;> cases hw <;> exact ⟨rfl, rfl⟩
    exact ⟨rfl, rfl⟩
  · rw [ho]
    exact hr.output_eq

theorem Remembers.tell (hr : Remembers capturing told h) (c : Callback) :
    Remembers capturing (told ++ [c]) (h.tell c) := by
  cases c with
  | output out err => exact hr.tell_output out err
  | complete v => exact hr.tell_result (.complete v)
  | failed f => exact hr.tell_result (.failed f)

/-! ### Any number of callbacks -/

theorem Remembers.foldl_tell (hr : Remembers capturing told h) (cs : List Callback) :
    Remembers capturing (told ++ cs) (cs.foldl Handler.tell h) := by
  induction cs generalizing told h with
  | nil =>
    rw [List.append_nil]
    exact hr
  | cons c cs ih =>
    rw [List.append_cons]
    exact ih (hr.tell c)

/-- Callbacks that are no results leave the mark, the exit value and the failure as they are. -/
theorem foldl_tell_of_not_isResult {cs : List Callback} (hc : ∀ c ∈ cs, c.isResult = false) :
    (cs.foldl Handler.tell h).hasResult = h.hasResult ∧
      (cs.foldl Handler.tell h).storedExitValue = h.storedExitValue ∧
      (cs.foldl Handler.tell h).storedFailure = h.storedFailure := by
  induction cs generalizing h with
  | nil => exact ⟨rfl, rfl, rfl⟩
  | cons c cs ih =>
    obtain ⟨hm, hv, hf⟩ := ih (h := h.tell c) fun d hd => hc d (List.mem_cons_of_mem c hd)
    rw [List.foldl_cons, hm, hv, hf]
    cases c with
    | output out err =>
      unfold Handler.tell writes
      cases h.capturing <;> exact ⟨rfl, rfl, rfl⟩
    | complete v => cases hc _ List.mem_cons_self
    | failed f => cases hc _ List.mem_cons_self

end Handler

/-! ### Histories -/

namespace Waiting

/-- The callback that comes in with an event, to be told at once or at its time. -/
def Event.callback? : Event → Option Callback
  | told c => some c
  | scheduled d => some d.call
  | advanced _ | awaited _ _ | looked _ => none

/-- The callbacks that the handler may be told at an event: the one that the event is, or such that
were due if the event lets time pass. -/
def Event.Tells (w : World Float Moment) : Event → List Callback → Prop
  | told c, new => new = [c]
  | scheduled _, new => new = []
  | advanced _, new => new ⊆ w.due.map (·.call)
  | awaited _ _, new => new ⊆ w.due.map (·.call)
  | looked _, new => new = []

theorem World.Hears.subset {τ δ : Type} {w next : World τ δ} {new : List Callback}
    (h : w.Hears next [] new) : new ⊆ w.due.map (·.call) := by
  intro c hc
  have hp := h.due_perm.subset (List.mem_append_left _ hc)
  rwa [List.append_nil] at hp

variable (sleepLimit : Nat) (milliseconds : Value)

/-- What one event leads to. -/
theorem hears_meet (w : World Float Moment) (e : Event) :
    ∃ new, w.Hears (w.meet sleepLimit milliseconds e).world e.callback?.toList new ∧
      e.Tells w new := by
  cases e with
  | told c => exact ⟨[c], hears_tell w c, rfl⟩
  | scheduled d =>
    refine ⟨[], ⟨(List.append_nil _).symm, rfl, ?_⟩, rfl⟩
    exact List.Perm.of_eq List.map_append
  | advanced t =>
    unfold World.meet
    dsimp only
    cases later w.clock t with
    | error f => exact ⟨[], .of_eq rfl rfl rfl, List.nil_subset _⟩
    | ok clock =>
      have hc : w.Hears { w with clock } [] [] := .of_eq rfl rfl rfl
      have hf := hc.trans_nil (hears_fire { w with clock })
      exact ⟨_, hf, hf.subset⟩
  | awaited k timeout =>
    obtain ⟨new, h⟩ := hears_await k sleepLimit milliseconds timeout w
    exact ⟨new, h, h.subset⟩
  | looked l => exact ⟨[], .of_eq rfl rfl rfl, rfl⟩

theorem hears_after (w : World Float Moment) (events : List Event) :
    ∃ new, w.Hears (w.after sleepLimit milliseconds events) (events.filterMap Event.callback?)
      new := by
  induction events generalizing w with
  | nil => exact ⟨[], .of_eq rfl rfl rfl⟩
  | cons e events ih =>
    obtain ⟨new, hn, -⟩ := hears_meet sleepLimit milliseconds w e
    obtain ⟨rest, hr⟩ := ih (w.meet sleepLimit milliseconds e).world
    have hc : (e :: events).filterMap Event.callback? =
        e.callback?.toList ++ events.filterMap Event.callback? := by
      rw [List.filterMap_cons]
      cases e.callback? <;> rfl
    rw [hc]
    exact ⟨_, hn.trans hr⟩

/-- **What a handler remembers.** After any history, the handler holds the latest result and the
latest output that it was told; the callbacks that it was told, with those that are still due, are
those that came in. Whatever happens next, the handler is changed by the callbacks alone that it is
told then, and if none of them is a result, its mark, exit value and failure stay. A look changes
nothing at all. -/
theorem remembers_after (capturing : Bool) (clock : Float) (events : List Event) :
    let w := ({ clock, handler := { capturing } } : World Float Moment).after sleepLimit
      milliseconds events
    w.handler.Remembers capturing w.told ∧
      (w.told ++ w.due.map (·.call)).Perm (events.filterMap Event.callback?) ∧
      (∀ e, ∃ new,
        let next := (w.meet sleepLimit milliseconds e).world
        e.Tells w new ∧ next.told = w.told ++ new ∧
          next.handler = new.foldl Handler.tell w.handler ∧
          ((∀ c ∈ new, c.isResult = false) →
            next.handler.hasResult = w.handler.hasResult ∧
              next.handler.storedExitValue = w.handler.storedExitValue ∧
              next.handler.storedFailure = w.handler.storedFailure)) ∧
      ∀ l, (w.meet sleepLimit milliseconds (.looked l)).world = w := by
  intro w
  obtain ⟨all, ha⟩ := hears_after sleepLimit milliseconds
    ({ clock, handler := { capturing } } : World Float Moment) events
  have ht : w.told = all := ha.told_eq
  refine ⟨?_, ?_, fun e => ?_, fun l => rfl⟩
  · rw [ht, show w.handler = all.foldl Handler.tell { capturing } from ha.handler_eq]
    exact (Handler.remembers_fresh capturing).foldl_tell all
  · rw [ht]
    exact ha.due_perm
  · obtain ⟨new, hn, he⟩ := hears_meet sleepLimit milliseconds w e
    refine ⟨new, he, hn.told_eq, hn.handler_eq, fun hc => ?_⟩
    rw [hn.handler_eq]
    exact Handler.foldl_tell_of_not_isResult hc

end Waiting

end Errand
