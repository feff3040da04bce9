import Errand.Handler.Waiting
import Errand.Proofs.Execution.Notification

/-! # Callbacks that fire

When time passes, the callbacks whose time has come are told to the handler, and the others stay
due. Nothing else of the world changes (`clock_fire`, `sleeps_fire`), and no callback is lost, told
twice or made up.

`World.Hears` says this of any two worlds of which one comes out of the other: the handler was told
certain callbacks in between, and these with the ones that are still due are those that were due
before with those that have come in. It holds of whatever can happen while a party waits
(`hears_sleep`, `hears_poll`, `hears_await`): a wait tells what falls due and lets nothing come
in. -/

namespace Errand.Waiting

variable {τ δ : Type}

/-! ### One moment -/

theorem foldl_tell (ds : List (Delivery δ)) (w : World τ δ) :
    ds.foldl (fun w d => w.tell d.call) w =
      { w with
        handler := (ds.map (·.call)).foldl Handler.tell w.handler
        told := w.told ++ ds.map (·.call) } := by
  induction ds generalizing w with
  | nil => simp
  | cons d ds ih =>
    rw [List.foldl_cons, ih]
    simp [World.tell]

section Fire
variable [Schedule δ τ] (w : World τ δ)

/-- The callbacks whose time has come, in the order in which they fire. -/
def World.ready : List (Delivery δ) :=
  (w.due.filter w.reached).mergeSort fun a b => Schedule.notAfter τ a.time b.time

theorem fire_eq :
    w.fire =
      { w with
        handler := (w.ready.map (·.call)).foldl Handler.tell w.handler
        due := w.due.filter fun d => !w.reached d
        told := w.told ++ w.ready.map (·.call) } :=
  foldl_tell w.ready _

theorem World.ready_perm : w.ready.Perm (w.due.filter w.reached) := List.mergeSort_perm _ _

theorem clock_fire : w.fire.clock = w.clock := by rw [fire_eq]

theorem sleeps_fire : w.fire.sleeps = w.sleeps := by rw [fire_eq]

theorem due_fire : w.fire.due = w.due.filter fun d => !w.reached d := by rw [fire_eq]

/-- There is a result after callbacks have fired if there was one, or if one was due. -/
theorem hasResult_fire :
    w.fire.handler.hasResult =
      (w.handler.hasResult || w.due.any fun d => w.reached d && d.call.isResult) := by
  rw [fire_eq]
  dsimp only
  rw [Handler.hasResult_foldl_tell, List.any_map, w.ready_perm.any_eq, List.any_filter]
  rfl

end Fire

/-! ### What is told over time -/

/-- Between two worlds the handler was told the callbacks `new`, in order, and the callbacks `come`
have come in. -/
structure World.Hears (w next : World τ δ) (come new : List Callback) : Prop where
  told_eq : next.told = w.told ++ new
  handler_eq : next.handler = new.foldl Handler.tell w.handler
  due_perm : (new ++ next.due.map (·.call)).Perm (w.due.map (·.call) ++ come)

namespace World.Hears

variable {u v w : World τ δ} {a b c d : List Callback}

theorem of_eq (ht : v.told = u.told) (hh : v.handler = u.handler) (hd : v.due = u.due) :
    u.Hears v [] [] := by
  refine ⟨?_, hh, ?_⟩
  · rw [ht, List.append_nil]
  · rw [hd, List.nil_append, List.append_nil]

theorem trans (h : u.Hears v a b) (h' : v.Hears w c d) : u.Hears w (a ++ c) (b ++ d) := by
  refine ⟨?_, ?_, ?_⟩
  · rw [h'.told_eq, h.told_eq, List.append_assoc]
  · rw [h'.handler_eq, h.handler_eq, List.foldl_append]
  · calc (b ++ d) ++ w.due.map (·.call)
        = b ++ (d ++ w.due.map (·.call)) := List.append_assoc ..
      List.Perm _ (b ++ (v.due.map (·.call) ++ c)) := h'.due_perm.append_left b
      _ = (b ++ v.due.map (·.call)) ++ c := (List.append_assoc ..).symm
      List.Perm _ ((u.due.map (·.call) ++ a) ++ c) := h.due_perm.append_right c
      _ = u.due.map (·.call) ++ (a ++ c) := List.append_assoc ..

/-- One thing after the other lets nothing come in if neither does. -/
theorem trans_nil (h : u.Hears v [] b) (h' : v.Hears w [] d) : u.Hears w [] (b ++ d) :=
  h.trans h'

theorem hasResult_eq (h : u.Hears v a b) :
    v.handler.hasResult = (u.handler.hasResult || b.any Callback.isResult) := by
  rw [h.handler_eq, Handler.hasResult_foldl_tell]

end World.Hears

theorem hears_tell (w : World τ δ) (c : Callback) : w.Hears (w.tell c) [c] [c] :=
  ⟨rfl, rfl, List.perm_append_comm⟩

theorem hears_fire [Schedule δ τ] (w : World τ δ) :
    w.Hears w.fire [] (w.ready.map (·.call)) := by
  rw [fire_eq]
  refine ⟨rfl, rfl, ?_⟩
  dsimp only
  rw [List.append_nil, ← List.map_append]
  exact ((w.ready_perm.append_right _).trans (List.filter_append_perm w.reached w.due)).map _

theorem hears_advance [Add τ] [Schedule δ τ] (w : World τ δ) (t : τ) :
    ∃ new, w.Hears (w.advance t) [] new := by
  have hc : w.Hears { w with clock := w.clock + t } [] [] := .of_eq rfl rfl rfl
  exact ⟨_, hc.trans_nil (hears_fire _)⟩

theorem hears_sleep [Add τ] [LT τ] [DecidableLT τ] [Schedule δ τ] (zero interval : τ)
    (w : World τ δ) :
    ∃ new, w.Hears (w.sleep zero interval) [] new := by
  have hs : w.Hears { w with sleeps := w.sleeps + 1 } [] [] := .of_eq rfl rfl rfl
  unfold World.sleep
  dsimp only
  split
  · obtain ⟨new, h⟩ := hears_advance { w with sleeps := w.sleeps + 1 } interval
    exact ⟨_, hs.trans_nil h⟩
  · exact ⟨[], hs⟩

theorem hears_poll [Add τ] [LE τ] [DecidableLE τ] [LT τ] [DecidableLT τ] [Schedule δ τ] (k : Kind)
    (zero interval : τ) (deadline : Option τ) (sleeps : Nat) (w : World τ δ) :
    ∃ new, w.Hears (poll k zero interval deadline sleeps w).2 [] new := by
  have hw : w.Hears w [] [] := .of_eq rfl rfl rfl
  induction sleeps generalizing w with
  | zero =>
    unfold poll
    split
    · exact ⟨[], hw⟩
    · split <;> exact ⟨[], hw⟩
  | succ n ih =>
    unfold poll
    split
    · exact ⟨[], hw⟩
    · split
      · exact ⟨[], hw⟩
      · obtain ⟨a, ha⟩ := hears_sleep zero interval w
        obtain ⟨b, hb⟩ := ih (w.sleep zero interval) (.of_eq rfl rfl rfl)
        exact ⟨_, ha.trans_nil hb⟩

/-- A wait of a program, whatever its interval and its timeout are. -/
theorem hears_await [Schedule δ Float] (k : Kind) (sleepLimit : Nat) (milliseconds timeout : Value)
    (w : World Float δ) :
    ∃ new, w.Hears (await k sleepLimit milliseconds timeout w).2.1 [] new := by
  unfold await
  cases interval milliseconds with
  | error f => exact ⟨[], .of_eq rfl rfl rfl⟩
  | ok i =>
    cases timeoutOf timeout with
    | error f => exact ⟨[], .of_eq rfl rfl rfl⟩
    | ok t =>
      obtain ⟨new, h⟩ := hears_poll k 0.0 i (t.map (w.clock + ·)) sleepLimit w
      refine ⟨new, ?_⟩
      dsimp only
      split <;> exact h

end Errand.Waiting
