import Errand.Execution.Scene
import Errand.Host.Limit

/-! # Worlds under a limit

A party that can be cancelled keeps the time of its wait itself, so a limit counts whatever the
world around it is: one that cannot be compared is refused, and where one is not above zero the
process is not even looked at. `World.limited` lays that over a world which knows the fate of its
processes, and leaves blocking waits to that world. Under one limit it is a world of its own,
`World.under`. -/

namespace Errand.World

variable {σ : Type}

/-- The world in which cooperative waits keep to their limits. -/
def limited (w : World σ) : World σ :=
  { w with output := fun timeout s =>
      match Host.Limit.isSpent timeout with
      | .error f => ⟨.raised f, none, s⟩
      | .ok true => ⟨.timedOut, none, s⟩
      | .ok false => w.output timeout s }

/-- The world in which every cooperative wait has this answer at once. -/
def answering (w : World σ) (a : OutputAnswer) : World σ :=
  { w with output := fun _ s => ⟨a, none, s⟩ }

/-- The world in which cooperative waits keep to this one limit. -/
def under (w : World σ) (timeout : Value) : World σ :=
  match Host.Limit.isSpent timeout with
  | .error f => w.answering (.raised f)
  | .ok true => w.answering .timedOut
  | .ok false => w

theorem output_limited (w : World σ) (timeout : Value) :
    w.limited.output timeout = (w.under timeout).output timeout := by
  unfold limited under
  dsimp only
  cases Host.Limit.isSpent timeout with
  | error f => rfl
  | ok spent => cases spent <;> rfl

theorem start_under (w : World σ) (timeout : Value) : (w.under timeout).start = w.start := by
  unfold under
  split <;> rfl

theorem kill_under (w : World σ) (timeout : Value) : (w.under timeout).kill = w.kill := by
  unfold under
  split <;> rfl

theorem reap_under (w : World σ) (timeout : Value) : (w.under timeout).reap = w.reap := by
  unfold under
  split <;> rfl

end Errand.World
