import Errand.Fault

/-! # Walking through the states

Moves between states that callers name by any value. A value that names no state has no moves and
is no end; a value that cannot be looked up is refused, the state moved from before the state moved
to. A walk keeps its state when a move is refused. -/

namespace Errand

namespace Status

/-- The states that may follow a value. -/
def successorsOf (v : Value) : Except Fault (List Status) :=
  if v.hashable then .ok ((v.status?.map successors).getD []) else .error (.unhashable v)

/-- Whether the second value names a state that may follow the first one. -/
def canMove (current next : Value) : Except Fault Bool := do
  let targets ← successorsOf current
  if next.hashable then pure (targets.any fun s => next.status? == some s)
  else throw (.unhashable next)

/-- Refuses a move that is not allowed. -/
def checkMove (current next : Value) : Except Fault Unit := do
  if ← canMove current next then pure () else throw (.badTransition current next)

/-- Whether the value names a state in which an execution has ended. -/
def isTerminalValue (v : Value) : Except Fault Bool :=
  if v.hashable then .ok ((v.status?.map isTerminal).getD false) else .error (.unhashable v)

/-- The state after a move, which is the state moved to. -/
def move (current next : Value) : Except Fault Value := do
  checkMove current next
  pure next

end Status

/-- One try of a walk: where it leaves the walk, and why it was refused if it was. -/
structure Try where
  state : Value
  fault : Option Fault := none

/-- The tries of a walk from its first value through the others. -/
def walk (current : Value) : List Value → List Try
  | [] => []
  | next :: rest =>
    match Status.move current next with
    | .ok state => ⟨state, none⟩ :: walk state rest
    | .error f => ⟨current, some f⟩ :: walk current rest

/-- Every value of a walk is answered by one try. -/
theorem length_walk (current : Value) (path : List Value) :
    (walk current path).length = path.length := by
  induction path generalizing current with
  | nil => rfl
  | cons next rest ih => simp only [walk]; split <;> simp [ih]

end Errand
