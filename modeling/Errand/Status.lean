/-! # The states of an execution

An execution waits, runs, and ends in success or failure; it may also fail before it runs. -/

namespace Errand

/-- The state of an execution. -/
inductive Status where
  | pending
  | running
  | succeeded
  | failed
  deriving DecidableEq, Repr

namespace Status

/-- Every state, in the order of an execution. -/
def all : List Status := [pending, running, succeeded, failed]

/-- The name of a state, which is also its text. -/
def name : Status → String
  | pending => "PENDING"
  | running => "RUNNING"
  | succeeded => "SUCCEEDED"
  | failed => "FAILED"

/-- The state of that name. -/
def ofName? (s : String) : Option Status :=
  all.find? fun st => st.name == s

/-- The states that may follow a state. -/
def successors : Status → List Status
  | pending => [failed, running]
  | running => [failed, succeeded]
  | succeeded => []
  | failed => []

/-- Whether an execution in this state has ended. -/
def isTerminal : Status → Bool
  | pending => false
  | running => false
  | succeeded => true
  | failed => true

/-- Every state is found under its name. -/
@[simp] theorem ofName?_name (s : Status) : ofName? s.name = some s := by
  cases s <;> decide

end Status

end Errand
