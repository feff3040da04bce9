import Errand.Execution.Interleaving

/-! # The child of an execution

The process that an execution launched is running, or it has ended with an exit value, and it may
end by itself at any moment. A *watch* is an execution on its way together with its process. In a
step the process ends, or the execution asks one question. Timeouts and cancellations are answers
like others and may come wherever they can; but what an answer says of the process is true: who is
told that it has ended is told so after its end.

What an execution did to its process and heard of it, and what it told its handler, are its
*marks*. -/

namespace Errand

/-- The state of a process. -/
inductive Child where
  | running
  | exited (exitValue : Int)
  deriving DecidableEq, Repr

namespace Child

/-- Whether the process has ended. -/
def isOver : Child → Bool
  | running => false
  | exited _ => true

/-- The answer about the output of a process is true of it, as it is when the answer comes. Waiting
ends well after the end of the process, and then gives both outputs, or with a timeout or a
cancellation. -/
def Fits (c : Child) : OutputAnswer → Prop
  | .exited n (some _) (some _) => c = exited n
  | .exited _ _ _ => False
  | .timedOut => True
  | .cancelled (some n) => c = exited n
  | .cancelled none => True
  | .raised _ => False

end Child

/-- What an exchange is to a process or to a handler. -/
inductive Mark where
  | launched
  | waited (answer : OutputAnswer)
  | killed
  /-- A kill failed. -/
  | spared (f : Fault)
  | reaped (answer : ReapAnswer)
  | told (call : Callback)

namespace Mark

/-- Whether this is a kill. -/
def isKilled : Mark → Bool
  | killed => true
  | _ => false

/-- Whether this is a call of a handler. -/
def isTold : Mark → Bool
  | told _ => true
  | _ => false

/-- What a mark says is true of the process. A kill does not fail. -/
def Fits (c : Option Child) : Mark → Prop
  | waited answer => ∃ child, c = some child ∧ child.Fits answer
  | reaped .exited => ∃ n, c = some (.exited n)
  | spared _ => False
  | _ => True

end Mark

/-- The mark of an exchange, if it leaves one. -/
def Exchange.mark? : Exchange → Option Mark
  | ⟨.start _, .ok _⟩ => some .launched
  | ⟨.output _, answer⟩ => some (.waited answer)
  | ⟨.kill, .ok _⟩ => some .killed
  | ⟨.kill, .error f⟩ => some (.spared f)
  | ⟨.reap, answer⟩ => some (.reaped answer)
  | ⟨.call c, _⟩ => some (.told c)
  | _ => none

/-- The process after an exchange: a new one if it was launched. -/
def Exchange.child (c : Option Child) : Exchange → Option Child
  | ⟨.start _, .ok _⟩ => some .running
  | _ => c

/-- What an exchange says is true of the process. -/
def Exchange.Fits (c : Option Child) (e : Exchange) : Prop := ∀ m, e.mark? = some m → m.Fits c

/-- An execution on its way and the process that it launched, if it did. -/
structure Watch where
  party : Party
  child : Option Child := none

namespace Watch

/-- The marks so far, in order. -/
def marks (w : Watch) : List Mark := w.party.transcript.filterMap Exchange.mark?

/-- The process ends, or the execution asks one question. -/
inductive Step : Watch → Watch → Prop where
  | exit {p : Party} (n : Int) : Step ⟨p, some .running⟩ ⟨p, some (.exited n)⟩
  | turn {p : Party} {c : Option Child} {q : Query} {next : q.Answer → Course Unit}
      (a : q.Answer) : p.rest = .ask q next → Exchange.Fits c ⟨q, a⟩ →
      Step ⟨p, c⟩ ⟨p.hear q next a, Exchange.child c ⟨q, a⟩⟩

/-- What can become of a task of which nothing was done. -/
inductive Reachable (t : Task) : Watch → Prop where
  | start : Reachable t { party := Party.fresh t }
  | step {v w : Watch} : Reachable t v → Step v w → Reachable t w

end Watch

end Errand
