/-! # Signals

The signals that processes send each other, by number and name, and what a process does about one
that it takes no care of. -/

namespace Errand.Shell.Signal

/-- The names of the signals, from 1 on. -/
def names : List String :=
  let early := ["RTMIN"] ++ (List.range 15).map fun n => "RTMIN+" ++ toString (n + 1)
  let late := ((List.range 14).map fun n => "RTMAX-" ++ toString (14 - n)) ++ ["RTMAX"]
  ["HUP", "INT", "QUIT", "ILL", "TRAP", "ABRT", "BUS", "FPE", "KILL", "USR1", "SEGV", "USR2",
    "PIPE", "ALRM", "TERM", "16", "CHLD", "CONT", "STOP", "TSTP", "TTIN", "TTOU", "URG",
    "XCPU", "XFSZ", "VTALRM", "PROF", "WINCH", "IO", "PWR", "SYS", "32", "33"] ++ early ++ late

/-- The name of the end of a shell, where a signal may stand. -/
def exitName : String := "EXIT"

/-- The signal that a number or a name stands for; the end of a shell is 0. Names may be in small
letters. -/
def ofText? (s : String) : Option Nat :=
  let cs := s.toList
  if !cs.isEmpty && cs.all Char.isDigit then
    let n := cs.foldl (fun n c => n * 10 + (c.toNat - 48)) 0
    if n ≤ names.length then some n else none
  else
    let name := String.ofList (cs.map Char.toUpper)
    if name == exitName then some 0 else (names.findIdx? (· == name)).map (· + 1)

/-- The name of a signal. -/
def name (n : Nat) : String :=
  if n = 0 then exitName else (names[n - 1]?).getD (toString n)

/-- What is said about a process that a signal has ended. -/
def description (n : Nat) : String :=
  ([(1, "Hangup"), (3, "Quit"), (4, "Illegal instruction"), (5, "Trace/breakpoint trap"),
    (6, "Aborted"), (7, "Bus error"), (8, "Floating point exception"), (9, "Killed"),
    (10, "User defined signal 1"), (11, "Segmentation fault"), (12, "User defined signal 2"),
    (14, "Alarm clock"), (15, "Terminated")].lookup n).getD ("Signal " ++ toString n)

/-- What a signal does to a process that takes no care of it. -/
inductive Default where
  | ends
  | stops
  | nothing
  deriving DecidableEq, Repr

/-- What a signal does to a process that takes no care of it. -/
def default (n : Nat) : Default :=
  if n = 0 || n = 17 || n = 18 || n = 23 || n = 28 then .nothing
  else if 19 ≤ n && n ≤ 22 then .stops
  else .ends

/-- Whether a process can take care of a signal. -/
def canBeHandled (n : Nat) : Bool := n != 9 && n != 19

end Errand.Shell.Signal
