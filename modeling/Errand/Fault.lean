import Errand.Value.Text
import Errand.Settings.Issue

/-! # Faults

Everything that can go wrong, each fault with its cause. `Fault.message` is the one place where
faults get their wording, and `Fault.kind` sorts them. Two sorts matter to an execution: a *launch
fault* is what launching a command answers with when it cannot start, and an *interruption* passes
through everything that takes care of faults. -/

namespace Errand

/-- A refusal of the operating system. -/
structure SystemFault where
  number : Option Int
  reason : String
  file : Option String := none
  deriving DecidableEq, Repr

/-- The text of a refusal: its number, its reason and the file that it is about. -/
def SystemFault.message (e : SystemFault) : String :=
  match e.number with
  | none => e.reason
  | some n => "[Errno " ++ toString n ++ "] " ++ e.reason ++
    match e.file with
    | none => ""
    | some f => ": " ++ Text.Quoted.encode f

/-- The sorts of faults. -/
inductive Fault.Kind where
  | value
  | type
  | attribute
  | overflow
  | memory
  | runtime
  | recursion
  | launching
  | decoding
  | system (number : Option Int)
  | base
  | illegalState
  | badTransition
  | settings
  | validation
  | cancelled
  | interrupted
  deriving DecidableEq, Repr

/-- What went wrong. -/
inductive Fault where
  /-- A quote of a command is not closed. -/
  | unclosedQuote
  /-- A command ends in the character that takes away the meaning of the next. -/
  | nothingEscaped
  | emptyCommand
  | notIterable (v : Value)
  | unhashable (v : Value)
  | unknownStatus (v : Value)
  | badTransition (current next : Value)
  | noResult
  | notPath (v : Value)
  | notTextPath (v : Value)
  /-- The place is of a sequence of pairs that should hold named values. -/
  | notPair (place : Nat)
  | badPair (place length : Nat)
  | unknownField (owner name : String)
  | missingFields (owner : String) (names : List String)
  | missingCallbacks (owner : String) (names : List String)
  | badOperands (operator left right : String)
  | badComparison (operator left right : String)
  | intTooLarge
  | negativeSleep
  /-- What is given as the cause of a failure is no fault. -/
  | badCause
  | system (e : SystemFault)
  | nullByte
  | badVariableName
  /-- The search path is given both as a text and as bytes. -/
  | doubledSearchPath
  | undecodable (m : Text.Utf8.Malformed)
  /-- Output is to be read that was not captured. -/
  | notCaptured
  | infiniteTimeout
  | notNumberTimeout
  | timeoutTooLarge
  | timestampTooLarge
  | nullLabel
  /-- A label of a metric cannot be written; the metric is told in full. -/
  | unwritableLabel (label : Value) (metric : String)
  | unknownLevel (name : String)
  | unreadableSetting (field : String) (source : Settings.Source)
  /-- Values stand too deep in each other in a text, the innermost one being a list or having named
  members. -/
  | tooDeep (isList : Bool)
  | invalidSettings (issues : List Settings.Issue)
  | cancelled
  /-- A fault that a launcher or a caller brings along. -/
  | other (kind : Fault.Kind) (message : String)
  deriving Repr

namespace Fault

/-- The sort of a fault. -/
def kind : Fault → Kind
  | unclosedQuote | nothingEscaped | emptyCommand | unknownStatus _ | badPair _ _ | negativeSleep
  | nullByte | badVariableName | doubledSearchPath | notNumberTimeout | nullLabel
  | unknownLevel _ => .value
  | notIterable _ | unhashable _ | notPath _ | notTextPath _ | notPair _ | unknownField _ _
  | missingFields _ _ | missingCallbacks _ _ | badOperands _ _ _ | badComparison _ _ _
  | badCause => .type
  | badTransition _ _ => .badTransition
  | noResult => .illegalState
  | intTooLarge | infiniteTimeout | timeoutTooLarge | timestampTooLarge => .overflow
  | system e => .system e.number
  | unwritableLabel (.bytes _) _ => .type
  | unwritableLabel _ _ | notCaptured => .attribute
  | undecodable _ => .decoding
  | unreadableSetting _ _ => .settings
  | tooDeep _ => .recursion
  | invalidSettings _ => .validation
  | cancelled => .cancelled
  | other k _ => k

/-- What launching answers with when a command cannot be started: a refusal of the system, or a
value that it cannot take. -/
def isLaunchFault (f : Fault) : Bool :=
  match f.kind with
  | .value | .decoding | .system _ => true
  | _ => false

/-- What no handling of faults holds up. -/
def isInterruption (f : Fault) : Bool :=
  match f.kind with
  | .cancelled | .interrupted => true
  | _ => false

/-- Names in a sentence: two with `and` between, more with commas as well. -/
def enumerate : List String → String
  | [] => ""
  | [a] => a
  | [a, b] => a ++ " and " ++ b
  | names =>
    ", ".intercalate names.dropLast ++ ", and " ++ names.getLastD ""

/-- The text about bytes that are no text: the run and its place. -/
def undecodableText (m : Text.Utf8.Malformed) : String :=
  let what := match m.run with
    | [b] => "byte 0x" ++ .ofList (Text.Quoted.hex 2 b.toNat) ++ " in position " ++
      toString m.position
    | run => "bytes in position " ++ toString m.position ++ "-" ++
      toString (m.position + run.length - 1)
  let why := match m.flaw with
    | .badStart => "invalid start byte"
    | .badContinuation => "invalid continuation byte"
    | .cutShort => "unexpected end of data"
  "'utf-8' codec can't decode " ++ what ++ ": " ++ why

/-- The text about a label that is no text. -/
def labelText (label : Value) : String :=
  match label with
  | .bytes _ => "a bytes-like object is required, not 'str'"
  | v => "'" ++ v.kindName ++ "' object has no attribute 'replace'"

/-- The wording of a fault. -/
def message : Fault → String
  | unclosedQuote => "No closing quotation"
  | nothingEscaped => "No escaped character"
  | emptyCommand => "Command must not be empty"
  | notIterable v => "'" ++ v.kindName ++ "' object is not iterable"
  | unhashable v => "unhashable type: '" ++ v.kindName ++ "'"
  | unknownStatus v => v.quoted ++ " is not a valid ExecutionStatus"
  | badTransition a b => "Invalid state transition: " ++ a.display ++ " -> " ++ b.display
  | noResult => "The process has not exited yet therefore no result is available ..."
  | notPath v => "expected str, bytes or os.PathLike object, not " ++ v.kindName
  | notTextPath v =>
    "argument should be a str object or an os.PathLike object returning str, not <class '" ++
      v.kindName ++ "'>"
  | notPair i =>
    "cannot convert dictionary update sequence element #" ++ toString i ++ " to a sequence"
  | badPair i n =>
    "dictionary update sequence element #" ++ toString i ++ " has length " ++ toString n ++
      "; 2 is required"
  | unknownField owner name =>
    owner ++ ".__init__() got an unexpected keyword argument '" ++ name ++ "'"
  | missingFields owner names =>
    owner ++ ".__init__() missing " ++ toString names.length ++ " required positional argument" ++
      (if names.length = 1 then "" else "s") ++ ": " ++
      enumerate (names.map fun n => "'" ++ n ++ "'")
  | missingCallbacks owner names =>
    "Can't instantiate abstract class " ++ owner ++ " with abstract method" ++
      (if names.length = 1 then "" else "s") ++ " " ++ ", ".intercalate names
  | badOperands op l r =>
    "unsupported operand type(s) for " ++ op ++ ": '" ++ l ++ "' and '" ++ r ++ "'"
  | badComparison op l r =>
    "'" ++ op ++ "' not supported between instances of '" ++ l ++ "' and '" ++ r ++ "'"
  | intTooLarge => "int too large to convert to float"
  | badCause => "exception cause must be None or derive from BaseException"
  | negativeSleep => "sleep length must be non-negative"
  | system e => e.message
  | nullByte => "embedded null byte"
  | badVariableName => "illegal environment variable name"
  | doubledSearchPath => "env cannot contain 'PATH' and b'PATH' keys"
  | undecodable m => undecodableText m
  | notCaptured => "'" ++ Value.null.kindName ++ "' object has no attribute 'decode'"
  | infiniteTimeout => "cannot convert float infinity to integer"
  | notNumberTimeout => "cannot convert float NaN to integer"
  | timeoutTooLarge => "timeout is too large"
  | timestampTooLarge => "timestamp too large to convert to C _PyTime_t"
  | nullLabel => "Label value cannot be None"
  | unwritableLabel label metric =>
    "(" ++ Text.Quoted.encode (labelText label) ++ ", " ++ metric ++ ")"
  | unknownLevel name => "Unknown level: " ++ Text.Quoted.encode name
  | unreadableSetting field source =>
    "error parsing value for field \"" ++ field ++ "\" from source \"" ++ source.name ++ "\""
  | tooDeep isList =>
    "maximum recursion depth exceeded while decoding a JSON " ++
      (if isList then "array" else "object") ++ " from a unicode string"
  | invalidSettings issues =>
    toString issues.length ++ " validation error" ++ (if issues.length = 1 then "" else "s") ++
      " for Settings"
  | cancelled => ""
  | other _ text => text

/-- An interruption is no launch fault. -/
theorem not_isLaunchFault_of_isInterruption {f : Fault} (h : f.isInterruption = true) :
    f.isLaunchFault = false := by
  unfold isInterruption at h
  unfold isLaunchFault
  split at h <;> simp_all

end Fault

end Errand
