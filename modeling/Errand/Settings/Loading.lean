import Errand.Settings.Library
import Errand.Settings.Number

/-! # Building settings

What is built here is checked as follows: texts stand for values of most kinds, truth values and
numbers for each other where nothing is lost, and a list holds whole numbers. Every value that is
none of its field is an issue, and all issues are told. A caller may say what all names in the
environment and in the file begin with.

`library` is the library that builds settings so, with `load`. -/

namespace Errand.Settings

open Text

/-! ## Values of fields -/

/-- A complaint about a value at a place. -/
def Place.complain {α : Type} (p : Place) (v : Value) (c : Complaint) : Checked α :=
  .error [⟨p.field, p.index, v, c⟩]

/-- The text in a value, if it is a text or bytes; bytes that are no text are complained about. -/
def textIn (p : Place) (v : Value) (c : Complaint) : Checked (Option String) :=
  match v with
  | .bytes bs => match Utf8.decode? bs with
    | .ok s => .ok (some s)
    | .error _ => p.complain v c
  | _ => .ok v.text?

/-- A text. -/
def readText (p : Place) (v : Value) : Checked String := do
  match ← textIn p v .undecodableString with
  | some s => pure s
  | none => p.complain v .notString

/-- Whether a whole number is one of sixty-four bits with a sign. -/
def fitsWord (n : Int) : Bool := -(Nat.pow 2 63 : Int) ≤ n && n < Nat.pow 2 63

/-- Whether a whole number that comes as a double is taken for one: it has to be nearer to zero than
the least number of sixty-four bits. -/
def fitsDoubleWord (n : Int) : Bool := n.natAbs < Nat.pow 2 63

/-- The whole number that a double is, if it is one that is taken. -/
def wordOfDouble? (x : Float) : Option Int :=
  match Dyadic.ofDouble x with
  | .finite d => d.toInt?.filter fitsDoubleWord
  | _ => none

/-- The words for true, in lower case. -/
def trueWords : List String := ["1", "true", "t", "yes", "y", "on"]

/-- The words for false, in lower case. -/
def falseWords : List String := ["0", "false", "f", "no", "n", "off"]

/-- A truth value: itself, the numbers 1 and 0, or a word in any case. -/
def readBool (p : Place) (v : Value) : Checked Bool := do
  match ← textIn p v .unreadableBool with
  | some s =>
    let word := String.ofList (s.toList.map Char.toLower)
    if trueWords.contains word then pure true
    else if falseWords.contains word then pure false
    else p.complain v .unreadableBool
  | none =>
    match v with
    | .bool b => pure b
    | .int n =>
      if n = 1 then pure true
      else if n = 0 then pure false
      else p.complain v (if fitsWord n then .unreadableBool else .notBool)
    | .float x =>
      if x == 1.0 then pure true
      else if x == 0.0 then pure false
      else p.complain v (if (wordOfDouble? x).isSome then .unreadableBool else .notBool)
    | _ => p.complain v .notBool

/-- A whole number: itself, a truth value, a double without a fraction that is not too large, or a
text of digits. -/
def readInt (p : Place) (v : Value) : Checked Int := do
  match ← textIn p v .unreadableInt with
  | some s =>
    match WholeText.read s with
    | .value n => pure n
    | .tooLong => p.complain v .tooLongInt
    | .malformed => p.complain v .unreadableInt
  | none =>
    match v with
    | .bool b => pure (if b then 1 else 0)
    | .int n => pure n
    | .float x =>
      match Dyadic.ofDouble x with
      | .finite d => match d.toInt? with
        | some n => if fitsDoubleWord n then pure n else p.complain v .tooLongInt
        | none => p.complain v .fractionalInt
      | _ => p.complain v .notFinite
    | _ => p.complain v .notInt

/-- A whole number above zero. -/
def readPositive (p : Place) (v : Value) : Checked Int := do
  let n ← readInt p v
  if 0 < n then pure n else p.complain v .notPositive

/-- A number, or null for none. -/
def readOptionalFloat (p : Place) (v : Value) : Checked (Option Float) := do
  match ← textIn p v .unreadableFloat with
  | some s =>
    match readDouble? s with
    | some x => pure (some x)
    | none => p.complain v .unreadableFloat
  | none =>
    match v with
    | .null => pure none
    | .bool b => pure (some (if b then 1.0 else 0.0))
    | .float x => pure (some x)
    | .int n => match doubleOfInt? n with
      | some x => pure (some x)
      | none => p.complain v .notFloat
    | _ => p.complain v .notFloat

/-- The issues of a value that is none. -/
def issuesOf {α : Type} : Checked α → List Issue
  | .ok _ => []
  | .error issues => issues

/-- Whole numbers, each at its place; the issues of all members are told. -/
def readMembers (field : String) (index : Nat) : List Value → Checked (List Int)
  | [] => .ok []
  | v :: rest =>
    match readInt ⟨field, some index⟩ v, readMembers field (index + 1) rest with
    | .ok n, .ok ns => .ok (n :: ns)
    | first, others => .error (issuesOf first ++ issuesOf others)

/-- A list of whole numbers. -/
def readIntList (p : Place) (v : Value) : Checked (List Int) :=
  match v with
  | .list vs => readMembers p.field 0 vs
  | _ => p.complain v .notList

/-- A value of a kind. -/
def check : Check
  | .text => readText
  | .bool => readBool
  | .positive => readPositive
  | .optionalFloat => readOptionalFloat
  | .intList => readIntList

/-! ## Settings -/

/-- The value that a source gives a field as a text, unless the text should be JSON and is not. -/
def rawValue (source : Source) (f : Field) (text : Option String) : Except Fault (Option Value) :=
  match text with
  | none => .ok none
  | some s =>
    if f.kind.isJson then
      match Json.read jsonLimits s with
      | .error .malformed => .error (.unreadableSetting f.name source)
      | .error (.tooDeep isList) => .error (.tooDeep isList)
      | .ok .null => .ok none
      | .ok v => .ok (some v)
    else .ok (some (.text s))

/-- The name under which a caller says what all names begin with. -/
def beginningName : String := "_env_prefix"

namespace Sources

/-- What stands before the name of a field in the environment and in the file. -/
def beginning (s : Sources) : String :=
  ((s.given.lookup beginningName).bind Value.text?).getD ""

/-- The name of a field in the environment and in the file. -/
def nameOf (s : Sources) (f : Field) : String := s.beginning ++ f.name

/-- The text that the file gives a name. -/
def inFile? (s : Sources) (name : String) : Option String :=
  s.file.bind fun content => (EnvFile.find? (EnvFile.read s.inEnvironment? content) name).getD none

/-- The values of a field by the source that they come from, the strongest source first. -/
def candidates (s : Sources) (f : Field) : Except Fault (List (Option Value)) := do
  return [s.given.lookup f.name, ← rawValue .environment f (s.inEnvironment? (s.nameOf f)),
    ← rawValue .file f (s.inFile? (s.nameOf f))]

/-- The value that decides a field. -/
def raw? (s : Sources) (f : Field) : Except Fault (Option Value) := do
  return layered Value.overlay (← s.candidates f)

end Sources

/-- The settings, if every field has a value; else the issues of all fields. -/
def assemble (raw : Field → Option Value) : Checked Settings :=
  let get := fun f : Field => f.checked check (raw f)
  match get .appName, get .appVersion, get .debug, get .logLevel, get .sleepTimeMs,
    get .defaultTimeoutSeconds, get .successExitValues, get .metricsEnabled with
  | .ok a, .ok b, .ok c, .ok d, .ok e, .ok f, .ok g, .ok h => .ok ⟨a, b, c, d, e, f, g, h⟩
  | _, _, _, _, _, _, _, _ => .error (Field.all.flatMap fun f => issuesOf (get f))

/-- The settings that the sources give. A text that should be JSON and is not is told first, even
where a stronger source decides; no other field has such a text. -/
def load (s : Sources) : Except Fault Settings :=
  match s.raw? .successExitValues with
  | .error f => .error f
  | .ok _ =>
    match assemble fun f => (s.raw? f).toOption.join with
    | .ok settings => .ok settings
    | .error issues => .error (.invalidSettings issues)

/-- Settings of which something is known are there. -/
theorem exists_load {s : Sources} {α : Type} {f : Settings → α} {a : α}
    (h : (load s).toOption.map f = some a) : ∃ x, load s = .ok x ∧ f x = a := by
  cases hx : load s with
  | error e =>
    rw [hx] at h
    cases h
  | ok x =>
    rw [hx] at h
    exact ⟨x, rfl, Option.some.inj h⟩

/-- The library that builds settings so. -/
def library : Library where
  inFile? environment content name :=
    (EnvFile.find? (EnvFile.read environment content) name).getD none
  overlay := Value.overlay
  check := check
  load := load

/-- Every default passes the check of its field. -/
theorem check_default (f : Field) :
    library.check f.kind ⟨f.name, none⟩ (f.kind.toValue f.default) = .ok f.default := by
  cases f <;> rfl

end Errand.Settings
