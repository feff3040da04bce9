import Errand.EnvFile
import Errand.Json
import Errand.Settings

/-! # Libraries that build settings

The fields of the settings are declared, and a library builds the settings of them. It looks a field
up under its name with the caller, then in the environment, then in a file of variables, lays what
it finds over each other, and checks that for the kind of the field. How it reads a file and what it
checks is its own matter (`Library`); `Library.Documented` is what can be relied on. -/

namespace Errand.Settings

/-! ### Sources -/

/-- Where settings are looked up: with the caller, in the environment, and in a file of
variables, which may be missing. -/
structure Sources where
  given : List (String × Value) := []
  environment : List (String × String) := []
  file : Option String := none

/-- The name under which a caller turns the file off, with null. -/
def fileName : String := "_env_file"

namespace Sources

/-- The sources of a caller in some environment, and a file that the caller may turn off. -/
def ofCaller (given : List (String × Value)) (environment : List (String × String))
    (content : Option String) : Sources where
  given
  environment
  file := match given.lookup fileName with
    | some .null => none
    | _ => content

variable (s : Sources)

/-- The value of a variable of the environment. -/
def inEnvironment? (name : String) : Option String := s.environment.lookup name

/-- Whether the caller gives values of fields only. All names that begin with an underscore are for
the library itself; of these the caller may turn off the file. -/
def GivesFields : Prop :=
  ∀ e ∈ s.given, e.1.toList.head? = some '_' → e = (fileName, .null)

end Sources

/-! ### Values -/

/-- The value of a field, or the issues with it. -/
abbrev Checked (α : Type) := Except (List Issue) α

/-- The place of a value: a field, or a place in the list of a field. -/
structure Place where
  field : String
  index : Option Nat := none

/-- A check of the values of each kind. -/
abbrev Check := (k : Kind) → Place → Value → Checked k.Carrier

/-- Whether values of a kind are JSON where they come as texts. -/
def Kind.isJson : Kind → Bool
  | intList => true
  | text | bool | positive | optionalFloat => false

/-- How much of a JSON text is read. -/
def jsonLimits : Json.Limits where
  digits := Numeral.digitLimit
  depth := 975

/-- The value that a text gives a field. Null in JSON is no value. -/
def Field.written? (f : Field) (text : String) : Option Value :=
  if f.kind.isJson then
    match Json.read jsonLimits text with
    | .ok .null => none
    | .ok v => some v
    | .error _ => none
  else some (.text text)

/-- The values that are there, laid over each other, the first one on top. -/
def layered (overlay : Value → Value → Value) (values : List (Option Value)) : Option Value :=
  values.foldl (fun top below => match top, below with
    | some v, some w => some (overlay v w)
    | some v, none => some v
    | none, w => w) none

/-- A field: the value that decides it, checked, or its default. -/
def Field.checked (check : Check) (f : Field) : Option Value → Checked f.kind.Carrier
  | none => .ok f.default
  | some v => check f.kind ⟨f.name, none⟩ v

/-! ### Libraries -/

/-- A library that builds settings. -/
structure Library where
  /-- The text that a file of this content gives a name in an environment, if it gives one. -/
  inFile? (environment : String → Option String) (content name : String) : Option String
  /-- A value over that of a weaker source. -/
  overlay : Value → Value → Value
  check : Check
  load : Sources → Except Fault Settings

namespace Library

variable (l : Library) (s : Sources) (f : Field)

/-- The values of a field by the source that they come from, the strongest source first. -/
def values : List (Option Value) :=
  [s.given.lookup f.name,
    (s.inEnvironment? f.name).bind f.written?,
    (s.file.bind fun content => l.inFile? s.inEnvironment? content f.name).bind f.written?]

/-- The value of the first source that has one. -/
def first? : Option Value := (l.values s f).findSome? id

/-- What the documentation of a library says of the fields that are declared. -/
structure Documented : Prop where
  /-- In settings that were built every field has been checked, or is its default. -/
  checked_of_load : ∀ s x, s.GivesFields → l.load s = .ok x →
    ∀ f : Field, f.checked l.check (layered l.overlay (l.values s f)) = .ok (x.get f)
  /-- A stronger source hides a weaker one, if not both have named members. -/
  overlay_eq : ∀ v w, (∀ es fs, v = .dict es → w ≠ .dict fs) → l.overlay v w = v
  /-- Named members of both sources are gathered. -/
  overlay_dict : ∀ es fs, ∃ gs, l.overlay (.dict es) (.dict fs) = .dict gs
  /-- No kind of values has named members. -/
  check_dict : ∀ k p es a, l.check k p (.dict es) ≠ .ok a
  /-- What is to be above zero is. -/
  pos_of_check : ∀ p v (n : Int), l.check .positive p v = .ok n → 0 < n

end Library

end Errand.Settings
