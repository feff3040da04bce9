import Errand.Fault

/-! # Settings

What a program runs with, where nothing else is asked for: its name and version, how much it logs,
how long it waits and what counts as a success. Each field of the settings is declared with a name,
a kind of values and a default (`Settings.Field`). -/

namespace Errand

/-- The settings of a program. -/
structure Settings where
  appName : String
  appVersion : String
  debug : Bool
  logLevel : String
  sleepTimeMs : Int
  defaultTimeoutSeconds : Option Float
  successExitValues : List Int
  metricsEnabled : Bool

namespace Settings

/-- The kinds of values that are declared. -/
inductive Kind where
  | text
  | bool
  /-- A whole number above zero. -/
  | positive
  | optionalFloat
  | intList
  deriving DecidableEq, Repr

/-- The values of a kind. -/
def Kind.Carrier : Kind → Type
  | text => String
  | bool => Bool
  | positive => Int
  | optionalFloat => Option Float
  | intList => List Int

/-- A value of a kind as any value. -/
def Kind.toValue : (k : Kind) → k.Carrier → Value
  | text => .text
  | bool => .bool
  | positive => .int
  | optionalFloat => fun x : Option Float => (x.map Value.float).getD .null
  | intList => fun ns : List Int => .list (ns.map .int)

/-- The fields of the settings. -/
inductive Field where
  | appName
  | appVersion
  | debug
  | logLevel
  | sleepTimeMs
  | defaultTimeoutSeconds
  | successExitValues
  | metricsEnabled
  deriving DecidableEq, Repr

namespace Field

/-- Every field, in order. -/
def all : List Field :=
  [appName, appVersion, debug, logLevel, sleepTimeMs, defaultTimeoutSeconds, successExitValues,
    metricsEnabled]

/-- The name of a field. -/
def name : Field → String
  | appName => "APP_NAME"
  | appVersion => "APP_VERSION"
  | debug => "DEBUG"
  | logLevel => "LOG_LEVEL"
  | sleepTimeMs => "EXEC_SLEEP_TIME_MS"
  | defaultTimeoutSeconds => "EXEC_DEFAULT_TIMEOUT_SECONDS"
  | successExitValues => "EXEC_SUCCESS_EXIT_VALUES"
  | metricsEnabled => "METRICS_ENABLED"

/-- The kind of values of a field. -/
def kind : Field → Kind
  | appName | appVersion | logLevel => .text
  | debug | metricsEnabled => .bool
  | sleepTimeMs => .positive
  | defaultTimeoutSeconds => .optionalFloat
  | successExitValues => .intList

/-- The default of a field. -/
def default : (f : Field) → f.kind.Carrier
  | appName => "procexec"
  | appVersion => "0.1.0"
  | debug => false
  | logLevel => "INFO"
  | sleepTimeMs => (50 : Int)
  | defaultTimeoutSeconds => (none : Option Float)
  | successExitValues => ([0] : List Int)
  | metricsEnabled => true

end Field

/-- The value of a field. -/
def get (x : Settings) : (f : Field) → f.kind.Carrier
  | .appName => x.appName
  | .appVersion => x.appVersion
  | .debug => x.debug
  | .logLevel => x.logLevel
  | .sleepTimeMs => x.sleepTimeMs
  | .defaultTimeoutSeconds => x.defaultTimeoutSeconds
  | .successExitValues => x.successExitValues
  | .metricsEnabled => x.metricsEnabled

/-- The settings as values by name. -/
def entries (x : Settings) : List (String × Value) :=
  Field.all.map fun f => (f.name, f.kind.toValue (x.get f))

end Settings

end Errand
