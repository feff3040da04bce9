import Errand.Value.Text
import Errand.Decimal.Numeral

/-! # Options of the command line

The arguments of the program are options, and then a command with everything that belongs to it.
Each argument before the first `--` is looked at by itself: it is a word, an option, or something
that looks like an option and is none. An option may be shortened as long as it is the only one
that begins so, may have its value attached, and options of one letter may share a dash. The first
word that is no option's value begins the command, which takes all that follows.

* `Options.parse` reads arguments or tells what is wrong with them. -/

namespace Errand

/-- The options there are. -/
inductive Flag where
  | help
  | timeout
  | successExitValue
  | background
  | verbose
  deriving DecidableEq, Repr

namespace Flag

/-- Every option, in the order of the help text. -/
def all : List Flag := [help, timeout, successExitValue, background, verbose]

/-- The letter of an option. -/
def letter : Flag → Char
  | help => 'h'
  | timeout => 't'
  | successExitValue => 's'
  | background => 'b'
  | verbose => 'v'

/-- The long form of an option. -/
def long : Flag → String
  | help => "--help"
  | timeout => "--timeout"
  | successExitValue => "--success-exit-value"
  | background => "--background"
  | verbose => "--verbose"

/-- The short form of an option. -/
def short (f : Flag) : String := .ofList ['-', f.letter]

/-- Whether an option has a value. -/
def takesValue : Flag → Bool
  | timeout => true
  | successExitValue => true
  | _ => false

/-- Both forms of an option, as an error text names it. -/
def title (f : Flag) : String := f.short ++ "/" ++ f.long

/-- The option of a letter. -/
def ofLetter? (c : Char) : Option Flag := all.find? fun f => f.letter == c

/-- The option of a form, and whether it is the short one. -/
def ofForm? (s : String) : Option (Flag × Bool) :=
  match all.find? fun f => f.short == s with
  | some f => some (f, true)
  | none => (all.find? fun f => f.long == s).map fun f => (f, false)

end Flag

/-- What is wrong with arguments. -/
inductive UsageError where
  | ambiguous (argument : String) (forms : List String)
  | valueMissing (f : Flag)
  | notFloat (f : Flag) (text : String)
  | notInt (f : Flag) (text : String)
  | valueIgnored (f : Flag) (text : String)
  | unrecognized (arguments : List String)
  | noCommand
  deriving DecidableEq, Repr

/-- The wording of what is wrong with arguments. -/
def UsageError.message : UsageError → String
  | ambiguous a forms =>
    "ambiguous option: " ++ a ++ " could match " ++ ", ".intercalate forms
  | valueMissing f => "argument " ++ f.title ++ ": expected one argument"
  | notFloat f s =>
    "argument " ++ f.title ++ ": invalid float value: " ++ Text.Quoted.encode s
  | notInt f s => "argument " ++ f.title ++ ": invalid int value: " ++ Text.Quoted.encode s
  | valueIgnored f s =>
    "argument " ++ f.title ++ ": ignored explicit argument " ++ Text.Quoted.encode s
  | unrecognized args => "unrecognized arguments: " ++ " ".intercalate args
  | noCommand => "no command given"

/-- What an argument is, looked at by itself. -/
inductive Token where
  | word
  | separator
  | unknown
  /-- An option, whether it has its short form, and what is attached to it. -/
  | option (f : Flag) (isShort : Bool) (attached : Option String)
  deriving DecidableEq, Repr

namespace Token

/-- A text before its first equals sign and after it, if it has one. -/
def splitEquals? (cs : List Char) : Option (List Char × List Char) :=
  match cs.dropWhile (· != '=') with
  | [] => none
  | _ :: value => some (cs.takeWhile (· != '='), value)

/-- Whether an argument looks like a negative number: digits, or digits after a point, and maybe
the end of a line. -/
def isNegativeNumber (cs : List Char) : Bool :=
  let isDigit := fun c => (Text.digitValue? c).isSome
  let onlyDigits := fun (ds : List Char) => !ds.isEmpty && ds.all isDigit
  match cs with
  | '-' :: body =>
    let body := if body.getLast? == some '\n' then body.dropLast else body
    onlyDigits body ||
      match body.dropWhile isDigit with
      | '.' :: part => onlyDigits part
      | _ => false
  | _ => false

/-- The options that an argument can be short for, each with its form and what is attached. -/
def candidates (cs : List Char) : List (Flag × Bool × Option String) :=
  match cs with
  | '-' :: '-' :: _ =>
    let (stem, value) := match splitEquals? cs with
      | some (stem, value) => (stem, some (String.ofList value))
      | none => (cs, none)
    (Flag.all.filter fun f => stem.isPrefixOf f.long.toList).map fun f => (f, false, value)
  | '-' :: c :: rest =>
    match Flag.ofLetter? c with
    | some f => [(f, true, some (.ofList rest))]
    | none => []
  | _ => []

/-- What an argument is that begins with a dash and is no option as it stands. -/
def ofDashed (argument : String) (cs : List Char) : Except UsageError Token :=
  match candidates cs with
  | [(f, isShort, value)] => .ok (.option f isShort value)
  | [] => .ok (if isNegativeNumber cs || cs.contains ' ' then .word else .unknown)
  | several => .error (.ambiguous argument (several.map fun c => c.1.long))

/-- What an argument before the first `--` is. -/
def ofArgument (argument : String) : Except UsageError Token :=
  let cs := argument.toList
  match cs with
  | '-' :: _ :: _ =>
    match Flag.ofForm? argument with
    | some (f, isShort) => .ok (.option f isShort none)
    | none =>
      match splitEquals? cs with
      | some (form, value) =>
        match Flag.ofForm? (.ofList form) with
        | some (f, isShort) => .ok (.option f isShort (some (.ofList value)))
        | none => ofDashed argument cs
      | none => ofDashed argument cs
  | _ => .ok .word

/-- What the arguments are, each with its text. -/
def ofArguments : List String → Except UsageError (List (String × Token))
  | [] => .ok []
  | a :: rest =>
    if a == "--" then .ok ((a, separator) :: rest.map fun w => (w, word))
    else do return (a, ← ofArgument a) :: (← ofArguments rest)

end Token

/-- What the arguments ask for. -/
structure Options where
  /-- The command and everything that belongs to it. -/
  command : List String := []
  timeout : Value := .null
  successExitValues : Option (List Value) := none
  background : Bool := false
  verbose : Bool := false

namespace Options

/-- What reading arguments leads to. -/
inductive Parsed where
  | options (o : Options)
  | help

/-- An option and its value. -/
abbrev Action := Flag × Option String

/-- The value of an option; the separator is no value, and none is left then. -/
def readValue (f : Flag) (text : String) : Except UsageError Value :=
  if text == "--" then .ok (.list [])
  else match f with
    | .timeout => match Numeral.ofText? text with
      | some n => .ok (.float n.toDouble)
      | none => .error (.notFloat f text)
    | _ => match readWhole? text with
      | some n => .ok (.int n)
      | none => .error (.notInt f text)

/-- The options after an option has acted. -/
def act (o : Options) (a : Action) : Except UsageError Options :=
  match a with
  | (.timeout, some text) => do return { o with timeout := ← readValue .timeout text }
  | (.successExitValue, some text) => do
    let v ← readValue .successExitValue text
    return { o with successExitValues := some (o.successExitValues.getD [] ++ [v]) }
  | (.background, _) => .ok { o with background := true }
  | (.verbose, _) => .ok { o with verbose := true }
  | _ => .ok o

/-- The options after several have acted in order; none when one of them asked for help. -/
def actAll (o : Options) : List Action → Except UsageError (Option Options)
  | [] => .ok (some o)
  | (.help, _) :: _ => .ok none
  | a :: rest => do actAll (← o.act a) rest

/-- The options that share a dash with the first one, and the last one of them with what is
attached to it; one that needs a value and has none attached comes without. -/
def bundle (f : Flag) (isShort : Bool) : List Char → Except UsageError (List Action × Flag)
  | [] =>
    if f.takesValue then .ok ([(f, some "")], f) else .error (.valueIgnored f "")
  | c :: rest =>
    if f.takesValue then .ok ([(f, some (.ofList (c :: rest)))], f)
    else if isShort then
      match Flag.ofLetter? c with
      | none => .error (.valueIgnored f (.ofList (c :: rest)))
      | some g =>
        if rest.isEmpty then .ok ([(f, none), (g, none)], g)
        else do
          let (more, last) ← bundle g isShort rest
          return ((f, none) :: more, last)
    else .error (.valueIgnored f (.ofList (c :: rest)))

/-- The options of one argument; the last one may still need a value. -/
def actionsOf (f : Flag) (isShort : Bool) (attached : Option String) :
    Except UsageError (List Action × Flag) :=
  match attached with
  | none => .ok ([(f, none)], f)
  | some text => bundle f isShort text.toList

/-- Whether the last of some options needs a value that is not attached. -/
def needsValue (actions : List Action) (last : Flag) : Bool :=
  last.takesValue && (actions.getLast?.map (·.2.isNone)).getD false

/-- The options with their last one given a value. -/
def giveValue (actions : List Action) (last : Flag) (value : String) : List Action :=
  actions.dropLast ++ [(last, some value)]

/-- Reads what the arguments are; the second argument holds those that are no options. -/
def read (o : Options) (unknown : List String) :
    List (String × Token) → Except UsageError Parsed
  | [] => finish o unknown
  | (text, .word) :: rest => finish { o with command := text :: rest.map (·.1) } unknown
  | (text, .separator) :: rest => finish { o with command := text :: rest.map (·.1) } unknown
  | (text, .unknown) :: rest => read o (unknown ++ [text]) rest
  | (_, .option f isShort attached) :: rest => do
    let (actions, last) ← actionsOf f isShort attached
    if needsValue actions last then
      match rest with
      | (value, .word) :: rest =>
        match ← o.actAll (giveValue actions last value) with
        | some o => read o unknown rest
        | none => return .help
      | _ => throw (.valueMissing last)
    else
      match ← o.actAll actions with
      | some o => read o unknown rest
      | none => return .help
where
  /-- The end of the arguments: those that are no options are told. -/
  finish (o : Options) (unknown : List String) : Except UsageError Parsed :=
    if unknown.isEmpty then .ok (.options o) else .error (.unrecognized unknown)

/-- Reads arguments. -/
def parse (arguments : List String) : Except UsageError Parsed := do
  read {} [] (← Token.ofArguments arguments)

/-- The options as values by name. -/
def entries (o : Options) : List (String × Value) :=
  [("command", .list (o.command.map .text)), ("timeout", o.timeout),
    ("success_exit_values", (o.successExitValues.map Value.list).getD .null),
    ("background", .bool o.background), ("verbose", .bool o.verbose)]

end Options

end Errand
