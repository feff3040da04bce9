import Errand.Host.Call

/-! # Options of programs

The arguments of a program are options and operands. An option is a letter after one dash, where
several letters may share a dash, or a word after two dashes, which may be cut short as long as only
one word begins like that. An option may take a value. Two dashes alone end the options.

`Options.read` takes options and operands apart. -/

namespace Errand.Host

/-- Whether an option takes a value. -/
inductive Takes where
  | nothing
  | value
  | optional
  deriving DecidableEq, Repr

/-- An option: its letter, and its word if it has one. -/
structure Flag where
  /-- The letter; one below a space belongs to an option that is a word only. -/
  letter : Char
  word : String := ""
  takes : Takes := .nothing
  deriving DecidableEq, Repr

namespace Options

/-- An option that was given, by its letter, with its value. -/
abbrev Given := Char × Option String

/-- What was read: options and operands in order. -/
structure Read where
  given : List Given := []
  operands : List String := []

/-- The last value of an option. -/
def Read.value? (r : Read) (letter : Char) : Option String :=
  (r.given.reverse.find? fun g => g.1 == letter).bind (·.2)

/-- Whether an option was given. -/
def Read.has (r : Read) (letter : Char) : Bool := r.given.any fun g => g.1 == letter

/-- The letters that share a dash: the options, and whether the last one still needs a value. -/
def readLetters (flags : List Flag) : List Char → Except String (List Given × Option Char)
  | [] => .ok ([], none)
  | c :: rest =>
    match flags.find? fun f => f.letter == c && c.toNat > 32 with
    | none => .error ("invalid option -- '" ++ String.singleton c ++ "'")
    | some f =>
      match f.takes with
      | .nothing => do
        let (given, open?) ← readLetters flags rest
        return ((c, none) :: given, open?)
      | .value => .ok (if rest.isEmpty then ([], some c) else ([(c, some (.ofList rest))], none))
      | .optional => .ok ([(c, if rest.isEmpty then none else some (.ofList rest))], none)

/-- The option of a word, if there is exactly one that the text begins. -/
def ofWord (flags : List Flag) (shown word : String) : Except String Flag :=
  match flags.find? fun f => f.word == word && !word.isEmpty with
  | some f => .ok f
  | none =>
    match flags.filter fun f => f.word.startsWith word && !f.word.isEmpty with
    | [] => .error ("unrecognized option '" ++ shown ++ "'")
    | [f] => .ok f
    | fs => .error ("option '" ++ shown ++ "' is ambiguous; possibilities:" ++
        String.join (fs.map fun f => " '--" ++ f.word ++ "'"))

/-- A word after two dashes: the option, and whether it still needs a value. -/
def readWord (flags : List Flag) (argument : String) :
    Except String (List Given × Option Char) := do
  let body := argument.toList.drop 2
  let word := String.ofList (body.takeWhile (· != '='))
  let value := match body.dropWhile (· != '=') with
    | _ :: v => some (String.ofList v)
    | [] => none
  let f ← ofWord flags ("--" ++ if value.isSome then word else .ofList body) word
  match f.takes, value with
  | .nothing, some _ => throw ("option '--" ++ f.word ++ "' doesn't allow an argument")
  | .value, none => return ([], some f.letter)
  | _, v => return ([(f.letter, v)], none)

/-- What an option is called that lacks its value. -/
def lacking (flags : List Flag) (argument : String) (letter : Char) : String :=
  if argument.startsWith "--" then
    "option '--" ++ ((flags.find? fun f => f.letter == letter).map (·.word)).getD "" ++
      "' requires an argument"
  else "option requires an argument -- '" ++ String.singleton letter ++ "'"

/-- Takes arguments apart; if `first` is set, the first operand ends the options. -/
def read (flags : List Flag) (first : Bool := false) : List String → Except String Read
  | [] => .ok {}
  | "--" :: rest => .ok { operands := rest }
  | a :: rest =>
    if a.startsWith "-" && a != "-" then
      match if a.startsWith "--" then readWord flags a else readLetters flags (a.toList.drop 1) with
      | .error e => .error e
      | .ok (given, none) =>
        (read flags first rest).map fun r => { r with given := given ++ r.given }
      | .ok (given, some letter) =>
        match rest with
        | [] => .error (lacking flags a letter)
        | v :: rest => (read flags first rest).map fun r =>
          { r with given := given ++ (letter, some v) :: r.given }
    else if first then .ok { operands := a :: rest }
    else (read flags first rest).map fun r => { r with operands := a :: r.operands }

end Options

/-- How a program reads its arguments: its status if it cannot, and whether the first operand ends
the options. -/
structure Options.Style where
  status : Nat := 1
  first : Bool := false

/-- Does something with the options and operands of a call, or complains about them. -/
def Call.withOptionsBy (c : Call) (s : Options.Style) (flags : List Flag)
    (f : Options.Read → Effect) : Effect :=
  match Options.read flags s.first c.arguments with
  | .ok r => f r
  | .error e => c.misuse e s.status

/-- Does something with the options and operands of a call, as most programs read them. -/
def Call.withOptions (c : Call) (flags : List Flag) (f : Options.Read → Effect) : Effect :=
  c.withOptionsBy {} flags f

/-- The word among some that the value of an option is or begins; or what is told about it. -/
def Call.choice (c : Call) (option : String) (words : List String) (value : String) :
    Except String String :=
  let refused := fun (why : String) =>
    Except.error (why ++ " argument " ++ c.quoted value ++ " for " ++ c.quoted option ++
      "\nValid arguments are:" ++ String.join (words.map fun w => "\n  - " ++ c.quoted w))
  if words.contains value then .ok value
  else match words.filter fun w => w.startsWith value with
    | [w] => .ok w
    | [] => refused "invalid"
    | _ => refused "ambiguous"

end Errand.Host
