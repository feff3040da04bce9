import Errand.CommandLine.Options
import Errand.Text.Wrap

/-! # The texts about the command line

How the program is called, what its options mean, and what is wrong with arguments, set for a
number of columns. Explanations stand in a column of their own as long as there is room for one;
a line has two columns less than there are. -/

namespace Errand.Help

open Text.Wrap

/-- The name of the program. -/
def programName : String := "procexec-run"

/-- The number of columns if nothing else is known. -/
def usualColumns : Int := 80

/-- The number of columns that the environment tells. -/
def columns (environment : List (String × String)) : Int :=
  match (environment.lookup "COLUMNS").bind readWhole? with
  | some n => if 0 < n then n else usualColumns
  | none => usualColumns

/-- The columns of a line. -/
def width (columns : Int) : Int := columns - 2

/-- So many blanks. -/
def blanks (n : Nat) : String := .ofList (List.replicate n ' ')

/-- What an option is in the line that says how the program is called. -/
def usageOf (f : Flag) : String :=
  let value := match f with
    | .timeout => " TIMEOUT"
    | .successExitValue => " SUCCESS_EXIT_VALUES"
    | _ => ""
  "[" ++ f.short ++ value ++ "]"

/-- The options in the line that says how the program is called. -/
def optionParts : List String := Flag.all.map usageOf

/-- The command in that line. -/
def commandPart : String := "..."

/-- The parts on lines of at most so many columns, each behind the same indent; what stands before
the first line counts for it. -/
def usageLines (width : Int) (indent : Nat) (before : Option Nat) (parts : List String) :
    List String :=
  go [] (((before.getD indent : Nat) : Int) - 1) parts
where
  /-- The lines after the parts of a line that was begun, with the columns that are used. -/
  go (line : List String) (used : Int) : List String → List String
    | [] => if line.isEmpty then [] else [finish line]
    | part :: rest =>
      if width < used + 1 + part.length && !line.isEmpty then
        finish line :: go [part] ((indent : Int) - 1 + part.length + 1) rest
      else go (line ++ [part]) (used + part.length + 1) rest
  /-- A line behind its indent. -/
  finish (line : List String) : String := blanks indent ++ " ".intercalate line

/-- What stands before the way the program is called. -/
def usageTitle : String := "usage: "

/-- How the program is called. -/
def usage (columns : Int) : String :=
  let width := width columns
  let whole := " ".intercalate (programName :: optionParts ++ [commandPart])
  if (usageTitle.length + whole.length : Int) ≤ width then usageTitle ++ whole ++ "\n"
  else
    let title := usageTitle.length + programName.length
    let lines :=
      if (title * 4 : Int) ≤ 3 * width then
        let indent := title + 1
        match usageLines width indent (some usageTitle.length) (programName :: optionParts) with
        | first :: rest =>
          String.ofList (first.toList.drop indent) :: rest ++
            usageLines width indent none [commandPart]
        | [] => []
      else
        let indent := usageTitle.length
        let together := usageLines width indent none (optionParts ++ [commandPart])
        programName :: if together.length ≤ 1 then together
          else
            usageLines width indent none optionParts ++ usageLines width indent none [commandPart]
    usageTitle ++ "\n".intercalate lines ++ "\n"

/-- The column in which explanations begin. -/
def helpColumn (width : Int) : Nat := (min 24 (max (width - 20) 4)).toNat

/-- The least number of columns for a text. -/
def leastWidth : Int := 11

/-- An entry with its explanation: on one line if there is room for both. -/
def entry (width : Int) (title explanation : String) : String :=
  let column := helpColumn width
  let lines := wrap (max (width - column) leastWidth).toNat explanation
  let indented := fun (s : String) => blanks column ++ s ++ "\n"
  if title.length + 4 ≤ column then
    "  " ++ title ++ blanks (column - 2 - title.length) ++ lines.headD "" ++ "\n" ++
      String.join ((lines.drop 1).map indented)
  else "  " ++ title ++ "\n" ++ String.join (lines.map indented)

/-- What an option is called where it is explained. -/
def titleOf (f : Flag) : String :=
  match f with
  | .timeout => "-t TIMEOUT, --timeout TIMEOUT"
  | .successExitValue => "-s SUCCESS_EXIT_VALUES, --success-exit-value SUCCESS_EXIT_VALUES"
  | _ => f.short ++ ", " ++ f.long

/-- What an option means. -/
def explanationOf : Flag → String
  | .help => "show this help message and exit"
  | .timeout => "Kill the process after this many seconds"
  | .successExitValue => "Exit value treated as success (repeatable, default: 0)"
  | .background => "Run through a result handler and wait for it"
  | .verbose => "Enable verbose logging"

/-- The help text. -/
def text (columns : Int) : String :=
  let width := width columns
  usage columns ++ "\n" ++
  "\n".intercalate (wrap (max width leastWidth).toNat "Run a command and report its exit value") ++
  "\n\npositional arguments:\n" ++
  entry width "command" "Command and arguments to run (prefix with -- to pass options)" ++
  "\noptions:\n" ++
  String.join (Flag.all.map fun f => entry width (titleOf f) (explanationOf f))

/-- What is written about wrong arguments. -/
def complaint (columns : Int) (e : UsageError) : String :=
  usage columns ++ programName ++ ": error: " ++ e.message ++ "\n"

end Errand.Help
