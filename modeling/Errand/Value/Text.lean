import Errand.Value
import Errand.Text.Quoted
import Errand.Decimal.Shortest

/-! # The text of a value

`Value.display` is the text of a value by itself, `Value.quoted` the text of a value inside a
larger one: texts and bytes stand in quotes there, and a status shows its name and its text.
Doubles are written with the fewest digits that read back. -/

namespace Errand.Value

/-- Doubles have a point up to seventeen digits before it and four zeros after it, and an exponent
beyond. -/
def floatStyle : Decimal.Style where
  leastPlace := -3
  greatestPlace := 16
  notNumber := "nan"
  infinite := "inf"
  minusInfinite := "-inf"

/-- The text of a double. -/
def floatText (x : Float) : String := Decimal.write floatStyle x

mutual

/-- The text of a value inside a larger one. -/
def quoted : Value → String
  | null => "None"
  | bool b => if b then "True" else "False"
  | int n => toString n
  | float x => floatText x
  | text s => Text.Quoted.encode s
  | bytes bs => Text.Quoted.encodeBytes bs
  | status s => "<ExecutionStatus." ++ s.name ++ ": " ++ Text.Quoted.encode s.name ++ ">"
  | list xs => "[" ++ quotedList xs ++ "]"
  | dict es => "\x7b" ++ quotedEntries es ++ "\x7d"

/-- Members with a comma between any two. -/
def quotedList : List Value → String
  | [] => ""
  | [x] => quoted x
  | x :: xs => quoted x ++ ", " ++ quotedList xs

/-- Named members with a comma between any two. -/
def quotedEntries : List (String × Value) → String
  | [] => ""
  | [(k, x)] => Text.Quoted.encode k ++ ": " ++ quoted x
  | (k, x) :: es => Text.Quoted.encode k ++ ": " ++ quoted x ++ ", " ++ quotedEntries es

end

/-- The text of a value by itself. -/
def display (v : Value) : String :=
  match v with
  | text s => s
  | status s => s.name
  | _ => quoted v

@[simp] theorem display_text (s : String) : display (text s) = s := rfl

end Errand.Value
