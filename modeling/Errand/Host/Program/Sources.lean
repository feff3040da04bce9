import Errand.Host.Options

/-! # What programs read

Many programs read the files that their operands name, one after the other, or their input if there
are none; an operand of one dash is the input as well. What they read are lines, each with a mark at
its end, which the last one may lack.

* `Sources.of` opens the operands of a call, and `Sources.reading` tells what is left of the input
  then;
* `lines` takes bytes apart. -/

namespace Errand.Host

/-- The byte at the end of a line. -/
def lineEnd : UInt8 := 10

/-- Lines with the marks at their ends. -/
def lines (bs : Bytes) (mark : UInt8 := lineEnd) : List Bytes :=
  let (last, done) := bs.foldl (fun (line, done) b =>
    if b = mark then ([], (mark :: line) :: done) else (b :: line, done))
    (([], []) : Bytes × List Bytes)
  ((if last.isEmpty then done else last :: done).map List.reverse).reverse

/-- A line without the mark at its end. -/
def chomp (line : Bytes) (mark : UInt8 := lineEnd) : Bytes :=
  if line.getLast? = some mark then line.dropLast else line

/-- Something that a program reads, by the name that it has. -/
structure Source where
  name : String
  content : Except Refusal Input

namespace Sources

/-- The name of the input among operands. -/
def inputName : String := "-"

/-- What operands name. The input can be read only once. -/
def opened (c : Call) : Bool → List String → List Source
  | _, [] => []
  | isRead, name :: rest =>
    if name == inputName then
      let content := match c.unreadable with
        | some r => .error r
        | none => .ok (if isRead then {} else c.input)
      ⟨name, content⟩ :: opened c true rest
    else ⟨name, c.open? name⟩ :: opened c isRead rest

/-- The operands, or the input if there are none. -/
def namesOf (operands : List String) : List String :=
  if operands.isEmpty then [inputName] else operands

/-- What the operands of a call name. -/
def of (c : Call) (operands : List String) : List Source := opened c false (namesOf operands)

/-- An effect of a program that reads all that its operands name. -/
def reading (c : Call) (operands : List String) (e : Effect) : Effect :=
  if (namesOf operands).contains inputName then
    { e with left := some { c.input with bytes := [] }
             isEndless := e.isEndless || c.input.isEndless }
  else e

/-- A complaint about a file by its name and the reason. -/
def refused (c : Call) (name : String) (r : Refusal) (status : Nat := 1) : Effect :=
  c.complain (c.shown name ++ ": " ++ r.reason) status

/-- The effects for all that operands name, one after the other. -/
def each (c : Call) (operands : List String) (f : String → Input → Effect)
    (status : Nat := 1) : Effect :=
  reading c operands (Effect.all ((of c operands).map fun s => match s.content with
    | .ok i => f s.name i
    | .error r => refused c s.name r status))

end Sources

end Errand.Host
