/-! # Wrapping lines

A text is set in lines of at most so many characters. It is broken at blanks; the blanks at a break
are dropped. Only a word that is longer than a line is broken itself: as much of it as fits stays
on the line. -/

namespace Errand.Text.Wrap

/-- The words of a text and the blanks between them, each as long as it goes. -/
def chunks (cs : List Char) : List (List Char) :=
  cs.splitBy fun a b => (a == ' ') == (b == ' ')

/-- Whether a chunk is made of blanks. -/
def isGap (chunk : List Char) : Bool := chunk.all (· == ' ')

/-- The chunks that fit on a line, the last one first, and those that are left. -/
def fill (width : Nat) (line : List (List Char)) (used : Nat) :
    List (List Char) → List (List Char) × Nat × List (List Char)
  | [] => (line, used, [])
  | chunk :: rest =>
    if used + chunk.length ≤ width then fill width (chunk :: line) (used + chunk.length) rest
    else (line, used, chunk :: rest)

/-- A line with a part of the next chunk, if that is longer than any line. -/
def breakLong (width : Nat) (line : List (List Char)) (used : Nat) (left : List (List Char)) :
    List (List Char) × List (List Char) :=
  match left with
  | chunk :: rest =>
    if width < chunk.length then
      let room := max 1 (width - used)
      (chunk.take room :: line, chunk.drop room :: rest)
    else (line, left)
  | [] => (line, [])

/-- A line without the blanks at its end. -/
def trimEnd (line : List (List Char)) : List (List Char) :=
  match line with
  | chunk :: rest => if isGap chunk then rest else line
  | [] => []

/-- The lines of chunks; blanks are kept only at the beginning of the first one. -/
def lines (width : Nat) (isFirst : Bool) : Nat → List (List Char) → List String
  | 0, _ => []
  | _ + 1, [] => []
  | fuel + 1, chunk :: rest =>
    let left := if !isFirst && isGap chunk then rest else chunk :: rest
    let (line, used, left) := fill width [] 0 left
    let (line, left) := breakLong width line used left
    let line := (trimEnd line).reverse.flatten
    let more := lines width false fuel left
    if line.isEmpty then more else .ofList line :: more

/-- The lines of a text. -/
def wrap (width : Nat) (s : String) : List String :=
  lines width true (s.length + 1) (chunks s.toList)

end Errand.Text.Wrap
