import Errand.Text.Wildcard

/-! # Fields

What a word expands to is a row of stretches: texts as they are written in the word, and texts that
were put in. Those that were put in are taken apart into fields, by the blanks and by the other
characters of a separator.

* `Stretch` is a text that is taken apart in one way;
* `Field.split` takes stretches apart, also into a limited number of fields. -/

namespace Errand.Shell

open Text (Wildcard)

/-- A character of an expanded word and whether it is quoted, or a quote that is not written. -/
inductive Cell where
  | char (c : Char) (quoted : Bool)
  | quote
  deriving DecidableEq, Repr

/-- How a stretch is taken apart: not at all; by the separator, be it a text that was put in or one
that stands in its place; or only between parameters. -/
inductive Splitting where
  | none
  | literal
  | fields
  | parameters
  deriving DecidableEq, Repr

/-- A stretch of an expanded word. -/
structure Stretch where
  splitting : Splitting
  cells : List Cell
  deriving DecidableEq, Repr

/-- A field. -/
abbrev Field := List Cell

namespace Field

/-- The character that parts parameters. -/
def boundary : Char := '\x00'

/-- The characters of cells. -/
def characters (cells : List Cell) : List Char :=
  cells.filterMap fun
    | .char c q => if c == boundary && !q then none else some c
    | .quote => none

/-- The characters of cells, marked for a pattern. -/
def marked (cells : List Cell) : List Wildcard.Marked :=
  cells.filterMap fun
    | .char c q => some (c, q)
    | .quote => none

/-- Where the splitting is: the fields that are done and the cells of the next one, the last first
in both. -/
structure Progress where
  done : List Field := []
  current : List Cell := []
  /-- Whether a blank has just ended a field. -/
  afterBlank : Bool := false
  /-- Whether the last stretch was one of parameters. -/
  afterParameters : Bool := false
  /-- How many separators may still end a field, if that is limited. -/
  limit : Option Nat := none
  /-- How many cells of the last field count, if the others are only separators. -/
  kept : Option Nat := none

/-- Whether a separator is a blank. -/
def isBlank (c : Char) : Bool := c == ' ' || c == '\t' || c == '\n' || c == boundary

/-- Adds a cell to the field. -/
def Progress.add (p : Progress) (cell : Cell) : Progress :=
  { p with current := cell :: p.current }

/-- A character where no further field begins. -/
def Progress.last (p : Progress) (isSeparator : Bool) (cell : Cell) (isBlank : Bool) : Progress :=
  if isBlank then { p.add cell with kept := p.kept.or (some p.current.length) }
  else
    let kept := if isSeparator && p.afterBlank then p.kept else none
    { p.add cell with kept, afterBlank := false }

/-- A character of a stretch that is taken apart. -/
def Progress.step (separators : List Char) (only : Bool) (p : Progress) (cell : Cell) : Progress :=
  match cell with
  | .quote => { p.add cell with afterBlank := false }
  | .char c _ =>
    let isSeparator := c == boundary || (!only && separators.contains c)
    let blank := isSeparator && isBlank c
    if p.limit == some 0 then p.last isSeparator cell blank
    else if p.afterBlank && isSeparator then
      { p with current := [], afterBlank := blank }
    else if isSeparator then
      let p := if p.afterParameters || only then p else { p with afterBlank := blank }
      if p.current.isEmpty && p.afterBlank then p
      else match p.limit with
        | some (n + 1) =>
          if n = 0 then { p.add cell with limit := some 0, kept := some p.current.length }
          else { p with done := p.current.reverse :: p.done, current := [], limit := some n }
        | _ => { p with done := p.current.reverse :: p.done, current := [] }
    else { p.add cell with afterBlank := false }

/-- A stretch. -/
def Progress.stretch (separators : List Char) (p : Progress) (s : Stretch) : Progress :=
  match s.splitting with
  | .none => { p with current := s.cells.reverse ++ p.current }
  | splitting =>
    let only := splitting == .parameters
    let p := { p with afterBlank := false }
    let p := s.cells.foldl (Progress.step separators only) p
    { p with afterParameters := only }

/-- Takes stretches apart. With a limit there are at most so many fields; the last one keeps what
separates its parts, but not what follows them. -/
def split (separators : List Char) (limit : Option Nat) (stretches : List Stretch) :
    List Field :=
  let p := stretches.foldl (Progress.stretch separators) { limit }
  let last := p.current.reverse
  let last := match p.kept with
    | some n => last.take n
    | none => last
  if last.isEmpty && !p.afterParameters then p.done.reverse else (last :: p.done).reverse

example : (split [' ', ':'] none [⟨.fields, [.char 'a' false, .char ':' false,
    .char ':' false, .char 'b' false]⟩]).length = 3 := by decide

end Field

end Errand.Shell
