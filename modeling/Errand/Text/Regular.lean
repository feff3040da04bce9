import Errand.Text.Codes

/-! # Regular expressions

An expression describes texts. It is matched against a text from a place on, and of all the places
where the match may end the last one counts; of all the places where it may begin, the first one.
Parts of an expression are remembered, and an expression may ask for what was remembered.

* `Regular.ends` lists where a match may end, the preferred way to each place first;
* `Regular.matchAt?` and `Regular.search?` find the match that counts. -/

namespace Errand.Text

/-- A set of characters: ranges and classes, or all other characters. -/
structure CharacterSet where
  negated : Bool := false
  ranges : List (Nat × Nat) := []
  classes : List String := []
  /-- Whether the case of letters does not count. -/
  caseless : Bool := false
  deriving DecidableEq, Repr

namespace CharacterSet

/-- Whether a character is one of the ranges or classes. -/
def hasExactly (s : CharacterSet) (n : Nat) : Bool :=
  s.ranges.any (fun r => r.1 ≤ n && n ≤ r.2) ||
    s.classes.any fun c => ((Codes.classNamed? c).map (· n)).getD false

/-- Whether a character is in a set. -/
def has (s : CharacterSet) (n : Nat) : Bool :=
  let found := s.hasExactly n || s.caseless && s.hasExactly (Codes.otherCase n)
  Codes.isCharacter n && found != s.negated

/-- The set of one character. -/
def single (n : Nat) : CharacterSet := { ranges := [(n, n)] }

/-- The set of all characters. -/
def all : CharacterSet := { negated := true }

end CharacterSet

/-- A place between characters that is asked for. -/
inductive Edge where
  | start
  | finish
  | word
  | noWord
  | wordStart
  | wordFinish
  | afterNoWord
  | beforeNoWord
  deriving DecidableEq, Repr

/-- Regular expressions. -/
inductive Regular where
  | nothing
  | one (s : CharacterSet)
  | edge (e : Edge)
  | both (a b : Regular)
  | either (a b : Regular)
  | repeated (r : Regular) (least : Nat) (most : Option Nat)
  | group (number : Nat) (r : Regular)
  | earlier (number : Nat)
  deriving DecidableEq, Repr

namespace Regular

/-- A place in a text: what comes before it and after it, and what was remembered on the way. -/
structure Point where
  before : Option Nat := none
  index : Nat := 0
  rest : List Nat
  groups : List (Nat × List Nat) := []
  deriving DecidableEq, Repr

/-- The place so many characters further on. -/
def Point.advance (p : Point) (n : Nat) : Point :=
  if n = 0 then p
  else
    { p with
      before := (p.rest[n - 1]?).or p.before, index := p.index + n, rest := p.rest.drop n }

/-- The text from one place to another one. -/
def Point.textTo (p q : Point) : List Nat := p.rest.take (q.index - p.index)

/-- Whether a place is one that is asked for. -/
def Edge.holds (e : Edge) (p : Point) : Bool :=
  let before := (p.before.map Codes.isWord).getD false
  let after := (p.rest.head?.map Codes.isWord).getD false
  match e with
  | .start => p.before.isNone
  | .finish => p.rest.isEmpty
  | .word => before != after
  | .noWord => before == after
  | .wordStart => !before && after
  | .wordFinish => before && !after
  | .afterNoWord => !before
  | .beforeNoWord => !after

/-- The first way to each place. -/
def firstWays (exact : Bool) (ps : List Point) : List Point :=
  (ps.foldl (fun (done : List Point) p =>
    if done.any fun q => q.index == p.index && (!exact || q.groups == p.groups) then done
    else p :: done) []).reverse

/-- Repeats a step, as often as that leads on. -/
def repeatStep (exact : Bool) (step : Point → List Point) :
    Nat → Nat → Option Nat → Point → List Point
  | 0, _, _, p => [p]
  | fuel + 1, least, most, p =>
    let more := if most == some 0 then []
      else ((step p).filter fun q => p.index < q.index || 0 < least).flatMap
        (repeatStep exact step fuel (least - 1) (most.map (· - 1)))
    firstWays exact (if least = 0 then more ++ [p] else more)

/-- Where a repetition of a set may end, the last place first. -/
def runEnds (s : CharacterSet) (least : Nat) (most : Option Nat) (p : Point) : List Point :=
  let run := (p.rest.takeWhile s.has).length
  let run := min run (most.getD run)
  if run < least then [] else ((List.range (run + 1 - least)).map fun i => p.advance (run - i))

/-- Where a match from a place on may end. Ways to one place that remember different texts are told
apart only if `exact` is set. -/
def ends (exact : Bool) : Regular → Point → List Point
  | nothing, p => [p]
  | one s, p =>
    match p.rest with
    | c :: _ => if s.has c then [p.advance 1] else []
    | [] => []
  | edge e, p => if Edge.holds e p then [p] else []
  | both a b, p => firstWays exact ((a.ends exact p).flatMap (b.ends exact))
  | either a b, p => firstWays exact (a.ends exact p ++ b.ends exact p)
  | repeated (one s) least most, p => runEnds s least most p
  | repeated r least most, p =>
    repeatStep exact (r.ends exact) (p.rest.length + least + 1) least most p
  | group n r, p => (r.ends exact p).map fun q =>
      { q with groups := (n, p.textTo q) :: q.groups.filter fun g => g.1 != n }
  | earlier n, p =>
    match p.groups.lookup n with
    | some t => if t.isPrefixOf p.rest then [p.advance t.length] else []
    | none => []

/-- Whether an expression asks for what was remembered. -/
def looksBack : Regular → Bool
  | earlier _ => true
  | both a b | either a b => a.looksBack || b.looksBack
  | repeated r _ _ | group _ r => r.looksBack
  | _ => false

/-- The last place where a match from a place on may end. -/
def matchAt? (r : Regular) (p : Point) : Option Point :=
  (r.ends r.looksBack p).foldl (fun (best : Option Point) q =>
    match best with
    | some b => if b.index < q.index then some q else best
    | none => some q) none

/-- The first match from a place on; the number bounds the places where it may begin. -/
def searchFrom (r : Regular) : Nat → Point → Option (Point × Point)
  | 0, p => (r.matchAt? p).map (p, ·)
  | n + 1, p =>
    match r.matchAt? p with
    | some q => some (p, q)
    | none => if p.rest.isEmpty then none else searchFrom r n (p.advance 1)

/-- The first match from a place on. -/
def search? (r : Regular) (p : Point) : Option (Point × Point) := searchFrom r p.rest.length p

/-- An expression for exactly some characters. -/
def literal (caseless : Bool) (text : List Nat) : Regular :=
  text.foldr (fun n r => .both (.one { CharacterSet.single n with caseless }) r) .nothing

/-- An expression for a text as a whole. -/
def whole (r : Regular) : Regular := .both (.edge .start) (.both r (.edge .finish))

/-- An expression for words. -/
def asWord (r : Regular) : Regular := .both (.edge .afterNoWord) (.both r (.edge .beforeNoWord))

/-- The matches in a text that are not empty, one after the other; the number bounds them. -/
def allFrom (r : Regular) : Nat → Point → List (Point × Point)
  | 0, _ => []
  | n + 1, p =>
    match r.search? p with
    | none => []
    | some (a, b) =>
      if a.index < b.index then (a, b) :: allFrom r n b
      else if a.rest.isEmpty then [] else allFrom r n (a.advance 1)

/-- Whether there is a match in a text. -/
def isIn (r : Regular) (text : List Nat) : Bool := (r.search? { rest := text }).isSome

end Regular

end Errand.Text
