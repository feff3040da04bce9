import Errand.Host.Program.Basic
import Errand.Host.Program.Sources

/-! # Characters by sets

A set of characters is written as the characters in order, where ranges, classes and repetitions
stand for many of them. Characters of one set are replaced by those at the same places of another
one, dropped, or written once where they repeat.

`Program.tr` does so. -/

namespace Errand.Host.Program

namespace Alphabet

/-- A character of a written set, and whether it was escaped. -/
abbrev Letter := Char × Bool

/-- The letters of a written set. -/
def unescape : Nat → List Char → List Letter
  | 0, _ => []
  | _ + 1, [] => []
  | _ + 1, ['\\'] => [('\\', false)]
  | fuel + 1, '\\' :: c :: cs =>
    let ds := (Printing.someDigits 8 3 (c :: cs))
    let ds := if Numeral.valueOf 8 ds < 256 then ds else ds.dropLast
    if !ds.isEmpty then
      (Printing.octet (Numeral.valueOf 8 ds), true) :: unescape fuel ((c :: cs).drop ds.length)
    else ((Printing.letters.lookup c).getD c, true) :: unescape fuel cs
  | fuel + 1, c :: cs => (c, false) :: unescape fuel cs

/-- A part of a set: characters, a class by its name, or a character that repeats as often as it
has to. -/
inductive Part where
  | chars (cs : List Char)
  | named (name : String)
  | filling (c : Char)

/-- The characters from one to another one. -/
def range (a b : Nat) : List Char := (List.range (b + 1 - a)).map fun i => Char.ofNat (a + i)

/-- The characters of a class. -/
def members? (name : String) : Option (List Char) :=
  let printable := range 33 126
  match name with
  | "alnum" => some (range 48 57 ++ range 65 90 ++ range 97 122)
  | "alpha" => some (range 65 90 ++ range 97 122)
  | "blank" => some ['\t', ' ']
  | "cntrl" => some (range 0 31 ++ ['\x7f'])
  | "digit" => some (range 48 57)
  | "graph" => some printable
  | "lower" => some (range 97 122)
  | "print" => some (' ' :: printable)
  | "punct" => some (printable.filter fun c => !c.isAlphanum)
  | "space" => some (range 9 13 ++ [' '])
  | "upper" => some (range 65 90)
  | "xdigit" => some (range 48 57 ++ range 65 70 ++ range 97 102)
  | _ => none

/-- How a complaint writes a character. -/
def shown (c : Char) : String :=
  if 32 ≤ c.toNat && c.toNat < 127 then String.singleton c
  else match Printing.letters.find? fun e => e.2 == c with
    | some (l, _) => "\\" ++ String.singleton l
    | none => .ofList (Quoting.escaped c.toNat.toUInt8)

/-- What stands between an opening bracket with a mark and the mark with a closing bracket. -/
def bracketed? (mark : Char) (ls : List Letter) : Option (List Char × List Letter) :=
  match ls with
  | ('[', false) :: (m, false) :: rest =>
    if m != mark then none
    else
      let rec go (n : Nat) : List Letter → Option (List Char × List Letter)
        | (c, false) :: (']', false) :: after =>
          if c == mark && 0 < n then some ((rest.take n).map (·.1), after)
          else go (n + 1) ((']', false) :: after)
        | _ :: after => go (n + 1) after
        | [] => none
      go 0 rest
  | _ => none

/-- A character that repeats: it, its number, and what follows; the number may be missing. -/
def repeated? (ls : List Letter) : Option (Char × List Char × List Letter) :=
  match ls with
  | ('[', false) :: (c, _) :: ('*', false) :: rest =>
    let ds := rest.takeWhile fun l => l.1.isDigit && !l.2
    match rest.drop ds.length with
    | (']', false) :: after => some (c, ds.map (·.1), after)
    | _ => none
  | _ => none

/-- The parts of a written set, or what is wrong with it. -/
def parts (c : Call) : Nat → List Letter → Except String (List Part)
  | 0, _ => .ok []
  | _ + 1, [] => .ok []
  | fuel + 1, l :: ls => do
    match bracketed? ':' (l :: ls), bracketed? '=' (l :: ls), repeated? (l :: ls) with
    | some (name, rest), _, _ =>
      let name := String.ofList name
      if (members? name).isNone then throw ("invalid character class " ++ c.quoted name)
      return .named name :: (← parts c fuel rest)
    | none, some (cs, rest), _ =>
      match cs with
      | [ch] => return .chars [ch] :: (← parts c fuel rest)
      | _ => throw (String.ofList cs ++ ": equivalence class operand must be a single character")
    | none, none, some (ch, ds, rest) =>
      let n := Numeral.valueOf (if ds.head? == some '0' then 8 else 10) ds
      let part := if n = 0 then Part.filling ch else .chars (List.replicate n ch)
      return part :: (← parts c fuel rest)
    | none, none, none =>
      match ls with
      | ('-', false) :: (b, _) :: rest =>
        if b.toNat < l.1.toNat then
          throw ("range-endpoints of '" ++ shown l.1 ++ "-" ++ shown b ++
            "' are in reverse collating sequence order")
        return .chars (range l.1.toNat b.toNat) :: (← parts c fuel rest)
      | _ => return .chars [l.1] :: (← parts c fuel ls)

/-- The parts of a set as it is written. -/
def read (c : Call) (s : String) : Except String (List Part) :=
  let ls := unescape (s.length + 1) s.toList
  parts c (ls.length + 1) ls

/-- The characters of parts, of which one may fill up to a length. -/
def expand (length : Nat) (ps : List Part) : List Char :=
  let known := fun (p : Part) => match p with
    | .chars cs => cs
    | .named name => (members? name).getD []
    | .filling _ => []
  let total := (ps.flatMap known).length
  ps.flatMap fun
    | .filling ch => List.replicate (length - total) ch
    | p => known p

/-- The characters that are not in a set. -/
def complement (cs : List Char) : List Char := (range 0 255).filter fun c => !cs.contains c

/-- The character that each one becomes: the last one of the second set goes on where it is too
short. -/
def replacement (source target : List Char) : Array Char :=
  let fill := target.getLastD '\x00'
  (source.foldl (fun (table, rest) c => (table.set! c.toNat (rest.headD fill), rest.drop 1))
    ((Array.range 256).map Char.ofNat, target)).1

/-- Drops a character that repeats the one before it, for the characters of a set. -/
def squeeze (set cs : List Char) : List Char :=
  (cs.foldl (fun (done : List Char) c =>
    if done.head? = some c && set.contains c then done else c :: done) []).reverse

/-- What is done with characters: the first set with its length, and the second one. -/
def change (r : Options.Read) (source target : List Part) :
    Except String (List Char → List Char) := do
  let isComplement := r.has 'c' || r.has 'C'
  let first := expand 0 source
  let first := if isComplement then complement first else first
  let second := expand first.length target
  if source.any fun | .filling _ => true | _ => false then
    throw "the [c*] repeat construct may not appear in string1"
  if r.has 'd' then
    let kept := fun cs => cs.filter fun ch => !first.contains ch
    return if r.has 's' then fun cs => squeeze second (kept cs) else kept
  if r.operands.length < 2 then return squeeze first
  let isNamed := fun (p : Part) => match p with
    | .named n => n != "upper" && n != "lower"
    | _ => false
  if target.any isNamed then
    throw ("when translating, the only character classes that may appear in\n" ++
      "string2 are 'upper' and 'lower'")
  let isClass := fun (p : Part) => match p with
    | .named _ => true
    | _ => false
  if isComplement && source.any isClass && second.eraseDups.length ≠ 1 then
    throw ("when translating with complemented character classes,\n" ++
      "string2 must map all characters in the domain to one")
  let first := if r.has 't' then first.take second.length else first
  if second.isEmpty && !r.has 't' then
    throw "when not truncating set1, string2 must be non-empty"
  let table := replacement first second
  let replaced := fun (cs : List Char) => cs.map fun ch => (table[ch.toNat]?).getD ch
  return if r.has 's' then fun cs => squeeze second (replaced cs) else replaced

end Alphabet

open Alphabet

/-- Replaces, drops or squeezes characters of the input. -/
def tr (c : Call) : Effect :=
  let flags : List Flag := [⟨'c', "complement", .nothing⟩, ⟨'C', "", .nothing⟩,
    ⟨'d', "delete", .nothing⟩, ⟨'s', "squeeze-repeats", .nothing⟩,
    ⟨'t', "truncate-set1", .nothing⟩]
  c.withOptionsBy { first := true } flags fun r =>
    let deletes := r.has 'd'
    let squeezes := r.has 's'
    let least := if deletes == squeezes then 2 else 1
    let most := if deletes && !squeezes then 1 else 2
    match r.operands, r.operands[most]? with
    | [], _ => missingOperand c
    | ops, some a =>
      let why := if ops.length = 2 then
          "\nOnly one string may be given when deleting without squeezing repeats."
        else ""
      c.complain ("extra operand " ++ c.quoted a ++ why ++ "\n" ++ c.hint)
    | ops, none =>
      if ops.length < least then
        let why := if squeezes then
            "Two strings must be given when both deleting and squeezing repeats."
          else "Two strings must be given when translating."
        c.complain ("missing operand after " ++ c.quoted (ops.getLastD "") ++ "\n" ++ why ++ "\n" ++
          c.hint)
      else
        let change : Except String (List Char → List Char) := do
          let source ← read c (ops.headD "")
          let target ← read c ((ops[1]?).getD "")
          change r source target
        match change, c.unreadable with
        | .error text, _ => c.complain text
        | .ok _, some e => c.complain ("read error: " ++ e.reason)
        | .ok f, none =>
          let cs := f (Text.Octets.ofBytes c.input.bytes)
          { Effect.print cs with left := some { c.input with bytes := [] }
                                 isEndless := c.input.isEndless }

end Errand.Host.Program
