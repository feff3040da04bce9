import Errand.Text.Regular

/-! # How regular expressions are written

There are two ways to write an expression. In the basic one, brackets, braces and bars mean
something only after a backslash; in the extended one they do so without it.

`Regular.read` reads an expression, or tells what is wrong with it. -/

namespace Errand.Text.Regular

/-- How an expression is written. -/
structure Manner where
  extended : Bool := false
  caseless : Bool := false
  /-- Whether more letters after a backslash stand for characters. -/
  knowsEscapes : Bool := false
  /-- Whether signs without a meaning at their place are wrong. -/
  strict : Bool := false
  /-- Whether there is a letter for digits. -/
  knowsDigits : Bool := false

/-- What is read of an expression: the number of its groups, those that are closed, and what is to
be told about it. -/
structure Reading where
  groups : Nat := 0
  closed : List Nat := []
  warnings : List String := []

/-- A step of reading. -/
abbrev Step := StateT Reading (Except String)

/-- A set with the case of letters as the manner has it. -/
def Manner.set (m : Manner) (s : CharacterSet) : CharacterSet := { s with caseless := m.caseless }

/-- An expression for one character. -/
def Manner.char (m : Manner) (c : Char) : Regular := .one (m.set (.single c.toNat))

/-! ## Sets -/

/-- What is wrong with a set without an end. -/
def unmatchedSet : String := "Unmatched [, [^, [:, [., or [="

/-- What is wrong with a set that ends where it begins. -/
def emptySet : String := "Invalid regular expression"

/-- A name between two marks in a set, and what follows. -/
def readMarked (mark : Char) : List Char → Option (String × List Char)
  | c :: ']' :: rest => if c == mark then some ("", rest)
      else (readMarked mark (']' :: rest)).map fun r => (String.singleton c ++ r.1, r.2)
  | c :: rest => (readMarked mark rest).map fun r => (String.singleton c ++ r.1, r.2)
  | [] => none

/-- One character of a set, or a class. -/
def readMember (m : Manner) (cs : List Char) : Except String ((Char ⊕ String) × List Char) :=
  match cs with
  | '[' :: k :: rest =>
    if k == ':' || k == '.' || k == '=' then
      match readMarked k rest with
      | none => .error unmatchedSet
      | some (name, rest) =>
        if k == ':' then
          if (Codes.classNamed? name).isSome then .ok (.inr name, rest)
          else .error "Invalid character class name"
        else match name.toList with
          | [c] => .ok (.inl c, rest)
          | _ => .error "Invalid collation character"
    else .ok (.inl '[', k :: rest)
  | '\\' :: k :: rest =>
    let known := [('n', '\n'), ('t', '\t'), ('f', '\x0c'), ('v', '\x0b'), ('a', '\x07'),
      ('r', '\r')]
    match if m.knowsEscapes then known.lookup k else none with
    | some c => .ok (.inl c, rest)
    | none => .ok (.inl '\\', k :: rest)
  | c :: rest => .ok (.inl c, rest)
  | [] => .error unmatchedSet

/-- The members of a set up to its end; the number bounds them. -/
def readMembers (m : Manner) : Nat → Bool → CharacterSet → List Char →
    Except String (CharacterSet × List Char)
  | 0, _, _, _ => .error unmatchedSet
  | _ + 1, isFirst, _, [] => .error (if isFirst then emptySet else unmatchedSet)
  | fuel + 1, isFirst, s, c :: cs => do
    if c == ']' && !isFirst then return (s, cs)
    if c == '-' && !isFirst && cs.head? != some ']' then
      throw (if cs.isEmpty then unmatchedSet else "Invalid range end")
    match ← readMember m (c :: cs) with
    | (.inr name, rest) => readMembers m fuel false { s with classes := name :: s.classes } rest
    | (.inl a, rest) =>
      match rest with
      | '-' :: d :: after =>
        if d == ']' then
          readMembers m fuel false { s with ranges := (a.toNat, a.toNat) :: s.ranges } rest
        else
          match ← readMember m (d :: after) with
          | (.inl b, rest) =>
            if b.toNat < a.toNat then throw "Invalid range end"
            readMembers m fuel false { s with ranges := (a.toNat, b.toNat) :: s.ranges } rest
          | (.inr _, _) => throw "Invalid range end"
      | _ => readMembers m fuel false { s with ranges := (a.toNat, a.toNat) :: s.ranges } rest

/-- A set after its opening bracket. -/
def readSet (m : Manner) (cs : List Char) : Except String (CharacterSet × List Char) :=
  match cs with
  | '^' :: rest => readMembers m (rest.length + 1) true { negated := true } rest
  | _ => readMembers m (cs.length + 1) true {} cs

/-! ## Repetitions -/

/-- The most often that something may be repeated. -/
def mostRepeats : Nat := 32767

/-- A number of repetitions: the least and the most, and what follows; none if it is none. -/
def readCounts (cs : List Char) : Option (Nat × Option Nat × List Char) :=
  let number := fun (ds : List Char) => ds.foldl (fun n c => n * 10 + (c.toNat - 48)) 0
  let first := cs.takeWhile Char.isDigit
  match cs.drop first.length with
  | ',' :: rest =>
    let second := rest.takeWhile Char.isDigit
    some (number first, if second.isEmpty then none else some (number second),
      rest.drop second.length)
  | rest => if first.isEmpty then none else some (number first, some (number first), rest)

/-- Repetitions in braces after the opening one. -/
def readBraces (m : Manner) (cs : List Char) :
    Except String (Option (Nat × Option Nat × List Char)) :=
  let closing := if m.extended then ['\x7d'] else ['\\', '\x7d']
  let wrong := if m.extended && !m.strict then .ok none
    else if cs.contains '\x7d' then
      .error "Invalid content of \\\x7b\\\x7d"
    else .error "Unmatched \\\x7b"
  match readCounts cs with
  | none => wrong
  | some (least, most, rest) =>
    if !closing.isPrefixOf rest then wrong
    else if (most.map fun n => decide (n < least)).getD false then
      .error "Invalid content of \\\x7b\\\x7d"
    else if mostRepeats < least || mostRepeats < most.getD 0 then
      .error "Regular expression too big"
    else .ok (some (least, most, rest.drop closing.length))

/-- What is wrong with a sign of repetition where there is nothing to repeat. -/
def nothingToRepeat : String := "Invalid preceding regular expression"

/-- The repetitions after a part, one after the other. -/
def readRepeats (m : Manner) : Nat → Regular → List Char → Except String (Regular × List Char)
  | 0, r, cs => .ok (r, cs)
  | fuel + 1, r, cs => do
    let isRepeated := match r with
      | .repeated _ _ _ => true
      | _ => false
    match m.extended, cs with
    | false, '*' :: _ | false, '\\' :: '\x7b' :: _ =>
      if m.strict && isRepeated then throw nothingToRepeat
    | _, _ => pure ()
    match m.extended, cs with
    | _, '*' :: rest => readRepeats m fuel (.repeated r 0 none) rest
    | true, '+' :: rest | false, '\\' :: '+' :: rest =>
      readRepeats m fuel (.repeated r 1 none) rest
    | true, '?' :: rest | false, '\\' :: '?' :: rest =>
      readRepeats m fuel (.repeated r 0 (some 1)) rest
    | true, '\x7b' :: rest | false, '\\' :: '\x7b' :: rest =>
      match ← readBraces m rest with
      | some (least, most, rest) => readRepeats m fuel (.repeated r least most) rest
      | none => return (r, cs)
    | _, _ => return (r, cs)

/-! ## Parts -/

/-- A letter after a backslash that is no part of the punctuation. -/
def escaped (m : Manner) (c : Char) : Option Regular :=
  let word : CharacterSet := { classes := ["alnum"], ranges := [(95, 95)] }
  let space : CharacterSet := { classes := ["space"] }
  let digit : CharacterSet := { ranges := [(48, 57)] }
  match c with
  | 'd' => if m.knowsDigits then some (.one digit) else none
  | 'D' => if m.knowsDigits then some (.one { digit with negated := true }) else none
  | 'w' => some (.one word)
  | 'W' => some (.one { word with negated := true })
  | 's' => some (.one space)
  | 'S' => some (.one { space with negated := true })
  | 'b' => some (.edge .word)
  | 'B' => some (.edge .noWord)
  | '<' => some (.edge .wordStart)
  | '>' => some (.edge .wordFinish)
  | '\x60' => some (.edge .start)
  | '\'' => some (.edge .finish)
  | _ =>
    let known := [('n', '\n'), ('t', '\t'), ('f', '\x0c'), ('v', '\x0b'), ('a', '\x07'),
      ('r', '\r')]
    ((if m.knowsEscapes then known.lookup c else none)).map m.char

/-- Whether a branch ends here. -/
def endsBranch (m : Manner) (depth : Nat) (cs : List Char) : Bool :=
  match m.extended, cs with
  | _, [] => true
  | true, '|' :: _ | false, '\\' :: '|' :: _ => true
  | true, ')' :: _ => m.strict || 0 < depth
  | false, '\\' :: ')' :: _ => true
  | _, _ => false

/-- Tells that a sign of repetition stands where there is nothing to repeat. -/
def warn (text : String) : Step Unit :=
  modify fun r => { r with warnings := r.warnings ++ [text ++ " at start of expression"] }

mutual

/-- Branches of which one is to match. -/
def readBranches (m : Manner) (depth : Nat) : Nat → List Char → Step (Regular × List Char)
  | 0, cs => return (.nothing, cs)
  | fuel + 1, cs => do
    let (a, rest) ← readBranch m depth fuel true .nothing cs
    match m.extended, rest with
    | true, '|' :: more | false, '\\' :: '|' :: more =>
      let (b, rest) ← readBranches m depth fuel more
      return (.either a b, rest)
    | _, _ => return (a, rest)

/-- The parts of a branch after what was read of it. -/
def readBranch (m : Manner) (depth : Nat) :
    Nat → Bool → Regular → List Char → Step (Regular × List Char)
  | 0, _, done, cs => return (done, cs)
  | fuel + 1, isFirst, done, cs => do
    if endsBranch m depth cs then return (done, cs)
    let (part, isAnchor, rest) ← readPart m depth fuel isFirst cs
    let (part, rest) ← if isAnchor then pure (part, rest)
      else StateT.lift (readRepeats m (rest.length + 1) part rest)
    readBranch m depth fuel (isAnchor && (isFirst || m.extended))
      (if done == .nothing then part else .both done part) rest

/-- One part; whether it is one after which there is nothing to repeat. A sign of repetition where
there is nothing to repeat is wrong, or it means nothing. -/
def readPart (m : Manner) (depth : Nat) : Nat → Bool → List Char →
    Step (Regular × Bool × List Char)
  | 0, _, cs => return (.nothing, false, cs.drop 1)
  | fuel + 1, isFirst, cs => do
    match m.extended, cs with
    | _, [] => return (.nothing, false, [])
    | true, '(' :: rest | false, '\\' :: '(' :: rest =>
      let number := (← get).groups + 1
      modify fun r => { r with groups := number }
      let (r, rest) ← readBranches m (depth + 1) fuel rest
      let after := match m.extended, rest with
        | true, ')' :: after | false, '\\' :: ')' :: after => some after
        | _, _ => none
      match after with
      | none => throw "Unmatched ( or \\("
      | some after =>
        modify fun r => { r with closed := number :: r.closed }
        return (.group number r, false, after)
    | _, '[' :: rest =>
      let (s, rest) ← StateT.lift (readSet m rest)
      return (.one (m.set s), false, rest)
    | _, '.' :: rest => return (.one .all, false, rest)
    | true, '^' :: rest => return (.edge .start, true, rest)
    | true, '$' :: rest => return (.edge .finish, true, rest)
    | false, '^' :: rest =>
      if isFirst then return (.edge .start, true, rest)
      return (m.char '^', false, rest)
    | false, '$' :: rest =>
      if endsBranch m depth rest then return (.edge .finish, false, rest)
      return (m.char '$', false, rest)
    | _, '\\' :: [] => throw "Trailing backslash"
    | _, '\\' :: c :: rest =>
      if c.isDigit && c != '0' then
        let n := c.toNat - 48
        if !(← get).closed.contains n then throw "Invalid back reference"
        return (.earlier n, false, rest)
      match escaped m c with
      | some (.edge e) => return (.edge e, m.extended, rest)
      | some r => return (r, false, rest)
      | none =>
        if c == '\x7b' && !m.extended && isFirst then throw nothingToRepeat
        return (m.char c, false, rest)
    | true, c :: rest =>
      let isSign := isFirst && "*+?\x7b".toList.contains c
      if isSign && m.strict then throw nothingToRepeat
      if isSign && c == '\x7b' then
        match ← StateT.lift (readBraces m rest) with
        | some (_, _, rest) =>
          warn "\x7b...\x7d"
          return (.nothing, true, rest)
        | none => return (m.char c, false, rest)
      if isSign then
        warn (String.singleton c)
        return (.nothing, true, rest)
      return (m.char c, false, rest)
    | false, c :: rest => return (m.char c, false, rest)

end

/-- Reads an expression: it, and what is to be told about it; or what is wrong with it. -/
def read (m : Manner) (text : String) : Except String (Regular × List String) := do
  let cs := text.toList
  let ((r, rest), s) ← (readBranches m 0 (3 * cs.length + 3) cs).run {}
  if !rest.isEmpty then throw "Unmatched ) or \\)"
  return (r, s.warnings)

/-- Whether an expression is in a text. -/
def occurs (m : Manner) (expression text : String) : Bool :=
  match read m expression with
  | .ok (r, _) => r.isIn (text.toList.map Char.toNat)
  | .error _ => false

example : occurs {} "a\\(b*\\)c\\1" "xabbcbby" = true := by decide +kernel
example : occurs { extended := true } "^(ab|c)+$" "abcab" = true := by decide +kernel
example : occurs {} "[[:digit:]]\\\x7b2\\\x7d$" "a1b2" = false := by decide +kernel

end Errand.Text.Regular
