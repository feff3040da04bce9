/-! # Patterns

A pattern is made of characters that stand for themselves, of wildcards for one character and for
any row of characters, and of sets of characters. A quoted character always stands for itself, and
so does one after a backslash.

`Wildcard.isMatch` tells whether a text fits a pattern. -/

namespace Errand.Text

/-- A member of a set of characters: a range, or a class that has a name. -/
inductive Wildcard.Member where
  | range (first last : Char)
  | named (p : Char → Bool)

/-- A part of a pattern. -/
inductive Wildcard where
  | char (c : Char)
  | one
  | any
  | set (negated : Bool) (members : List Wildcard.Member)

namespace Wildcard

/-- A character and whether it is quoted. -/
abbrev Marked := Char × Bool

/-- The classes of characters that have a name. -/
def classes : List (String × (Char → Bool)) :=
  let isPunctuation := fun (c : Char) => 32 < c.toNat && c.toNat < 127 && !c.isAlphanum
  [("alnum", Char.isAlphanum), ("alpha", Char.isAlpha), ("blank", fun c => c == ' ' || c == '\t'),
    ("cntrl", fun c => c.toNat < 32 || c.toNat == 127), ("digit", Char.isDigit),
    ("graph", fun c => 32 < c.toNat && c.toNat < 127), ("lower", Char.isLower),
    ("print", fun c => 32 ≤ c.toNat && c.toNat < 127), ("punct", isPunctuation),
    ("space", fun c => c == ' ' || (9 ≤ c.toNat && c.toNat ≤ 13)), ("upper", Char.isUpper),
    ("xdigit", fun c => c.isDigit || ('a' ≤ c && c ≤ 'f') || ('A' ≤ c && c ≤ 'F'))]

/-- The class whose name follows an opening bracket in a set, and what follows it. -/
def readClass? (cs : List Marked) : Option ((Char → Bool) × List Marked) :=
  match cs with
  | (':', false) :: rest =>
    let name := (rest.takeWhile fun c => c.1.isAlpha).map (·.1)
    match rest.drop name.length with
    | (':', false) :: (']', false) :: after =>
      (classes.lookup (.ofList name)).map fun p => (p, after)
    | _ => none
  | _ => none

/-- The members of a set up to its closing bracket, and what follows. A bracket that comes first
does not close. -/
def readMembers : Nat → Bool → List Marked → Option (List Member × List Marked)
  | 0, _, _ => none
  | _ + 1, _, [] => none
  | fuel + 1, isFirst, (c, q) :: rest =>
    if c == ']' && !q && !isFirst then some ([], rest)
    else
      match if c == '[' && !q then readClass? rest else none with
      | some (p, rest) =>
        (readMembers fuel false rest).map fun (ms, rest) => (.named p :: ms, rest)
      | none =>
        match rest with
        | ('-', false) :: (d, q') :: after =>
          if d == ']' && !q' then
            (readMembers fuel false rest).map fun (ms, rest) => (.range c c :: ms, rest)
          else (readMembers fuel false after).map fun (ms, rest) => (.range c d :: ms, rest)
        | _ => (readMembers fuel false rest).map fun (ms, rest) => (.range c c :: ms, rest)

/-- The set that follows an opening bracket, if it is closed. -/
def readSet? (cs : List Marked) : Option (Wildcard × List Marked) :=
  match cs with
  | ('!', false) :: rest =>
    (readMembers (rest.length + 1) true rest).map fun (ms, rest) => (.set true ms, rest)
  | _ => (readMembers (cs.length + 1) true cs).map fun (ms, rest) => (.set false ms, rest)

/-- Reads a pattern. -/
def readPattern : Nat → List Marked → List Wildcard
  | 0, _ => []
  | _ + 1, [] => []
  | fuel + 1, (c, q) :: rest =>
    if q then .char c :: readPattern fuel rest
    else if c == '*' then .any :: readPattern fuel rest
    else if c == '?' then .one :: readPattern fuel rest
    else if c == '[' then
      match readSet? rest with
      | some (w, rest) => w :: readPattern fuel rest
      | none => .char c :: readPattern fuel rest
    else .char c :: readPattern fuel rest

/-- A character after a backslash that is not quoted counts as quoted. -/
def unescaped : List Marked → List Marked
  | ('\\', false) :: (c, _) :: rest => (c, true) :: unescaped rest
  | c :: rest => c :: unescaped rest
  | [] => []

/-- The pattern of marked characters. -/
def ofMarked (cs : List Marked) : List Wildcard := readPattern cs.length (unescaped cs)

/-- Whether a character is one of a member. -/
def Member.has (c : Char) : Member → Bool
  | .range first last => first ≤ c && c ≤ last
  | .named p => p c

/-- Whether a character fits a part other than the wildcard for any row. -/
def fits (c : Char) : Wildcard → Bool
  | char d => c == d
  | one => true
  | any => false
  | set negated members => negated != members.any (Member.has c)

/-- Whether a text fits a pattern. -/
def isMatch : List Wildcard → List Char → Bool
  | [], cs => cs.isEmpty
  | any :: ws, [] => isMatch ws []
  | _ :: _, [] => false
  | any :: ws, c :: cs => isMatch ws (c :: cs) || isMatch (any :: ws) cs
  | w :: ws, c :: cs => fits c w && isMatch ws cs
termination_by ws cs => ws.length + cs.length

/-- Whether a text fits a pattern of which nothing is quoted. -/
def isFit (pattern text : String) : Bool :=
  isMatch (ofMarked (pattern.toList.map fun c => (c, false))) text.toList

example : isFit "*.[ch]" "a.b.c" = true := by decide +kernel

/-- Whether a pattern has a wildcard. -/
def isPattern (ws : List Wildcard) : Bool :=
  ws.any fun
    | char _ => false
    | _ => true

end Wildcard

end Errand.Text
