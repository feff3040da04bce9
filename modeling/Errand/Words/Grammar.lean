import Errand.Words

/-! # The grammar of command lines

What a command line is, said without reading it. A word is a list of *pieces*, each of them with
its written form and its value; between double quotes a piece is a list of *items*. A command line
is words with gaps between them, where a gap is a stretch of separators. A text that is no command
line breaks off inside a piece: inside quotes, or right after a backslash.

* `Spells line words` holds when the line is the words with gaps between and around them;
* `Unclosed` and `Dangling` are the two ways in which a line breaks off. -/

namespace Errand.Words

/-- What stands between double quotes: a character, or a backslash and a character. -/
inductive Item where
  | plain (c : Char)
  | escaped (c : Char)
  deriving DecidableEq, Repr

namespace Item

/-- Whether the characters of an item can stand for it. -/
def WellFormed : Item → Prop
  | plain c => c ≠ '"' ∧ c ≠ '\\'
  | escaped _ => True

/-- The characters of an item. -/
def written : Item → List Char
  | plain c => [c]
  | escaped c => ['\\', c]

/-- What an item stands for: the backslash goes before a double quote or a backslash only. -/
def value : Item → List Char
  | plain c => [c]
  | escaped c => if c = '"' ∨ c = '\\' then [c] else ['\\', c]

end Item

/-- What a word is made of. -/
inductive Piece where
  | plain (c : Char)
  | escaped (c : Char)
  | single (cs : List Char)
  | double (items : List Item)
  deriving DecidableEq, Repr

namespace Piece

/-- Whether the characters of a piece can stand for it. -/
def WellFormed : Piece → Prop
  | plain c => isSeparator c = false ∧ c ≠ '\'' ∧ c ≠ '"' ∧ c ≠ '\\'
  | escaped _ => True
  | single cs => '\'' ∉ cs
  | double items => ∀ i ∈ items, i.WellFormed

/-- The characters of a piece. -/
def written : Piece → List Char
  | plain c => [c]
  | escaped c => ['\\', c]
  | single cs => '\'' :: cs ++ ['\'']
  | double items => '"' :: items.flatMap Item.written ++ ['"']

/-- What a piece stands for. -/
def value : Piece → List Char
  | plain c => [c]
  | escaped c => [c]
  | single cs => cs
  | double items => items.flatMap Item.value

end Piece

/-- The pieces of a word: at least one, and each of them well formed. -/
def IsWord (pieces : List Piece) : Prop :=
  pieces ≠ [] ∧ ∀ p ∈ pieces, p.WellFormed

/-- What a word stands for. -/
def wordValue (pieces : List Piece) : String :=
  .ofList (pieces.flatMap Piece.value)

/-- A stretch of separators, which may be empty. -/
def IsGap (cs : List Char) : Prop :=
  ∀ c ∈ cs, isSeparator c = true

/-- The line is the words, with gaps between and around them that are not empty between any two. -/
inductive Spells : List Char → List (List Piece) → Prop where
  | gap {cs : List Char} : IsGap cs → Spells cs []
  | word {cs rest : List Char} {pieces : List Piece} {words : List (List Piece)} :
      IsGap cs → IsWord pieces → Spells rest words → (∀ c ∈ rest.head?, isSeparator c = true) →
      Spells (cs ++ pieces.flatMap Piece.written ++ rest) (pieces :: words)

/-- What is left of a line that breaks off inside quotes. -/
inductive OpenQuote : List Char → Prop where
  | single {cs : List Char} : '\'' ∉ cs → OpenQuote ('\'' :: cs)
  | double {items : List Item} : (∀ i ∈ items, i.WellFormed) →
      OpenQuote ('"' :: items.flatMap Item.written)

/-- What is left of a line that breaks off right after a backslash. -/
inductive OpenEscape : List Char → Prop where
  | bare : OpenEscape ['\\']
  | double {items : List Item} : (∀ i ∈ items, i.WellFormed) →
      OpenEscape ('"' :: items.flatMap Item.written ++ ['\\'])

/-- The line breaks off inside quotes. -/
def Unclosed (line : List Char) : Prop :=
  ∃ before words rest, Spells before words ∧ OpenQuote rest ∧ line = before ++ rest

/-- The line breaks off right after a backslash. -/
def Dangling (line : List Char) : Prop :=
  ∃ before words rest, Spells before words ∧ OpenEscape rest ∧ line = before ++ rest

example : wordValue [.plain 'a', .single ['b', ' '], .double [.escaped 'x', .escaped '"']] =
    "ab \\x\"" := by decide +kernel

end Errand.Words
