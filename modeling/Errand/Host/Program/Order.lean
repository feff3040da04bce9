import Errand.Host.Program.Content
import Errand.Text.Version

/-! # Lines in order

Lines are put in order by keys. A key is a part of a line that begins in some field and ends in some
field, and it says what its order goes by: bytes, numbers or names of months, in one direction or
the other. Of the keys the first one counts that tells two lines apart, and last the lines
themselves.

`Program.sort` puts the lines of contents in order. -/

namespace Errand.Host.Program

namespace Order

/-- What an order goes by. -/
inductive Kind where
  | bytes
  | numbers
  | reals
  | amounts
  | months
  | versions
  | chance
  deriving DecidableEq, Repr

/-- How two parts of lines are compared. -/
structure Rule where
  kind : Kind := .bytes
  isReversed : Bool := false
  caseless : Bool := false
  /-- Whether only blanks, letters and digits count. -/
  wordsOnly : Bool := false
  /-- Whether only characters count that can be printed. -/
  printedOnly : Bool := false
  skipsBlanks : Bool := false
  deriving DecidableEq, Repr

/-- A key: the field and the character where it begins and those where it ends, counted from zero;
a last character of none is the end of the last field. -/
structure Key where
  field : Nat := 0
  char : Nat := 0
  last : Option (Nat × Nat) := none
  skipsBlanksAtEnd : Bool := false
  rule : Rule := {}
  /-- Whether the key says itself how it is compared. -/
  isOwn : Bool := false

/-- Blanks between fields. -/
def isBlank (b : UInt8) : Bool := b == 32 || b == 9 || b == 10

/-- What follows after fields. -/
def afterFields (mark : Option UInt8) : Nat → Bytes → Bytes
  | 0, bs => bs
  | n + 1, bs =>
    match mark with
    | some m => afterFields mark n ((bs.dropWhile (· != m)).drop 1)
    | none => afterFields mark n ((bs.dropWhile isBlank).dropWhile fun b => !isBlank b)

/-- The place behind fields; the mark after the last of them does not belong to it. -/
def behindFields (mark : Option UInt8) (hasChars : Bool) : Nat → Bytes → Bytes
  | 0, bs => bs
  | n + 1, bs =>
    match mark with
    | some m =>
      let rest := bs.dropWhile (· != m)
      behindFields mark hasChars n (if n = 0 && !hasChars then rest else rest.drop 1)
    | none => behindFields mark hasChars n ((bs.dropWhile isBlank).dropWhile fun b => !isBlank b)

/-- The part of a line that a key means. -/
def Key.part (k : Key) (mark : Option UInt8) (line : Bytes) : Bytes :=
  let start := afterFields mark k.field line
  let start := if k.rule.skipsBlanks then start.dropWhile isBlank else start
  let start := start.drop k.char
  match k.last with
  | none => start
  | some (field, char) =>
    let rest := behindFields mark (char != 0) (if char = 0 then field + 1 else field) line
    let rest := if char = 0 then rest
      else (if k.skipsBlanksAtEnd then rest.dropWhile isBlank else rest).drop char
    start.take (start.length - rest.length)

/-- The number at the beginning of a text, as a quotient of a power of ten, and what follows. -/
def numberOf (bs : Bytes) : Int × Nat × List Char :=
  let cs := (Text.Octets.ofBytes bs).dropWhile fun c => c == ' ' || c == '\t'
  let (negative, body) := match cs with
    | '-' :: rest => (true, rest)
    | cs => (false, cs)
  let whole := body.takeWhile Char.isDigit
  let (part, rest) := match body.drop whole.length with
    | '.' :: rest => (rest.takeWhile Char.isDigit, rest.dropWhile Char.isDigit)
    | rest => ([], rest)
  let n : Int := Numeral.valueOf 10 (whole ++ part)
  (if negative then -n else n, Nat.pow 10 part.length, rest)

/-- Two quotients by size. -/
def compareQuotients (a b : Int × Nat) : Ordering := compare (a.1 * b.2) (b.1 * a.2)

/-- The rank of a number among all of them: what is no number comes first, and then what is below
everything. -/
def realOf (bs : Bytes) : Nat × Int × Nat :=
  let cs := Text.Octets.ofBytes bs
  let r := Numeral.readReal .extended cs
  if r.rest.length = cs.length then (0, 0, 1)
  else match r.value with
    | .notNumber => (1, 0, 1)
    | .infinite negative => (if negative then 2 else 4, 0, 1)
    | .finite d =>
      let (n, m) := d.ratio
      (3, if d.negative then -n else n, m)

/-- The rank of the letter that multiplies a number. -/
def amountRank (rest : List Char) : Nat :=
  match rest with
  | c :: _ => (("KMGTPEZY".toList.findIdx? (· == c)).map (· + 1)).getD (if c == 'k' then 1 else 0)
  | [] => 0

/-- The rank of a month by the beginning of its name; what is none comes first. -/
def monthOf (bs : Bytes) : Nat :=
  let cs := (((Text.Octets.ofBytes bs).dropWhile fun c => c == ' ' || c == '\t').take 3).map
    Char.toUpper
  let names := ["JAN", "FEB", "MAR", "APR", "MAY", "JUN", "JUL", "AUG", "SEP", "OCT", "NOV", "DEC"]
  ((names.findIdx? fun n => n.toList == cs).map (· + 1)).getD 0

/-- The bytes that count. -/
def Rule.counted (r : Rule) (bs : Bytes) : Bytes :=
  let bs := if r.wordsOnly then bs.filter fun b =>
      isBlank b || (Char.ofNat b.toNat).isAlphanum && b < 128
    else if r.printedOnly then bs.filter fun b => 32 ≤ b && b < 127 else bs
  if r.caseless then bs.map fun b => if 97 ≤ b && b ≤ 122 then b - 32 else b else bs

/-- The order of two parts, without its direction. -/
def Rule.compareUp (r : Rule) (a b : Bytes) : Ordering :=
  match r.kind with
  | .bytes => Text.Version.compareBytes (r.counted a) (r.counted b)
  | .numbers =>
    let (m, d, _) := numberOf a
    let (n, e, _) := numberOf b
    compareQuotients (m, d) (n, e)
  | .reals =>
    let (i, m, d) := realOf a
    let (j, n, e) := realOf b
    (compare i j).then (compareQuotients (m, d) (n, e))
  | .amounts =>
    let (m, d, rest) := numberOf a
    let (n, e, rest') := numberOf b
    let rank := fun (m : Int) (rest : List Char) =>
      if m = 0 then (0 : Int) else if m < 0 then -1 - (amountRank rest : Int)
      else 1 + (amountRank rest : Int)
    (compare (rank m rest) (rank n rest')).then (compareQuotients (m, d) (n, e))
  | .months => compare (monthOf a) (monthOf b)
  | .versions => Text.Version.compare a b
  | .chance => .eq

/-- The order of two parts. -/
def Rule.compare (r : Rule) (a b : Bytes) : Ordering :=
  if r.isReversed then r.compareUp b a else r.compareUp a b

/-- The order of two lines by keys. -/
def byKeys (mark : Option UInt8) (ks : List Key) (a b : Bytes) : Ordering :=
  ks.foldl (fun o k => o.then (k.rule.compare (k.part mark a) (k.part mark b))) .eq

/-- A rule with the one that a letter stands for, if it is one. -/
def Rule.withLetter? (r : Rule) (c : Char) : Option Rule :=
  match c with
  | 'n' => some { r with kind := .numbers }
  | 'g' => some { r with kind := .reals }
  | 'h' => some { r with kind := .amounts }
  | 'M' => some { r with kind := .months }
  | 'V' => some { r with kind := .versions }
  | 'R' => some { r with kind := .chance }
  | 'r' => some { r with isReversed := true }
  | 'f' => some { r with caseless := true }
  | 'd' => some { r with wordsOnly := true }
  | 'i' => some { r with printedOnly := true }
  | 'b' => some { r with skipsBlanks := true }
  | _ => none

/-- Reads a field and a character of a key. -/
def readPlace (c : Call) (s : String) (what : String) (cs : List Char) :
    Except String (Nat × Option Nat × List Char) :=
  let wrong := fun (text : String) =>
    .error (text ++ ": invalid field specification " ++ c.quoted s)
  let ds := cs.takeWhile Char.isDigit
  if ds.isEmpty then .error ("invalid number " ++ what ++ ": invalid count at start of " ++
    c.quoted (.ofList cs))
  else
    let field := Numeral.valueOf 10 ds
    if field = 0 then wrong "field number is zero"
    else match cs.drop ds.length with
      | '.' :: rest =>
        let es := rest.takeWhile Char.isDigit
        if es.isEmpty then .error ("invalid number after '.': invalid count at start of " ++
          c.quoted (.ofList rest))
        else .ok (field, some (Numeral.valueOf 10 es), rest.drop es.length)
      | rest => .ok (field, none, rest)

/-- Reads a key. -/
def readKey (c : Call) (s : String) : Except String Key := do
  let stray := "stray character in field spec: invalid field specification " ++ c.quoted s
  let letters := fun (k : Key) (cs : List Char) => cs.foldl (fun (k : Key) l =>
    { k with rule := (k.rule.withLetter? l).getD k.rule, isOwn := true }) k
  let isLetter := fun l => (({} : Rule).withLetter? l).isSome
  let (field, char, rest) ← readPlace c s "at field start" s.toList
  if char == some 0 then
    throw ("character offset is zero: invalid field specification " ++ c.quoted s)
  let own := rest.takeWhile isLetter
  let k := letters { field := field - 1, char := char.getD 1 - 1 } own
  match rest.drop own.length with
  | [] => return k
  | ',' :: rest =>
    let (field, char, rest) ← readPlace c s "after ','" rest
    let others := rest.takeWhile isLetter
    if !(rest.drop others.length).isEmpty then throw stray
    let begins := k.rule.skipsBlanks
    let k := letters { k with last := some (field - 1, char.getD 0) } others
    return { k with skipsBlanksAtEnd := others.contains 'b'
                    rule := { k.rule with skipsBlanks := begins } }
  | _ => throw stray

/-- The first place where lines are not in order, from a number on. -/
def disorder (isRight : Bytes → Bytes → Bool) : Nat → List Bytes → Option (Nat × Bytes)
  | n, a :: b :: rest =>
    if isRight a b then disorder isRight (n + 1) (b :: rest) else some (n + 1, b)
  | _, _ => none

/-- The letters of the kinds of order that cannot go together, if there are such. -/
def clash? (letters : List Char) : Option String :=
  let kinds := letters.filter fun l => "ghMnRV".toList.contains l
  let isOdd := letters.any fun l => l == 'd' || l == 'i'
  let others := (kinds.filter fun l => l != 'R' && l != 'V').eraseDups
  let last := !(kinds.filter fun l => l == 'R' || l == 'V').isEmpty || isOdd
  if 1 < others.length + (if last then 1 else 0) then
    some (String.ofList ("dfghiMnRV".toList.filter fun l => letters.contains l))
  else none

/-- Lines in order, one after the other, from those that are each in order by themselves; the number
bounds the lines. -/
def merged (isRight : Bytes → Bytes → Bool) : Nat → List (List Bytes) → List Bytes
  | 0, _ => []
  | fuel + 1, lists =>
    let heads := lists.filterMap fun l => l.head?
    match heads with
    | [] => []
    | h :: rest =>
      let least := rest.foldl (fun m l => if isRight m l then m else l) h
      match (lists.zip (List.range lists.length)).find? fun e => e.1.head? == some least with
      | some (_, place) => least :: merged isRight fuel (lists.modify place (·.drop 1))
      | none => []

/-- The option that names a kind of order by a word, as a letter. -/
def spelled (g : Options.Given) : Options.Given :=
  let words : List (String × Char) := [("general-numeric", 'g'), ("human-numeric", 'h'),
    ("month", 'M'), ("numeric", 'n'), ("random", 'R'), ("version", 'V')]
  match g with
  | ('\x01', some w) => match words.find? fun e => e.1.startsWith w with
    | some e => (e.2, none)
    | none => g
  | _ => g

end Order

open Errand.Host.Program.Order

/-- Puts the lines of contents in order, or tells where they are not. -/
def sort (c : Call) : Effect :=
  let flags : List Flag := [⟨'b', "ignore-leading-blanks", .nothing⟩,
    ⟨'d', "dictionary-order", .nothing⟩, ⟨'f', "ignore-case", .nothing⟩,
    ⟨'g', "general-numeric-sort", .nothing⟩, ⟨'i', "ignore-nonprinting", .nothing⟩,
    ⟨'M', "month-sort", .nothing⟩, ⟨'h', "human-numeric-sort", .nothing⟩,
    ⟨'n', "numeric-sort", .nothing⟩, ⟨'r', "reverse", .nothing⟩, ⟨'c', "check", .nothing⟩,
    ⟨'C', "", .nothing⟩, ⟨'k', "key", .value⟩, ⟨'m', "merge", .nothing⟩, ⟨'o', "output", .value⟩,
    ⟨'s', "stable", .nothing⟩, ⟨'S', "buffer-size", .value⟩,
    ⟨'t', "field-separator", .value⟩, ⟨'T', "temporary-directory", .value⟩,
    ⟨'u', "unique", .nothing⟩, ⟨'z', "zero-terminated", .nothing⟩,
    ⟨'R', "random-sort", .nothing⟩, ⟨'V', "version-sort", .nothing⟩, ⟨'\x01', "sort", .value⟩,
    ⟨'\x02', "parallel", .value⟩]
  c.withOptionsBy { status := 2 } flags fun r =>
    let r : Options.Read := { r with given := r.given.map spelled }
    let rule := r.given.foldl (fun (rule : Rule) g => (rule.withLetter? g.1).getD rule) {}
    let read : Except String (Option UInt8 × List Key) := do
      let mark ← match r.value? 't' with
        | none => pure none
        | some "" => throw "empty tab"
        | some "\\0" => pure (some 0)
        | some t => match Text.Octets.bytesOf t with
          | [b] => pure (some b)
          | _ => throw ("multi-character tab " ++ c.quoted t)
      let keys ← (r.given.filter fun g => g.1 == 'k').mapM fun g => readKey c (g.2.getD "")
      let clashes := (r.given.filterMap fun g => if g.1 == 'k' then g.2 else none).map String.toList
      match (r.given.map (·.1) :: clashes).findSome? clash? with
      | some letters => throw ("options '-" ++ letters ++ "' are incompatible")
      | none => pure ()
      return (mark, keys)
    match read with
    | .error e => c.complain e 2
    | .ok (mark, keys) =>
      let keys := if keys.isEmpty then (if rule == {} || rule == { isReversed := true } then []
          else [{ rule }])
        else keys.map fun k => if k.isOwn then k
          else { k with rule, skipsBlanksAtEnd := k.skipsBlanksAtEnd || rule.skipsBlanks }
      let keysOrder := byKeys mark keys
      let isPlain := r.has 'u' && !keys.isEmpty || r.has 's' && !keys.isEmpty
      let lastOrder := fun (a b : Bytes) =>
        if rule.isReversed then Text.Version.compareBytes b a else Text.Version.compareBytes a b
      let order := fun (a b : Bytes) =>
        let o := keysOrder a b
        if isPlain then o else o.then (lastOrder a b)
      let sources := Sources.of c r.operands
      let refusal := sources.findSome? fun s => match s.content with
        | .ok _ => none
        | .error .isDirectory => some (c.complain
            ("read failed: " ++ c.shown s.name ++ ": " ++ Refusal.isDirectory.reason) 2)
        | .error e => some (c.complain
            ("cannot read: " ++ c.shown s.name ++ ": " ++ e.reason) 2)
      let end' : UInt8 := if r.has 'z' then 0 else lineEnd
      let lists := sources.map fun s =>
        (lines (((s.content.toOption).map (·.bytes)).getD []) end').map (chomp · end')
      let ls := lists.flatten
      let checks := r.has 'c' || r.has 'C'
      let name := (Sources.namesOf r.operands).headD ""
      match refusal, (r.operands[1]?).filter fun _ => checks with
      | _, some a => c.complain ("extra operand " ++ c.quoted a ++ " not allowed with -c") 2
      | some e, none => e
      | none, none =>
        if checks then
          let isRight := fun a b => order a b == .lt || !r.has 'u' && order a b == .eq
          match disorder isRight 1 ls with
          | none => Sources.reading c r.operands {}
          | some (n, line) =>
            if r.has 'C' then { status := 1 }
            else c.complain (name ++ ":" ++ toString n ++ ": disorder: " ++
              .ofList (Text.Octets.ofBytes line))
        else
          let isRight := fun a b => order a b != .gt
          let sorted := if r.has 'm' then merged isRight (ls.length + 1) lists
            else ls.mergeSort isRight
          let kept := if r.has 'u' then
              (sorted.foldl (fun (done : List Bytes) l =>
                if (done.head?.map fun d => order d l == .eq).getD false then done else l :: done)
                []).reverse
            else sorted
          let out := kept.flatMap (· ++ [end'])
          match r.value? 'o' with
          | none => Sources.reading c r.operands (Effect.write out)
          | some target =>
            match c.withContent target out with
            | .ok files => Sources.reading c r.operands { files := some files }
            | .error e => c.complain ("open failed: " ++ c.shown target ++ ": " ++ e.reason) 2

end Errand.Host.Program
