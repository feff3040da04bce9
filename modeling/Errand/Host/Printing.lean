import Errand.Host.Call
import Errand.Host.Printing.Slot

/-! # Printing by a format

Two programs print arguments by a format: one is a command of the shell, the other a program of its
own. They know different escapes, read numbers with a different precision and complain in different
words; `Dialect` holds what they differ in. Both print the format again as long as it uses up
arguments, and both stop where an escape says so.

* `Printing.printf` prints arguments by a format;
* `Printing.echo` prints arguments with blanks between them. -/

namespace Errand.Host.Printing

/-- What was printed so far: octets, complaints, and what ended it. -/
structure Printed where
  out : List Char := []
  /-- Complaints, each with the number of octets that were printed before it. -/
  complaints : List (Nat × String) := []
  /-- Some argument was no number. -/
  flawed : Bool := false
  /-- An escape said that nothing follows. -/
  ended : Bool := false
  /-- What is wrong with the format, so that nothing follows. -/
  broken : Option String := none

/-- Prints more. -/
def Printed.push (p : Printed) (cs : List Char) : Printed := { p with out := p.out ++ cs }

/-- Whether nothing follows. -/
def Printed.isOver (p : Printed) : Bool := p.ended || p.broken.isSome

/-- The letters of escapes that are one character. -/
def letters : List (Char × Char) :=
  [('\\', '\\'), ('a', '\x07'), ('b', '\x08'), ('e', '\x1b'), ('f', '\x0c'), ('n', '\n'),
    ('r', '\r'), ('t', '\t'), ('v', '\x0b')]

/-- The octet of a number. -/
def octet (n : Nat) : Char := Char.ofNat (n % 256)

/-- What an escape stands for: octets, the end of everything, or a fault in the format; and what
follows it. -/
inductive Escape where
  | octets (cs rest : List Char)
  | stop
  | broken (why : String)

/-- At most so many digits of a base at the beginning of a text. -/
def someDigits (base count : Nat) (cs : List Char) : List Char :=
  (cs.take count).takeWhile (Numeral.isDigitOf base)

/-- An escape of the shell, after its backslash. In an argument a zero may stand before the
digits, and an escape may say that nothing follows. -/
def shellEscape (inArgument : Bool) (cs : List Char) : Escape :=
  match cs with
  | [] => .octets ['\\'] []
  | c :: rest =>
    if inArgument && c == 'c' then .stop
    else
      let digits := if inArgument && c == '0' && (rest.head?.map (Numeral.isDigitOf 8)).getD false
        then rest else cs
      let ds := someDigits 8 3 digits
      if !ds.isEmpty then .octets [octet (Numeral.valueOf 8 ds)] (digits.drop ds.length)
      else match letters.lookup c with
        | some e => .octets [e] rest
        | none => .octets ['\\'] cs

/-- The code points that an escape may name. -/
def isNameable (n : Nat) : Bool := !(0xd800 ≤ n && n ≤ 0xdfff) && n ≤ 0x10ffff

/-- An escape of a program of its own, after its backslash. -/
def programEscape (unicode inArgument : Bool) (cs : List Char) : Escape :=
  match cs with
  | [] => .octets ['\\'] []
  | c :: rest =>
    let digits := if inArgument && c == '0' then rest else cs
    let ds := someDigits 8 3 digits
    if c == 'x' then
      let hex := someDigits 16 2 rest
      if hex.isEmpty then .broken "missing hexadecimal number in escape"
      else .octets [octet (Numeral.valueOf 16 hex)] (rest.drop hex.length)
    else if Numeral.isDigitOf 8 c then
      .octets [octet (Numeral.valueOf 8 ds)] (digits.drop ds.length)
    else if c == '"' then .octets ['"'] rest
    else if c == 'c' then .stop
    else if c == 'u' || c == 'U' then
      let count := if c == 'u' then 4 else 8
      let hex := someDigits 16 count rest
      let n := Numeral.valueOf 16 hex
      if hex.length < count then .broken "missing hexadecimal number in escape"
      else if !isNameable n then
        .broken ("invalid universal character name \\" ++ String.ofList (c :: hex.map Char.toLower))
      else
        let shown := if unicode || n < 128 then
            Text.Octets.ofBytes (String.utf8EncodeChar (Char.ofNat n))
          else '\\' :: 'u' :: (hex.drop (count - 4)).map Char.toUpper
        .octets shown (rest.drop count)
    else match letters.lookup c with
      | some e => .octets [e] rest
      | none => .octets ['\\', c] rest

/-- Replaces escapes in a text; whether one of them said that nothing follows, or what is wrong. -/
def unescape (escape : List Char → Escape) : Nat → List Char → Printed
  | 0, _ => {}
  | _ + 1, [] => {}
  | fuel + 1, c :: cs =>
    if c == '\\' then
      match escape cs with
      | .stop => { ended := true }
      | .broken why => { broken := some why }
      | .octets e rest =>
        let p := unescape escape fuel rest
        { p with out := e ++ p.out }
    else
      let p := unescape escape fuel cs
      { p with out := c :: p.out }

/-- What the two programs differ in. -/
inductive Dialect where
  | shell
  | program (unicode : Bool)
  deriving DecidableEq, Repr

namespace Dialect

/-- What an escape stands for. -/
def escape (d : Dialect) (inArgument : Bool) (cs : List Char) : Escape :=
  match d with
  | shell => shellEscape inArgument cs
  | program unicode => programEscape unicode inArgument cs

/-- The precision of numbers with a point. -/
def precision : Dialect → Precision
  | shell => .double
  | program _ => .extended

/-- An argument in a complaint. -/
def name (d : Dialect) (argument : String) : String :=
  match d with
  | shell => argument
  | program unicode => Quoting.spoken unicode argument

/-- What is told about an argument that is no number as a whole. -/
def complaint (d : Dialect) (argument : String) (readNothing : Bool) : String :=
  d.name argument ++ match d, readNothing with
    | shell, true => ": expected numeric value"
    | shell, false => ": not completely converted"
    | program _, true => ": expected a numeric value"
    | program _, false => ": value not completely converted"

/-- The flags of a slot. -/
def flags : Dialect → List Char
  | shell => "#-+ 0".toList
  | program _ => "#-+ 0'I".toList

end Dialect

/-- Looks at what was read of an argument, and complains if it is not a number as a whole. -/
def checked {α : Type} (d : Dialect) (argument : String) (r : Numeral.Reading α) : α × Printed :=
  let flaw := fun text => (r.value, ({ complaints := [(0, text)], flawed := true } : Printed))
  let unread := d.complaint argument (r.rest.length = argument.length)
  let far := d.name argument ++ ": Numerical result out of range"
  match d with
  | .shell =>
    if !r.rest.isEmpty then flaw unread else if r.outOfRange then flaw far else (r.value, {})
  | .program _ =>
    if r.outOfRange then flaw far else if !r.rest.isEmpty then flaw unread else (r.value, {})

/-- The character after a quote counts as its number; a program of its own knows more than one
octet of it, and complains about what follows. -/
def characterCode? (d : Dialect) (argument : String) : Option (Nat × Printed) :=
  match argument.toList with
  | q :: cs =>
    if q != '\'' && q != '"' then none
    else match d, cs with
      | .shell, _ => some ((cs.head?.map Char.toNat).getD 0, {})
      | .program _, [] => none
      | .program unicode, c :: rest =>
        let (n, width) := match Text.Utf8.pieces (Text.Octets.toBytes (cs.take 4)) with
          | .char e :: _ => if unicode then (e.toNat, e.utf8Size) else (c.toNat, 1)
          | _ => (c.toNat, 1)
        let after := (c :: rest).drop width
        some (n, if after.isEmpty then {} else { complaints := [(0, "warning: " ++
          .ofList after ++ ": character(s) following character constant have been ignored")] })
  | [] => none

/-- A whole number in an argument. -/
def wholeOf (d : Dialect) (signed : Bool) (argument : String) : Int × Printed :=
  match characterCode? d argument with
  | some (n, p) => (n, p)
  | none =>
    let cs := argument.toList
    checked d argument (if signed then Numeral.readWhole none cs else Numeral.readNatural none cs)

/-- A number in an argument. -/
def realOf (d : Dialect) (argument : String) : Magnitude × Printed :=
  match characterCode? d argument with
  | some (n, p) => (.finite ⟨false, n, 0⟩, p)
  | none => checked d argument (Numeral.readReal d.precision argument.toList)

/-- The argument in a slot, by the letter of the conversion; none for a letter that is none. -/
def fill? (d : Dialect) (s : Slot) (letter : Char) (argument : String) : Option Printed :=
  let cs := argument.toList
  if letter == 's' then some { out := s.fillText cs }
  else if letter == 'c' then some { out := s.pad [cs.headD '\x00'] }
  else if letter == 'b' then
    let p := unescape (d.escape true) (cs.length + 1) cs
    some { p with out := s.fillText p.out }
  else if letter == 'd' || letter == 'i' then
    let (n, p) := wholeOf d true argument
    some { p with out := s.fillWhole letter n }
  else if "ouxX".toList.contains letter then
    let (n, p) := wholeOf d false argument
    some { p with out := s.fillWhole letter n }
  else if "aAeEfFgG".toList.contains letter then
    let (v, p) := realOf d argument
    some { p with out := s.fillReal d.precision letter v }
  else none

/-- The flags at the head of a format. -/
def readFlags (flags : List Char) : Slot → List Char → Slot × List Char
  | s, c :: cs =>
    if flags.contains c then readFlags flags ((s.withFlag? c).getD s) cs else (s, c :: cs)
  | s, [] => (s, [])

/-- A number at the head of a format, which may be an argument; what is left of both, and what was
told about the argument. -/
def readCount (d : Dialect) (cs : List Char) (arguments : List String) :
    Option Int × List Char × List String × Printed :=
  match cs with
  | '*' :: rest =>
    match arguments with
    | a :: more =>
      let (n, p) := wholeOf d true a
      (some n, rest, more, p)
    | [] => (some 0, rest, [], {})
  | _ =>
    let ds := cs.takeWhile Char.isDigit
    (if ds.isEmpty then none else some (Numeral.valueOf 10 ds), cs.drop ds.length, arguments, {})

/-- Two prints, one after the other. -/
def Printed.andThen (a b : Printed) : Printed :=
  let later := b.complaints.map fun (n, text) => (a.out.length + n, text)
  ⟨a.out ++ b.out, a.complaints ++ later, a.flawed || b.flawed, a.ended || b.ended,
    a.broken.or b.broken⟩

/-- The flags, width and precision with which a letter cannot stand in a program of its own. -/
def isInvalid (text : List Char) (letter : Char) : Bool :=
  let flags := text.takeWhile fun c => "#-+ 0'I".toList.contains c
  let hasPoint := text.contains '.'
  (flags.any fun c => c == '\'' || c == 'I') && "aAceEosxX".toList.contains letter ||
    flags.contains '#' && "cdisu".toList.contains letter ||
    flags.contains '0' && "cs".toList.contains letter ||
    hasPoint && letter == 'c' || letter == 'b' && !text.isEmpty

/-- A slot at the head of a format, after its mark: what is printed, and what is left of the format
and the arguments. -/
def printSlot (d : Dialect) (cs : List Char) (arguments : List String) :
    Printed × List Char × List String :=
  let (slot, rest) := readFlags d.flags {} cs
  let (width, rest, arguments, first) := readCount d rest arguments
  let slot := match width with
    | some n => slot.withWidth n
    | none => slot
  let (slot, rest, arguments, second) := match rest with
    | '.' :: rest =>
      let (n, rest, arguments, p) := readCount d rest arguments
      (slot.withPrecision (n.getD 0), rest, arguments, p)
    | _ => (slot, rest, arguments, {})
  let told := first.andThen second
  let spelled := cs.take (cs.length - rest.length)
  let rest := match d with
    | .shell => rest
    | .program _ => rest.dropWhile "lLhjtz".toList.contains
  let text := fun (n : Nat) => "%" ++ String.ofList (cs.take (cs.length - rest.length + n))
  match rest with
  | [] =>
    let why := match d with
      | .shell => "missing format character"
      | .program _ => text 0 ++ ": invalid conversion specification"
    ({ told with broken := some why }, [], [])
  | letter :: after =>
    let argument := arguments.headD ""
    let filled := match d with
      | .shell => fill? d slot letter argument
      | .program unicode =>
        if letter == 'q' && spelled.isEmpty then
          some { out := if arguments.isEmpty then []
            else (Quoting.whereNeeded unicode argument).toList }
        else if isInvalid spelled letter then none else fill? d slot letter argument
    match filled with
    | some p => (told.andThen p, after, arguments.drop 1)
    | none =>
      let why := match d with
        | .shell => "%" ++ String.ofList (cs.take (cs.length - after.length)) ++
          ": invalid directive"
        | .program _ => text 1 ++ ": invalid conversion specification"
      ({ told with broken := some why }, [], [])

/-- Prints a format once; the last part of the result is what is left of the arguments. -/
def once (d : Dialect) : Nat → Printed → List Char → List String → Printed × List String
  | 0, done, _, arguments => (done, arguments)
  | _ + 1, done, [], arguments => (done, arguments)
  | fuel + 1, done, c :: cs, arguments =>
    if c == '\\' then
      match d.escape false cs with
      | .stop => ({ done with ended := true }, [])
      | .broken why => ({ done with broken := some why }, [])
      | .octets e rest => once d fuel (done.push e) rest arguments
    else if c == '%' then
      match cs with
      | '%' :: rest => once d fuel (done.push ['%']) rest arguments
      | _ =>
        let (p, rest, left) := printSlot d cs arguments
        let done := done.andThen p
        if done.isOver then (done, []) else once d fuel done rest left
    else
      let plain := (c :: cs).takeWhile fun c => c != '\\' && c != '%'
      once d fuel (done.push plain) (cs.drop (plain.length - 1)) arguments

/-- Prints a format, again and again as long as it uses up arguments. -/
def repeated (d : Dialect) (cs : List Char) : Nat → Printed → List String → Printed × List String
  | 0, done, arguments => (done, arguments)
  | fuel + 1, done, arguments =>
    let (done, rest) := once d (cs.length + 1) done cs arguments
    if done.isOver || rest.isEmpty || rest.length = arguments.length then (done, rest)
    else repeated d cs fuel done rest

/-- Prints arguments by a format; the last part of the result is what is left of the arguments. -/
def printf (d : Dialect) (format : String) (arguments : List String) : Printed × List String :=
  repeated d format.toList (arguments.length + 1) {} arguments

/-! ## Printing with blanks between -/

/-- The options of a program of its own: whether a line ends, and whether escapes count. -/
def echoOptions (newline escapes : Bool) : List String → Bool × Bool × List String
  | [] => (newline, escapes, [])
  | a :: rest =>
    match a.toList with
    | '-' :: c :: cs =>
      if (c :: cs).all fun c => c == 'n' || c == 'e' || c == 'E' then
        let escapes := (c :: cs).foldl
          (fun e c => if c == 'e' then true else if c == 'E' then false else e) escapes
        echoOptions (newline && !(c :: cs).contains 'n') escapes rest
      else (newline, escapes, a :: rest)
    | _ => (newline, escapes, a :: rest)

/-- An escape of a program that prints with blanks, after its backslash. -/
def echoEscape (cs : List Char) : Escape :=
  match cs with
  | [] => .octets ['\\'] []
  | c :: rest =>
    let ds := someDigits 8 3 (if c == '0' then rest else cs)
    if c == 'c' then .stop
    else if c == 'x' then
      let hex := someDigits 16 2 rest
      if hex.isEmpty then .octets ['\\', 'x'] rest
      else .octets [octet (Numeral.valueOf 16 hex)] (rest.drop hex.length)
    else if c == '0' then .octets [octet (Numeral.valueOf 8 ds)] (rest.drop ds.length)
    else if Numeral.isDigitOf 8 c then
      .octets [octet (Numeral.valueOf 8 ds)] (cs.drop ds.length)
    else match letters.lookup c with
      | some e => .octets [e] rest
      | none => .octets ['\\', c] rest

/-- Prints arguments with blanks between them. -/
def echo (d : Dialect) (arguments : List String) : List Char :=
  match d with
  | .shell =>
    let (newline, texts) := match arguments with
      | "-n" :: rest => (false, rest)
      | _ => (true, arguments)
    let cs := (" ".intercalate texts).toList
    let p := unescape (shellEscape true) (cs.length + 1) cs
    if newline && !p.ended then p.out ++ ['\n'] else p.out
  | .program _ =>
    let (newline, escapes, texts) := echoOptions true false arguments
    let cs := (" ".intercalate texts).toList
    let p : Printed := if escapes then unescape echoEscape (cs.length + 1) cs else { out := cs }
    if newline && !p.ended then p.out ++ ['\n'] else p.out

example : (printf .shell "%d|" ["5x", "7"]).1.out = "5|7|".toList := by decide +kernel
example : (printf (.program true) "%5.1f|" ["2"]).1.out = "  2.0|".toList := by decide +kernel

end Errand.Host.Printing
