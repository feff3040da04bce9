import Errand.Host.Numeral

/-! # Modes

A mode says who may do what with a file: the owner, the group and all others may read, write and
start it, each or not; three more bits hand on the owner or the group, or keep others from removing
what is in a directory. A mode is written in octal digits or in letters. A text can also say how one
mode is made of another one.

* `Mode.letters` shows a mode in letters;
* `Mode.read?` reads a text as changes, and `Mode.after` makes them. -/

namespace Errand.Host.Mode

/-- Nine bits for reading, writing and starting. -/
def ordinary : Nat := 0o777

/-- All bits of a mode. -/
def every : Nat := 0o7777

/-- A mode without some of its bits. -/
def without (mode bits : Nat) : Nat := mode - (mode &&& bits)

/-- What one of the three may do, in letters; the special bit shows where starting stands. -/
def lettersOf (bits : Nat) (special : Bool) (mark : Char) : List Char :=
  let mayStart := bits &&& 1 != 0
  [if bits &&& 4 != 0 then 'r' else '-', if bits &&& 2 != 0 then 'w' else '-',
    if special then (if mayStart then mark else mark.toUpper)
    else if mayStart then 'x' else '-']

/-- A mode in letters. -/
def letters (mode : Nat) : String :=
  .ofList (lettersOf (mode / 64) (mode &&& 0o4000 != 0) 's' ++
    lettersOf (mode / 8) (mode &&& 0o2000 != 0) 's' ++ lettersOf mode (mode &&& 0o1000 != 0) 't')

example : letters 0o4754 = "rwsr-xr--" ∧ letters 0o1644 = "rw-r--r-T" := by decide +kernel

/-- A mode in octal digits. -/
def digits (mode : Nat) : String :=
  let ds := Nat.toDigits 8 mode
  .ofList (List.replicate (4 - ds.length) '0' ++ ds)

/-- Which bits a change puts. -/
inductive Source where
  /-- Those that the text names. -/
  | named
  /-- Those that one of the three has. -/
  | copied
  /-- Those that the text names, and starting if anyone may start it. -/
  | extended
  deriving DecidableEq

/-- A change of a mode: whether bits are set, added or taken away, the bits that it is limited to,
none for those that the mask of a process leaves, and the bits that it puts. -/
structure Change where
  sign : Char
  reach : Nat
  value : Nat
  source : Source := .named
  /-- The bits that the text names, in contrast to those it only implies. -/
  mentioned : Nat

/-- The bits of one of the three, or of all. -/
def reachOf (who : Char) : Nat :=
  match who with
  | 'u' => 0o4700
  | 'g' => 0o2070
  | 'o' => 0o1007
  | _ => every

/-- The bits of a letter. -/
def bitsOf (letter : Char) : Nat :=
  match letter with
  | 'r' => 0o444
  | 'w' => 0o222
  | 'x' => 0o111
  | 's' => 0o6000
  | 't' => 0o1000
  | _ => 0

/-- The changes of a part of a text, after those it is limited to. -/
def readChanges? (reach : Nat) : Nat → List Char → Option (List Change)
  | 0, _ => none
  | _, [] => some []
  | fuel + 1, sign :: cs =>
    if !"+-=".toList.contains sign then none
    else match cs with
      | 'u' :: rest | 'g' :: rest | 'o' :: rest =>
        let value := reachOf (cs.headD 'u') &&& ordinary
        (readChanges? reach fuel rest).map
          (⟨sign, reach, value, .copied, if reach = 0 then value else reach &&& value⟩ :: ·)
      | _ =>
        let ds := cs.takeWhile (Numeral.isDigitOf 8)
        if !ds.isEmpty then
          let value := Numeral.valueOf 8 ds
          if reach != 0 || ds.length < cs.length || every < value then none
          else some [⟨sign, every, value, .named, every⟩]
        else
          let names := cs.takeWhile "rwxXst".toList.contains
          let value := (names.map bitsOf).foldl (· ||| ·) 0
          (readChanges? reach fuel (cs.drop names.length)).map
            (⟨sign, reach, value, if names.contains 'X' then .extended else .named,
              if reach = 0 then value else reach &&& value⟩ :: ·)

/-- The changes that a text asks for: a mode in octal digits, or parts with letters. -/
def read? (s : String) : Option (List Change) :=
  let cs := s.toList
  if (cs.head?.map (Numeral.isDigitOf 8)).getD false then
    let value := Numeral.valueOf 8 cs
    if cs.all (Numeral.isDigitOf 8) && value ≤ every then
      some [⟨'=', every, value, .named,
        if cs.length < 5 then (value &&& 0o7000) ||| ordinary else every⟩]
    else none
  else
    ((cs.splitOn ',').mapM fun (part : List Char) =>
      let who := part.takeWhile "ugoa".toList.contains
      let rest := part.drop who.length
      if rest.isEmpty then none
      else readChanges? ((who.map reachOf).foldl (· ||| ·) 0) (rest.length + 1) rest).map
        List.flatten

/-- Three bits for everyone whom one of the three has. -/
def spread (bits : Nat) : Nat :=
  [0o444, 0o222, 0o111].foldl (fun all b => if bits &&& b != 0 then all ||| b else all) bits

/-- A mode after a change; the mask limits changes that are limited to nobody. A directory hands on
its owner and its group until a text names them. -/
def Change.apply (c : Change) (mask : Nat) (isDirectory : Bool) (mode : Nat) : Nat :=
  let kept := if isDirectory then without 0o6000 c.mentioned else 0
  let value := match c.source with
    | .named => c.value
    | .copied => spread (c.value &&& mode)
    | .extended => if isDirectory || mode &&& 0o111 != 0 then c.value ||| 0o111 else c.value
  let value := without (value &&& (if c.reach = 0 then without every mask else c.reach)) kept
  match c.sign with
  | '+' => mode ||| value
  | '-' => without mode value
  | _ => (mode &&& ((if c.reach = 0 then 0 else without every c.reach) ||| kept)) ||| value

/-- A mode after changes. -/
def after (changes : List Change) (mask : Nat) (isDirectory : Bool) (mode : Nat) : Nat :=
  changes.foldl (fun mode c => c.apply mask isDirectory mode) mode

/-- The mode that a text makes of another one of a file. -/
def ofText? (s : String) (mode : Nat) : Option Nat :=
  (read? s).map fun changes => after changes 0o022 false mode

example : ofText? "u+x,g-r" 0o644 = some 0o704 ∧ ofText? "g=u" 0o644 = some 0o664 := by
  decide +kernel
example : ofText? "77777" 0 = none ∧ ofText? "+w" 0o400 = some 0o600 := by decide +kernel

end Errand.Host.Mode
