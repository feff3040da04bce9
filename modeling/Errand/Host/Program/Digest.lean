import Errand.Host.Program.Basic
import Errand.Host.Program.Sources
import Errand.Text.Digest

/-! # Digests of contents

A digest of a content stands on a line of its own before the name of the content. Lines of that kind
can be read again, to tell whether the contents still have those digests. -/

namespace Errand.Host.Program

namespace Checking

/-- A digest: its name, how many digits it has, and what it is of bytes. -/
structure Method where
  name : String
  digits : Nat
  of : Bytes → Bytes

/-- The digests. -/
def md5 : Method := ⟨"MD5", 32, Text.Digest.md5⟩

@[inherit_doc md5] def sha1 : Method := ⟨"SHA1", 40, Text.Digest.sha1⟩

@[inherit_doc md5] def sha256 : Method := ⟨"SHA256", 64, Text.Digest.sha256⟩

/-- A name on a line of a digest: one with a line end in it has escapes, and a mark before the
digest. -/
def marked (name : String) : String × String :=
  let special : List (Char × String) := [('\\', "\\\\"), ('\n', "\\n"), ('\r', "\\r")]
  if name.any fun ch => (special.lookup ch).isSome then
    ("\\", String.join (name.toList.map fun ch => (special.lookup ch).getD (String.singleton ch)))
  else ("", name)

/-- The line of a digest. -/
def Method.line (m : Method) (r : Options.Read) (name : String) (bs : Bytes) : String :=
  let digest := Text.Digest.hex (m.of bs)
  let ending := if r.has 'z' then "\x00" else "\n"
  let (mark, shown) := if r.has 'z' then ("", name) else marked name
  if r.has '\x01' then mark ++ m.name ++ " (" ++ shown ++ ") = " ++ digest ++ ending
  else mark ++ digest ++ (if r.has 'b' then " *" else "  ") ++ shown ++ ending

/-- The digest and the name on a line. -/
def Method.readLine? (m : Method) (line : String) : Option (String × String) :=
  let cs := line.toList
  let digest := cs.take m.digits
  match cs.drop m.digits with
  | ' ' :: kind :: name =>
    if (kind == ' ' || kind == '*') && digest.length = m.digits &&
        digest.all (Numeral.isDigitOf 16) && !name.isEmpty then
      some (.ofList (digest.map Char.toLower), .ofList name)
    else none
  | _ => none

/-- A line about things of which there are some. -/
def warning (c : Call) (n : Nat) (one many : String) : Effect :=
  if n = 0 then {}
  else c.complain ("WARNING: " ++ toString n ++ " " ++ if n = 1 then one else many) 0

/-- Tells whether contents have the digests on the lines of a list. -/
def Method.check (m : Method) (c : Call) (r : Options.Read) (list : String) (bs : Bytes) : Effect :=
  let lines := ((lines bs).map fun l => String.ofList (Text.Octets.ofBytes (chomp l)))
  let found := lines.map m.readLine?
  let isQuiet := r.has '\x02'
  let isSilent := r.has '\x03'
  let results := found.filterMap fun f => f.map fun (digest, name) => match c.open? name with
    | .error e => (Effect.andThen (c.complain (c.shown name ++ ": " ++ e.reason))
        (if isSilent then {} else say (name ++ ": FAILED open or read\n")), some false)
    | .ok i =>
      let isSame := Text.Digest.hex (m.of i.bytes) == digest
      (if isSilent || isSame && isQuiet then {}
        else say (name ++ (if isSame then ": OK\n" else ": FAILED\n")),
        if isSame then none else some true)
  let improper := found.countP (·.isNone)
  let unread := results.countP (·.2 == some false)
  let different := results.countP (·.2 == some true)
  if results.isEmpty then
    c.complain (c.shown (if list == "-" then "standard input" else list) ++
      ": no properly formatted checksum lines found")
  else
    let told := Effect.all (results.map (·.1))
    let told := if isSilent then told else Effect.all [told,
      warning c improper "line is improperly formatted" "lines are improperly formatted",
      warning c unread "listed file could not be read" "listed files could not be read",
      warning c different "computed checksum did NOT match" "computed checksums did NOT match"]
    let isGood := unread + different = 0 && !(r.has '\x04' && improper ≠ 0)
    { told with status := if isGood then 0 else 1 }

end Checking

open Checking in
/-- Tells the digests of contents, or checks them. -/
def digest (m : Method) (c : Call) : Effect :=
  let flags : List Flag := [⟨'b', "binary", .nothing⟩, ⟨'t', "text", .nothing⟩,
    ⟨'c', "check", .nothing⟩, ⟨'z', "zero", .nothing⟩, ⟨'\x01', "tag", .nothing⟩,
    ⟨'\x02', "quiet", .nothing⟩, ⟨'\x03', "status", .nothing⟩, ⟨'\x04', "strict", .nothing⟩,
    ⟨'w', "warn", .nothing⟩, ⟨'\x05', "ignore-missing", .nothing⟩]
  c.withOptions flags fun r =>
    Sources.each c r.operands fun name i =>
      if r.has 'c' then m.check c r name i.bytes else say (m.line r name i.bytes)

/-- Tells the remainders of contents and how long they are. -/
def cksum (c : Call) : Effect :=
  c.withOptions [] fun r => Sources.each c r.operands fun name i =>
    say (toString (Text.Digest.remainder i.bytes) ++ " " ++ toString i.bytes.length ++
      (if r.operands.isEmpty then "" else " " ++ name) ++ "\n")

/-- Tells the sums of contents and how many blocks they have: sums that go around, or plain ones. -/
def sum (c : Call) : Effect :=
  c.withOptions [⟨'r', "", .nothing⟩, ⟨'s', "sysv", .nothing⟩] fun r =>
    let isPlain := (r.given.getLast?.map (·.1)) == some 's'
    Sources.each c r.operands fun name i =>
      let size := i.bytes.length
      let shown := if r.operands.isEmpty then "" else " " ++ name
      if isPlain then
        let s := (i.bytes.map (·.toNat)).foldl (· + ·) 0
        let s := s % 65536 + s % 4294967296 / 65536
        say (toString (s % 65536 + s / 65536) ++ " " ++ toString ((size + 511) / 512) ++ shown ++
          "\n")
      else
        let s := i.bytes.foldl (fun (s : Nat) b =>
          (s / 2 + s % 2 * 32768 + b.toNat) % 65536) 0
        let ds := toString s
        say (.ofList (List.replicate (5 - ds.length) '0') ++ ds ++ " " ++
          padded 5 ((size + 1023) / 1024) ++ shown ++ "\n")

end Errand.Host.Program
