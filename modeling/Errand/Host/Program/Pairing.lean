import Errand.Host.Program.Columns

/-! # Lines of two contents

Two contents with lines in order are gone through side by side: `comm` tells which lines they have
in common, and `join` puts lines together that have the same field. Lines that are not in order are
complained about where that may have spoiled the answer. -/

namespace Errand.Host.Program

namespace Pairing

/-- When lines that are not in order are complained about. -/
inductive Check where
  | whereUnpaired
  | always
  | never
  deriving DecidableEq

/-- What going through two contents comes upon. -/
inductive Event where
  /-- A line, with the column that tells where it is. -/
  | line (column : Nat) (bs : Bytes)
  /-- A content that is not in order. -/
  | flaw (place : Nat)
  deriving DecidableEq

/-- Two contents that are gone through: the lines that are left, and the lines before them, the
latest first. -/
structure Progress where
  left : List Bytes × List Bytes
  before : List Bytes × List Bytes := ([], [])
  /-- Whether there was a line that is in one content only. -/
  unpaired : Bool := false
  /-- What was come upon so far, the latest first. -/
  out : List Event := []

/-- Whether the order of a content was complained about. -/
def Progress.isFlawed (p : Progress) (place : Nat) : Bool := p.out.contains (.flaw place)

/-- How many lines are in a column. -/
def Progress.count (p : Progress) (column : Nat) : Nat :=
  p.out.countP fun
    | .line k _ => k == column
    | .flaw _ => false

/-- Looks at the order of two lines of a content. -/
def Progress.compared (p : Progress) (check : Check) (place : Nat) (a b : Bytes) : Progress :=
  if check ≠ .never && (check = .always || p.unpaired) && !p.isFlawed place && b < a
  then { p with out := .flaw place :: p.out } else p

/-- Looks at the order where a content goes on: the line before, and the lines that are left of
it. -/
def Progress.stepped (p : Progress) (check : Check) (place : Nat) (before left : List Bytes) :
    Progress :=
  match before, left with
  | a :: _, b :: _ => p.compared check place a b
  | a :: z :: _, [] => p.compared check place z a
  | _, _ => p

/-- Whether any content was complained about. -/
def Progress.hasFlaw (p : Progress) : Bool := p.isFlawed 1 || p.isFlawed 2

/-- Whether a content was complained about where that ends everything. -/
def Progress.isOver (p : Progress) (check : Check) : Bool := check = .always && p.hasFlaw

/-- Goes through two contents; the number bounds the lines. -/
def run (check : Check) : Nat → Progress → Progress
  | 0, p => p
  | fuel + 1, p =>
    let (first, second) := p.left
    let order : Option Ordering := match first, second with
      | [], [] => none
      | [], _ => some .gt
      | _, [] => some .lt
      | a :: _, b :: _ => some (if a == b then .eq else if a < b then .lt else .gt)
    match order with
    | none => p
    | some o =>
      let line := (if o == .gt then second else first).headD []
      let column := match o with
        | .lt => 0
        | .gt => 1
        | .eq => 2
      let p := { p with out := .line column line :: p.out, unpaired := p.unpaired || o != .eq }
      let p := if o == .gt then p else
        let before := first.headD [] :: p.before.1
        { p with left := (first.drop 1, p.left.2), before := (before, p.before.2) }.stepped
          check 1 before (first.drop 1)
      let p := if o == .lt || p.isOver check then p else
        let before := second.headD [] :: p.before.2
        { p with left := (p.left.1, second.drop 1), before := (p.before.1, before) }.stepped
          check 2 before (second.drop 1)
      if p.isOver check then p else run check fuel p

/-- The lines of two operands, or the first complaint about them. -/
def linesOf (c : Call) (mark : UInt8) (names : List String) :
    Except Effect (List Bytes × List Bytes) := do
  let ls ← (Sources.of c names).mapM fun s => match s.content with
    | .ok i => .ok ((lines i.bytes mark).map (chomp · mark))
    | .error .isDirectory => .error (c.complain
        (c.shown s.name ++ ": " ++ Refusal.isDirectory.reason))
    | .error e => .error (Sources.refused c s.name e)
  return (ls.headD [], (ls[1]?).getD [])

end Pairing

open Pairing

/-- The check that options ask for, by their letters. -/
def checkOf (r : Options.Read) (always never : Char) : Check :=
  match (r.given.filter fun g => g.1 == always || g.1 == never).getLast? with
  | some (l, _) => if l == always then .always else .never
  | none => .whereUnpaired

/-- Tells which lines two contents have in common. -/
def comm (c : Call) : Effect :=
  let flags : List Flag := [⟨'1', "", .nothing⟩, ⟨'2', "", .nothing⟩, ⟨'3', "", .nothing⟩,
    ⟨'\x01', "check-order", .nothing⟩, ⟨'\x02', "nocheck-order", .nothing⟩,
    ⟨'\x03', "output-delimiter", .value⟩, ⟨'\x04', "total", .nothing⟩,
    ⟨'z', "zero-terminated", .nothing⟩]
  c.withOptions flags fun r =>
    match r.operands with
    | [] => missingOperand c
    | [a] => c.misuse ("missing operand after " ++ c.quoted a)
    | _ :: _ :: a :: _ => extraOperand c a
    | names =>
      let mark : UInt8 := if r.has 'z' then 0 else lineEnd
      match linesOf c mark names with
      | .error e => e
      | .ok ls =>
        let check := checkOf r '\x01' '\x02'
        let p := run check (ls.1.length + ls.2.length + 1) { left := ls }
        let hidden := [r.has '1', r.has '2', r.has '3']
        let gap := match r.value? '\x03' with
          | some "" => [0]
          | some s => Text.Octets.bytesOf s
          | none => [9]
        let place := fun (n : Nat) (line : Bytes) =>
          (List.replicate ((hidden.take n).countP (!·)) gap).flatten ++ line ++ [mark]
        let shown := Effect.all (p.out.reverse.map fun
          | .line n line =>
            if (hidden[n]?).getD false then {} else Effect.write (place n line)
          | .flaw n => c.complain ("file " ++ toString n ++ " is not in sorted order"))
        let count := fun (n : Nat) => Text.Octets.bytesOf (toString (p.count n))
        let total := if r.has '\x04' && !p.isOver check then
            count 0 ++ gap ++ count 1 ++ gap ++ count 2 ++ gap ++ Text.Octets.bytesOf "total" ++
              [mark]
          else []
        let last := if p.hasFlaw && check ≠ .always then
            c.complain "input is not in sorted order" else {}
        Sources.reading c names ((shown.andThen (Effect.write total)).andThen last)

/-! ## Lines with the same field -/

namespace Joining

/-- How lines are joined. -/
structure Style where
  /-- The numbers of the fields that are to be the same, from zero. -/
  fields : Nat × Nat := (0, 0)
  mark : Option UInt8 := none
  caseless : Bool := false
  /-- What stands for a field that is missing. -/
  missing : Bytes := []
  /-- The fields of the output: the content, zero for the common field, and the field. -/
  chosen : List (Nat × Nat) := []
  /-- The contents whose lines are shown that have no partner. -/
  alone : List Nat := []
  /-- Whether lines with partners are shown. -/
  pairs : Bool := true
  check : Check := .whereUnpaired
  /-- The mark at the end of a line. -/
  lineMark : UInt8 := lineEnd

/-- The fields of a line. -/
def Style.split (s : Style) (line : Bytes) : List Bytes :=
  match s.mark with
  | some m => if line.isEmpty then [] else line.splitOn m
  | none =>
    let isGap := fun (b : UInt8) => b == 32 || b == 9 || b == 10
    (line.splitBy fun a b => isGap a == isGap b).filter fun p => !(p.headD 32 |> isGap)

/-- The field of a line by which it is joined. -/
def Style.key (s : Style) (n : Nat) (fields : List Bytes) : Bytes :=
  let k := (fields[if n = 1 then s.fields.1 else s.fields.2]?).getD []
  if s.caseless then k.map fun b => if 65 ≤ b && b ≤ 90 then b + 32 else b else k

/-- A line: its bytes, its fields, and the number that it has in its content. -/
structure Line where
  bytes : Bytes
  fields : List Bytes
  number : Nat

/-- The line of two lines that belong together, or of one that has no partner. -/
def Style.line (s : Style) (a b : Option Line) : Bytes :=
  let gap : Bytes := [s.mark.getD 32]
  let (a, b) := (a.map (·.fields), b.map (·.fields))
  let fill := fun (f : Option Bytes) => match f with
    | some [] | none => s.missing
    | some f => f
  let common := match a, b with
    | some a, _ => a[s.fields.1]?
    | none, some b => b[s.fields.2]?
    | none, none => none
  let others := fun (place : Nat) (fs : Option (List Bytes)) =>
    ((fs.getD []).eraseIdx place).map fun f => fill (some f)
  let parts := if s.chosen.isEmpty then
      fill common :: (others s.fields.1 a ++ others s.fields.2 b)
    else s.chosen.map fun (n, field) => match n with
      | 0 => fill common
      | 1 => fill (a.bind (·[field]?))
      | _ => fill (b.bind (·[field]?))
  gap.intercalate parts ++ [s.lineMark]

/-- What joining comes upon: a line of the output, or a line that is not in order. -/
inductive Event where
  | line (bs : Bytes)
  | flaw (place : Nat) (line : Line)

/-- Contents that are joined: the lines that were not read yet, and the keys of the lines that were
read last. -/
structure State where
  left : List Line × List Line
  last : Option Bytes × Option Bytes := (none, none)
  /-- Whether there was a line without a partner. -/
  unpaired : Bool := false
  /-- The contents whose order was complained about. -/
  flawed : List Nat := []
  /-- What was come upon so far, the latest first. -/
  out : List Event := []

/-- Whether a line that is not in order ends everything. -/
def State.isOver (st : State) (s : Style) : Bool := s.check = .always && !st.flawed.isEmpty

/-- A line of the output. -/
def State.show (st : State) (bs : Bytes) : State := { st with out := .line bs :: st.out }

/-- Looks at the order of a line that was read. -/
def State.checked (st : State) (s : Style) (place : Nat) (line : Line) : State :=
  let last := if place = 1 then st.last.1 else st.last.2
  let wanted := s.check = .always || s.check ≠ .never && st.unpaired
  let key := s.key place line.fields
  let st := if wanted && !st.flawed.contains place && last.any (key < ·) then
      { st with flawed := place :: st.flawed, out := .flaw place line :: st.out }
    else st
  { st with last := if place = 1 then (some key, st.last.2) else (st.last.1, some key) }

/-- Reads a line of a content. -/
def State.next (st : State) (s : Style) (place : Nat) : Option Line × State :=
  match place, st.left with
  | 1, (a :: as, bs) => (some a, { st with left := (as, bs) }.checked s 1 a)
  | 2, (as, b :: bs) => (some b, { st with left := (as, bs) }.checked s 2 b)
  | _, _ => (none, st)

/-- Reads lines as long as they have a key: those lines, and the first one that has another key. The
number bounds them. -/
def State.group (s : Style) (place : Nat) (key : Bytes) :
    Nat → State → List Line × Option Line × State
  | 0, st => ([], none, st)
  | fuel + 1, st =>
    match st.next s place with
    | (none, st) => ([], none, st)
    | (some l, st) =>
      if s.key place l.fields == key then
        let (ls, after, st) := State.group s place key fuel st
        (l :: ls, after, st)
      else ([], some l, st)

/-- Whether lines of a content without partners are shown. -/
def Style.shows (s : Style) (place : Nat) : Bool := s.alone.contains place

/-- A line without a partner. -/
def State.showLone (st : State) (s : Style) (place : Nat) (l : Line) : State :=
  if s.shows place then st.show (if place = 1 then s.line (some l) none else s.line none (some l))
  else st

/-- Reads the lines of a content that are left, as long as they are shown or their order counts; the
number bounds them. -/
def State.rest (s : Style) (place : Nat) : Nat → State → State
  | 0, st => st
  | fuel + 1, st =>
    match st.next s place with
    | (none, st) => st
    | (some l, st) =>
      if st.isOver s then st
      else
        let st := st.showLone s place l
        if st.flawed.contains place && !s.shows place then st else State.rest s place fuel st

/-- Reads the end of a content whose first line was read. Its lines have no partners. -/
def State.tail (s : Style) (place : Nat) (hasOther : Bool) (fuel : Nat) (st : State)
    (first : Option Line) : State :=
  match first with
  | none => st
  | some l =>
    if !(s.shows place || s.check ≠ .never && st.flawed.length < 2) then st
    else
      let st := st.showLone s place l
      State.rest s place fuel { st with unpaired := st.unpaired || hasOther }

/-- Joins lines, of which the first ones were read; the number bounds the lines. -/
def run (s : Style) : Nat → State → Option Line → Option Line → State
  | 0, st, _, _ => st
  | fuel + 1, st, some a, some b =>
    if st.isOver s then st
    else
      let (ka, kb) := (s.key 1 a.fields, s.key 2 b.fields)
      if ka == kb then
        let (as, a', st) := State.group s 1 ka (fuel + 1) st
        if st.isOver s then st
        else
          let (bs, b', st) := State.group s 2 kb (fuel + 1) st
          if st.isOver s then st
          else
            let st := if s.pairs then
                (a :: as).foldl (fun st x => (b :: bs).foldl (fun (st : State) y =>
                  st.show (s.line (some x) (some y))) st) st
              else st
            run s fuel st a' b'
      else if ka < kb then
        let (a', st) := (st.showLone s 1 a).next s 1
        run s fuel { st with unpaired := true } a' (some b)
      else
        let (b', st) := (st.showLone s 2 b).next s 2
        run s fuel { st with unpaired := true } (some a) b'
  | fuel + 1, st, a, b =>
    if st.isOver s then st
    else
      let st := State.tail s 1 b.isSome (fuel + 1) st a
      if st.isOver s then st else State.tail s 2 a.isSome (fuel + 1) st b

/-- The number of a field. -/
def fieldOf (c : Call) (s : String) : Except String Nat :=
  match Count.read [] s.toList with
  | .ok (n + 1) => .ok n
  | _ => .error ("invalid field number: " ++ c.quoted s)

/-- A style whose output has as many fields as the first lines of the contents. -/
def Style.automatic (s : Style) (first second : Option Nat) : Style :=
  let others := fun (n place : Nat) (count : Option Nat) =>
    ((List.range (count.getD 0)).filter (· != place)).map fun f => (n, f)
  { s with chosen := (0, 0) :: (others 1 s.fields.1 first ++ others 2 s.fields.2 second) }

/-- One field of the output. -/
def choice (c : Call) (s : String) : Except String (Nat × Nat) :=
  match s.toList with
  | ['0'] => .ok (0, 0)
  | '1' :: '.' :: rest => (fieldOf c (.ofList rest)).map fun n => (1, n)
  | '2' :: '.' :: rest => (fieldOf c (.ofList rest)).map fun n => (2, n)
  | '0' :: _ => .error ("invalid field specifier: " ++ c.quoted s)
  | _ => .error ("invalid file number in field spec: " ++ c.quoted s)

/-- The style that options ask for. -/
def styleOf (c : Call) (r : Options.Read) : Except String Style := do
  let both ← match r.value? 'j' with
    | some v => fieldOf c v
    | none => .ok 0
  let first ← match r.value? '1' with
    | some v => fieldOf c v
    | none => .ok both
  let second ← match r.value? '2' with
    | some v => fieldOf c v
    | none => .ok both
  let number := fun (v : String) => match v with
    | "1" => Except.ok 1
    | "2" => .ok 2
    | _ => .error ("invalid file number: " ++ c.quoted v)
  let alone ← (r.given.filter fun g => g.1 == 'a' || g.1 == 'v').mapM fun g => number (g.2.getD "")
  let mark ← match r.value? 't' with
    | none => .ok none
    | some "" => .ok (some lineEnd)
    | some "\\0" => .ok (some 0)
    | some t => match Text.Octets.bytesOf t with
      | [b] => .ok (some b)
      | _ => .error ("multi-character tab " ++ c.quoted t)
  let lists := (r.given.filterMap fun g => if g.1 == 'o' then g.2 else none).filter (· != "auto")
  let chosen ← (lists.flatMap fun l =>
    ((l.toList.map fun ch => if ch == ' ' || ch == '\t' then ',' else ch).splitOn ',').filter
      (!·.isEmpty)).mapM fun l => choice c (.ofList l)
  return { fields := (first, second), mark, chosen, alone
           caseless := r.has 'i'
           check := checkOf r '\x01' '\x02'
           lineMark := if r.has 'z' then 0 else lineEnd
           missing := Text.Octets.bytesOf ((r.value? 'e').getD "")
           pairs := !r.has 'v' }

end Joining

/-- Joins the lines of two contents that have the same field. -/
def join (c : Call) : Effect :=
  let flags : List Flag := [⟨'a', "", .value⟩, ⟨'e', "", .value⟩, ⟨'i', "ignore-case", .nothing⟩,
    ⟨'j', "", .value⟩, ⟨'o', "", .value⟩, ⟨'t', "", .value⟩, ⟨'v', "", .value⟩, ⟨'1', "", .value⟩,
    ⟨'2', "", .value⟩, ⟨'\x01', "check-order", .nothing⟩, ⟨'\x02', "nocheck-order", .nothing⟩,
    ⟨'\x03', "header", .nothing⟩, ⟨'z', "zero-terminated", .nothing⟩]
  c.withOptions flags fun r =>
    match Joining.styleOf c r, r.operands with
    | .error e, _ => c.complain e
    | _, [] => missingOperand c
    | _, [a] => c.misuse ("missing operand after " ++ c.quoted a)
    | _, _ :: _ :: a :: _ => extraOperand c a
    | .ok style, names =>
      match linesOf c style.lineMark names with
      | .error e => e
      | .ok (first, second) =>
        let numbered := fun (ls : List Bytes) => (ls.zip (List.range ls.length)).map fun (l, i) =>
          ({ bytes := l, fields := style.split l, number := i + 1 } : Joining.Line)
        let (as, bs) := (numbered first, numbered second)
        let style := if r.value? 'o' == some "auto" then
            style.automatic (as.head?.map (·.fields.length)) (bs.head?.map (·.fields.length))
          else style
        let (heads, as, bs) := match r.has '\x03', as, bs with
          | true, a :: as, b :: bs => ([style.line (some a) (some b)], as, bs)
          | _, as, bs => ([], as, bs)
        let st : Joining.State := { left := (as, bs) }
        let (a, st) := st.next style 1
        let (b, st) := st.next style 2
        let st := Joining.run style (as.length + bs.length + 1) st a b
        let told := Effect.all (st.out.reverse.map fun
          | .line bs => Effect.write bs
          | .flaw n l => c.complain ((names[n - 1]?).getD "" ++ ":" ++ toString l.number ++
              ": is not sorted: " ++ .ofList (Text.Octets.ofBytes l.bytes)))
        let last := if st.flawed.isEmpty || style.check = .always then {}
          else c.complain "input is not in sorted order"
        Sources.reading c names (((Effect.write heads.flatten).andThen told).andThen last)

end Errand.Host.Program
