import Errand.Host.Program.Basic
import Errand.Text.Calendar

/-! # Dates

`Program.date` writes a moment by a format. The moment is the one that a text names, or the present
one; a host does not know what time it is, so its present is a moment that stays the same. -/

namespace Errand.Host.Program

namespace Clock

open Text.Calendar

/-- The moment that stands for the present. -/
def present : Moment := { year := 2025, month := 1, day := 1 }

/-- Numbers of digits between marks. -/
def numbers? (mark : Char) (cs : List Char) : Option (List Nat) :=
  (cs.splitOn mark).mapM fun (part : List Char) =>
    if !part.isEmpty && part.all Char.isDigit then some (Numeral.valueOf 10 part) else none

/-- The days of a month. -/
def daysOf (year month : Nat) : Nat :=
  if month = 12 then 31
  else (dayNumber year (month + 1) 1 - dayNumber year month 1).toNat

/-- The time of a day that a text names. -/
def time? (cs : List Char) : Option (Nat × Nat × Nat) := do
  let cs := if cs.getLast? == some 'Z' then cs.dropLast else cs
  match ← numbers? ':' (cs.takeWhile fun ch => ch != '.' && ch != ' ') with
  | [h, m] => if h < 24 && m < 60 then some (h, m, 0) else none
  | [h, m, s] => if h < 24 && m < 60 && s < 61 then some (h, m, s) else none
  | _ => none

/-- The moment that a text names: seconds after an `@`, a day, or a day and a time. -/
def moment? (s : String) : Option Moment := do
  let cs := s.toList.dropWhile (· == ' ')
  match cs with
  | '@' :: rest =>
    let (negative, digits) := Numeral.splitSign rest
    let whole := digits.takeWhile (· != '.')
    let part := (digits.drop whole.length).drop 1
    if whole.isEmpty || !(whole ++ part).all Char.isDigit then none
    else
      let n : Int := Numeral.valueOf 10 whole
      let fraction := Numeral.valueOf 10 ((part ++ List.replicate 9 '0').take 9)
      if negative && fraction ≠ 0 then return ofSeconds (-n - 1) (1000000000 - fraction)
      else return ofSeconds (if negative then -n else n) fraction
  | _ =>
    if ["now", "today", ""].contains (s.map Char.toLower) then return present
    else
      let day := cs.takeWhile fun ch => ch != ' ' && ch != 'T'
      let rest := ((cs.drop day.length).drop 1).dropWhile (· == ' ')
      let zoned := (String.ofList rest).endsWith " UTC" || (String.ofList rest) == "UTC"
      let rest :=
        if zoned then (rest.take (rest.length - 3)).reverse.dropWhile (· == ' ') |>.reverse
        else rest
      let (year, month, date) ← match ← numbers? '-' day with
        | [y, m, d] => some (y, m, d)
        | [n] => if day.length = 8 then some (n / 10000, n / 100 % 100, n % 100) else none
        | _ => none
      if month = 0 || 12 < month || date = 0 || daysOf year month < date then none
      else
        let (h, m, s) ← if rest.isEmpty then some (0, 0, 0) else time? rest
        return { year, month, day := date, hour := h, minute := m, second := s }

/-- The format that an option asks for. -/
def formatOf (c : Call) (r : Options.Read) : Except String (Option String) :=
  match r.given.find? fun g => g.1 == 'R' || g.1 == 'I' || g.1 == '\x01' with
  | some ('R', _) => .ok (some "%a, %d %b %Y %H:%M:%S %z")
  | some ('I', v) =>
    let words := ["hours", "minutes", "date", "seconds", "ns"]
    (c.choice "--iso-8601" words (v.getD "date")).map fun w =>
      some (match w with
        | "hours" => "%FT%H%:z"
        | "minutes" => "%FT%R%:z"
        | "seconds" => "%FT%T%:z"
        | "ns" => "%FT%T,%N%:z"
        | _ => "%F")
  | some (_, v) =>
    (c.choice "--rfc-3339" ["date", "seconds", "ns"] (v.getD "")).map fun w =>
      some (match w with
        | "seconds" => "%F %T%:z"
        | "ns" => "%F %T.%N%:z"
        | _ => "%F")
  | none => .ok none

end Clock

/-- Writes a date. -/
def date (c : Call) : Effect :=
  let flags : List Flag := [⟨'d', "date", .value⟩, ⟨'u', "utc", .nothing⟩,
    ⟨'u', "universal", .nothing⟩, ⟨'I', "iso-8601", .optional⟩, ⟨'R', "rfc-email", .nothing⟩,
    ⟨'\x01', "rfc-3339", .value⟩, ⟨'r', "reference", .value⟩, ⟨'s', "set", .value⟩,
    ⟨'f', "file", .value⟩]
  c.withOptions flags fun r =>
    match Clock.formatOf c r, r.operands with
    | .error e, _ => c.misuse e
    | _, _ :: extra :: _ => extraOperand c extra
    | .ok format, operands =>
      match operands.head?.map String.toList with
      | some ('+' :: rest) => shown r (.ofList rest)
      | some _ => c.complain ("invalid date " ++ c.quoted (operands.headD ""))
      | none => shown r (format.getD "%a %b %e %H:%M:%S %Z %Y")
where
  /-- The line of the moment that is asked for. -/
  shown (r : Options.Read) (format : String) : Effect :=
    match r.value? 'd' with
    | none => say (Clock.present.format format ++ "\n")
    | some text => match Clock.moment? text with
      | some m => say (m.format format ++ "\n")
      | none => c.complain ("invalid date " ++ c.quoted text)

end Errand.Host.Program
