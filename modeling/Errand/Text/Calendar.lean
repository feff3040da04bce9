/-! # Days and times

A moment is a number of seconds from the beginning of 1970, without regard to leap seconds. The
calendar is the one that has a leap year every four years, but for three of the centuries in four.

* `Calendar.ofSeconds` and `Moment.seconds` go from a number to a day and a time and back;
* `Moment.format` writes a moment by a format. -/

namespace Errand.Text.Calendar

/-- A day and a time of it. -/
structure Moment where
  year : Int
  month : Nat
  day : Nat
  hour : Nat := 0
  minute : Nat := 0
  second : Nat := 0
  nanosecond : Nat := 0
  deriving DecidableEq, Repr

/-- The seconds of a day. -/
def secondsOfDay : Nat := 86400

/-- The number of days from the beginning of 1970 to a day. Years begin with March here, so that a
leap day is the last one of its year. -/
def dayNumber (year : Int) (month day : Nat) : Int :=
  let y := if month ≤ 2 then year - 1 else year
  let era := Int.fdiv y 400
  let ofEra := y - era * 400
  let shifted : Int := if month ≤ 2 then month + 9 else month - 3
  let ofYear := Int.fdiv (153 * shifted + 2) 5 + day - 1
  era * 146097 + ofEra * 365 + Int.fdiv ofEra 4 - Int.fdiv ofEra 100 + ofYear - 719468

/-- The year, the month and the day of a number of days. -/
def ofDayNumber (n : Int) : Int × Nat × Nat :=
  let z := n + 719468
  let era := Int.fdiv z 146097
  let ofEra := (z - era * 146097).toNat
  let yearOfEra := (ofEra - ofEra / 1460 + ofEra / 36524 - ofEra / 146096) / 365
  let ofYear := ofEra - (365 * yearOfEra + yearOfEra / 4 - yearOfEra / 100)
  let shifted := (5 * ofYear + 2) / 153
  let day := ofYear - (153 * shifted + 2) / 5 + 1
  let month := if shifted < 10 then shifted + 3 else shifted - 9
  (yearOfEra + era * 400 + if month ≤ 2 then 1 else 0, month, day)

/-- The moment of a number of seconds. -/
def ofSeconds (n : Int) (nanosecond : Nat := 0) : Moment :=
  let days := Int.fdiv n secondsOfDay
  let rest := (n - days * secondsOfDay).toNat
  let (year, month, day) := ofDayNumber days
  ⟨year, month, day, rest / 3600, rest / 60 % 60, rest % 60, nanosecond⟩

namespace Moment

/-- The number of days from the beginning of 1970. -/
def days (m : Moment) : Int := dayNumber m.year m.month m.day

/-- The number of seconds of a moment. -/
def seconds (m : Moment) : Int :=
  m.days * secondsOfDay + (m.hour * 3600 + m.minute * 60 + m.second : Nat)

/-- The day of the week, from Sunday on. -/
def weekday (m : Moment) : Nat := (Int.emod (m.days + 4) 7).toNat

/-- The day of the year, from zero on. -/
def dayOfYear (m : Moment) : Nat := (m.days - dayNumber m.year 1 1).toNat

/-- The week of the year whose weeks begin on a day of the week; days before the first such day are
in week zero. -/
def week (first : Nat) (m : Moment) : Nat := (m.dayOfYear + 7 - (m.weekday + 7 - first) % 7) / 7

/-- The year and the week by the rule that a week belongs to the year of its Thursday. -/
def weekOfThursday (m : Moment) : Int × Nat :=
  let thursday := m.days - ((m.weekday + 6) % 7 : Nat) + 3
  let (year, _, _) := ofDayNumber thursday
  (year, ((thursday - dayNumber year 1 1) / 7).toNat + 1)

example : ofSeconds 951782400 = ⟨2000, 2, 29, 0, 0, 0, 0⟩ := by decide +kernel
example : ({ year := 2000, month := 2, day := 29 } : Moment).seconds = 951782400 := by
  decide +kernel

end Moment

/-- The names of the days of the week. -/
def weekdays : List String :=
  ["Sunday", "Monday", "Tuesday", "Wednesday", "Thursday", "Friday", "Saturday"]

/-- The names of the months. -/
def months : List String :=
  ["January", "February", "March", "April", "May", "June", "July", "August", "September",
    "October", "November", "December"]

/-! ## Formats -/

/-- How a part of a moment is filled up: with what, to which width, and whether its letters are
capitals. -/
structure Filling where
  /-- The filler; none for that of the part itself, a minus for nothing. -/
  filler : Option Char := none
  width : Option Nat := none
  upper : Bool := false
  swaps : Bool := false

/-- A number in a width with fillers before it. -/
def Filling.number (f : Filling) (width : Nat) (filler : Char) (n : Int) : String :=
  let ds := toString n.natAbs
  let sign := if n < 0 then "-" else ""
  match f.filler with
  | some '-' => sign ++ ds
  | other =>
    let ch := match other with
      | some '_' => ' '
      | some '0' => '0'
      | _ => filler
    let gap := String.ofList (List.replicate (f.width.getD width - ds.length - sign.length) ch)
    if ch == '0' then sign ++ gap ++ ds else gap ++ sign ++ ds

/-- A word, with capitals if that is asked for. -/
def Filling.word (f : Filling) (s : String) : String :=
  let s := if f.upper || f.swaps then s.map Char.toUpper else s
  let gap := String.ofList (List.replicate (f.width.getD 0 - s.length)
    (if f.filler == some '0' then '0' else ' '))
  gap ++ s

/-- A part of a moment that no other parts make up. -/
def Moment.part? (m : Moment) (f : Filling) (letter : Char) : Option String :=
  let twelve := if m.hour % 12 = 0 then 12 else m.hour % 12
  let half := if m.hour < 12 then "AM" else "PM"
  let (weekYear, week) := m.weekOfThursday
  match letter with
  | 'Y' => some (f.number 4 '0' m.year)
  | 'C' => some (f.number 2 '0' (Int.fdiv m.year 100))
  | 'y' => some (f.number 2 '0' (Int.emod m.year 100))
  | 'G' => some (f.number 4 '0' weekYear)
  | 'g' => some (f.number 2 '0' (Int.emod weekYear 100))
  | 'm' => some (f.number 2 '0' m.month)
  | 'd' => some (f.number 2 '0' m.day)
  | 'e' => some (f.number 2 ' ' m.day)
  | 'H' => some (f.number 2 '0' m.hour)
  | 'k' => some (f.number 2 ' ' m.hour)
  | 'I' => some (f.number 2 '0' twelve)
  | 'l' => some (f.number 2 ' ' twelve)
  | 'M' => some (f.number 2 '0' m.minute)
  | 'S' => some (f.number 2 '0' m.second)
  | 'N' =>
    let ds := toString m.nanosecond
    let all := String.ofList (List.replicate (9 - ds.length) '0') ++ ds
    some (.ofList (all.toList.take (f.width.getD 9)))
  | 'j' => some (f.number 3 '0' (m.dayOfYear + 1))
  | 'u' => some (f.number 1 '0' (if m.weekday = 0 then 7 else m.weekday))
  | 'w' => some (f.number 1 '0' m.weekday)
  | 'U' => some (f.number 2 '0' (m.week 0))
  | 'W' => some (f.number 2 '0' (m.week 1))
  | 'V' => some (f.number 2 '0' week)
  | 'q' => some (f.number 1 '0' ((m.month + 2) / 3 : Nat))
  | 's' => some (f.number 1 '0' m.seconds)
  | 'a' => some (f.word (((weekdays[m.weekday]?).getD "").take 3).toString)
  | 'A' => some (f.word ((weekdays[m.weekday]?).getD ""))
  | 'b' | 'h' => some (f.word (((months[m.month - 1]?).getD "").take 3).toString)
  | 'B' => some (f.word ((months[m.month - 1]?).getD ""))
  | 'p' => some (if f.swaps then half.map Char.toLower else f.word half)
  | 'P' => some (half.map Char.toLower)
  | 'Z' => some (if f.swaps then "utc" else f.word "UTC")
  | 'z' => some "+0000"
  | 'n' => some "\n"
  | 't' => some "\t"
  | '%' => some "%"
  | _ => none

/-- The formats that letters stand for. -/
def wholes : List (Char × String) :=
  [('D', "%m/%d/%y"), ('F', "%Y-%m-%d"), ('T', "%H:%M:%S"), ('R', "%H:%M"), ('r', "%I:%M:%S %p"),
    ('c', "%a %b %e %H:%M:%S %Y"), ('x', "%m/%d/%y"), ('X', "%H:%M:%S")]

/-- Writes a moment by a format. A letter that stands for a format is written by that, once; the
number bounds the characters. -/
def Moment.write (m : Moment) (deep : Bool) : Nat → List Char → List Char
  | 0, _ => []
  | _, [] => []
  | fuel + 1, '%' :: cs =>
    let flags := cs.takeWhile "-_0^#+".toList.contains
    let ds := (cs.drop flags.length).takeWhile Char.isDigit
    let filling : Filling := {
      filler := (flags.filter "-_0".toList.contains).getLast?
      width := if ds.isEmpty then none else (String.ofList ds).toNat?
      upper := flags.contains '^'
      swaps := flags.contains '#' }
    let head := flags ++ ds
    let rest := (cs.drop head.length)
    let colons := rest.takeWhile (· == ':')
    match rest.drop colons.length with
    | [] => '%' :: cs
    | letter :: after =>
      let shown := match colons, letter with
        | [], _ =>
          match m.part? filling letter, wholes.lookup letter with
          | some s, _ => s.toList
          | none, some format =>
            if deep then
              (filling.word (.ofList (m.write false fuel format.toList))).toList
            else []
          | none, none => '%' :: head ++ [letter]
        | [_], 'z' => "+00:00".toList
        | [_, _], 'z' => "+00:00:00".toList
        | [_, _, _], 'z' => "+00".toList
        | _, _ => '%' :: head ++ colons ++ [letter]
      shown ++ m.write deep fuel after
  | fuel + 1, c :: cs => c :: m.write deep fuel cs

/-- A moment by a format. -/
def Moment.format (m : Moment) (format : String) : String :=
  .ofList (m.write true (format.length + 40) format.toList)

end Errand.Text.Calendar
