import ShellCoverage.Shell.Octets

/-!
# The calendar

Moments are seconds since the beginning of 1970, and days are those of the Gregorian calendar.

* `Moment` : a moment by its year, month, day and time of day; `Moment.ofSeconds`, `Moment.toSeconds`;
* `Moment.format` : a moment in the words of a format.
-/

namespace ShellCoverage.Shell

/-- A moment. -/
structure Moment where
  year : Int
  month : Nat
  day : Nat
  hour : Nat := 0
  minute : Nat := 0
  second : Nat := 0
  deriving DecidableEq, Repr, Inhabited

namespace Moment

/-- The seconds of a day. -/
def secondsPerDay : Nat := 86400

/-- The number of days from the beginning of March of year 0 to the first day of a month, for a year that
begins in March. -/
def daysBefore (year : Int) (month : Nat) : Int :=
  365 * year + year.fdiv 4 - year.fdiv 100 + year.fdiv 400 + ((153 * month + 2) / 5 : Nat)

/-- The number of days from the beginning of March of year 0 to the beginning of 1970. -/
def epoch : Int := 719468

/-- The number of a day, counted from the beginning of 1970. -/
def dayNumber (m : Moment) : Int :=
  let (year, month) : Int × Nat := if m.month ≤ 2 then (m.year - 1, m.month + 9) else (m.year, m.month - 3)
  daysBefore year month + (m.day : Int) - 1 - epoch

/-- The seconds from the beginning of 1970 to a moment. -/
def toSeconds (m : Moment) : Int :=
  m.dayNumber * secondsPerDay + (m.hour * 3600 + m.minute * 60 + m.second : Nat)

/-- The first day of the year, month and day of a number. -/
def ofDayNumber (n : Int) : Moment :=
  let days := n + epoch
  let era := days.fdiv 146097
  let dayOfEra := (days - era * 146097).toNat
  let yearOfEra := (dayOfEra - dayOfEra / 1460 + dayOfEra / 36524 - dayOfEra / 146096) / 365
  let dayOfYear := dayOfEra - (365 * yearOfEra + yearOfEra / 4 - yearOfEra / 100)
  let month := (5 * dayOfYear + 2) / 153
  let day := dayOfYear - (153 * month + 2) / 5 + 1
  let year : Int := (yearOfEra : Int) + era * 400
  if month < 10 then { year, month := month + 3, day } else { year := year + 1, month := month - 9, day }

/-- The moment so many seconds after the beginning of 1970. -/
def ofSeconds (n : Int) : Moment :=
  let day := n.fdiv secondsPerDay
  let rest := (n - day * secondsPerDay).toNat
  { ofDayNumber day with hour := rest / 3600, minute := rest / 60 % 60, second := rest % 60 }

/-- The day of the week, where Sunday is 0. -/
def weekday (m : Moment) : Nat := ((m.dayNumber + 4).emod 7).toNat

/-- The day of the year, where the first one is 0. -/
def dayOfYear (m : Moment) : Nat := (m.dayNumber - dayNumber { year := m.year, month := 1, day := 1 }).toNat

/-- The days of the week. -/
def weekdayNames : List Octets :=
  ["Sunday", "Monday", "Tuesday", "Wednesday", "Thursday", "Friday", "Saturday"]

/-- The months. -/
def monthNames : List Octets :=
  ["January", "February", "March", "April", "May", "June", "July", "August", "September", "October",
    "November", "December"]

/-- The week of the year, the first one of which begins on Monday and has most of its days in the year;
and that year. -/
def isoWeek (m : Moment) : Int × Nat :=
  let thursday := ofDayNumber (m.dayNumber - ((m.weekday + 6) % 7 : Nat) + 3)
  (thursday.year, thursday.dayOfYear / 7 + 1)

/-! ## Formats -/

/-- The way in which a part is filled up. -/
inductive Fill where
  | usual
  | nothing
  | blank
  | zero
  deriving DecidableEq

/-- A number with at least so many characters. -/
def filled (f : Fill) (usual : Char) (width : Nat) (n : Int) : List Char :=
  let ds := Nat.toDigits 10 n.natAbs
  let sign := if n < 0 then ['-'] else []
  match f with
  | .nothing => sign ++ ds
  | .usual => sign ++ List.replicate (width - sign.length - ds.length) usual ++ ds
  | .blank => List.replicate (width - sign.length - ds.length) ' ' ++ sign ++ ds
  | .zero => sign ++ List.replicate (width - sign.length - ds.length) '0' ++ ds

/-- The hour on a clock with twelve hours. -/
def hour12 (m : Moment) : Nat := (m.hour + 11) % 12 + 1

/-- The format that a letter stands for, if it stands for one. -/
def longForm? (c : Char) : Option Octets :=
  match c with
  | 'c' => some "%a %b %e %H:%M:%S %Y"
  | 'D' | 'x' => some "%m/%d/%y"
  | 'F' => some "%Y-%m-%d"
  | 'R' => some "%H:%M"
  | 'r' => some "%I:%M:%S %p"
  | 'T' | 'X' => some "%H:%M:%S"
  | _ => none

/-- The text that a letter of a format stands for. -/
def part? (m : Moment) (f : Fill) (c : Char) : Option (List Char) :=
  let number (usual : Char) (width : Nat) (n : Int) : Option (List Char) := some (filled f usual width n)
  let short (s : Octets) : Octets := String.ofList (s.toList.take 3)
  let name (s : Octets) : Option (List Char) := some s.toList
  match c with
  | 'a' => name (short (weekdayNames.getD m.weekday ""))
  | 'A' => name (weekdayNames.getD m.weekday "")
  | 'b' | 'h' => name (short (monthNames.getD (m.month - 1) ""))
  | 'B' => name (monthNames.getD (m.month - 1) "")
  | 'C' => number '0' 2 (m.year.fdiv 100)
  | 'd' => number '0' 2 m.day
  | 'e' => number ' ' 2 m.day
  | 'g' => number '0' 2 (m.isoWeek.1.emod 100)
  | 'G' => number '0' 4 m.isoWeek.1
  | 'H' => number '0' 2 m.hour
  | 'I' => number '0' 2 m.hour12
  | 'j' => number '0' 3 (m.dayOfYear + 1 : Nat)
  | 'k' => number ' ' 2 m.hour
  | 'l' => number ' ' 2 m.hour12
  | 'm' => number '0' 2 m.month
  | 'M' => number '0' 2 m.minute
  | 'p' => name (if m.hour < 12 then "AM" else "PM")
  | 'P' => name (if m.hour < 12 then "am" else "pm")
  | 's' => number '0' 1 m.toSeconds
  | 'S' => number '0' 2 m.second
  | 'u' => number '0' 1 ((m.weekday + 6) % 7 + 1 : Nat)
  | 'U' => number '0' 2 ((m.dayOfYear + 7 - m.weekday) / 7 : Nat)
  | 'V' => number '0' 2 m.isoWeek.2
  | 'w' => number '0' 1 m.weekday
  | 'W' => number '0' 2 ((m.dayOfYear + 7 - (m.weekday + 6) % 7) / 7 : Nat)
  | 'y' => number '0' 2 (m.year.emod 100)
  | 'Y' => number '0' 1 m.year
  | 'z' => name "+0000"
  | 'Z' => name "UTC"
  | 'n' => some ['\n']
  | 't' => some ['\t']
  | '%' => some ['%']
  | _ => none

/-- The sign of a way to fill up. -/
def fill? (c : Char) : Option Fill :=
  if c = '-' then some .nothing else if c = '_' then some .blank else if c = '0' then some .zero else none

/-- A moment in the words of a format; the formats that letters stand for nest at most so deep. -/
def formatWith (m : Moment) : Nat → List Char → List Char
  | 0, _ => []
  | _, [] => []
  | n + 1, '%' :: cs =>
    let (f, upper, cs) : Fill × Bool × List Char :=
      match cs with
      | '^' :: r => (.usual, true, r)
      | c :: r =>
        match fill? c with
        | some f => (f, false, r)
        | none => (.usual, false, cs)
      | [] => (.usual, false, [])
    match cs with
    | [] => ['%']
    | c :: r =>
      match longForm? c, m.part? f c with
      | some long, _ => formatWith m n (long.toList ++ r)
      | none, some text => (if upper then text.map Char.toUpper else text) ++ formatWith m n r
      | none, none => '%' :: c :: formatWith m n r
  | n + 1, c :: cs => c :: formatWith m n cs

/-- A moment in the words of a format. -/
def format (m : Moment) (f : Octets) : Octets :=
  String.ofList (m.formatWith (20 * f.length + 1) f.toList)

end Moment

end ShellCoverage.Shell
