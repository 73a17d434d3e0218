import ShellCoverage.Shell.Calendar

/-!
# Moments in words

Phrases such as `2024-02-29 12:00`, `next friday`, `3 days ago` or `@86400` that denote moments, some of
them relative to the present one.

* `Moment.Phrase` : what the parts of a phrase say; `Moment.ofPhrase?` : the moment that a phrase denotes;
* `Moment.ofStamp?` : the moment that digits such as `202401311200.30` denote.
-/

namespace ShellCoverage.Shell.Moment

/-- What the parts of a phrase say. -/
structure Phrase where
  date : Option (Option Int × Nat × Nat) := none
  /-- The time of day in seconds. -/
  time : Option Nat := none
  /-- The seconds by which the time of day is ahead of universal time. -/
  zone : Option Int := none
  weekday : Option (Int × Nat) := none
  stamp : Option Int := none
  years : Int := 0
  months : Int := 0
  days : Int := 0
  seconds : Int := 0
  /-- Whether there is something relative. -/
  isRelative : Bool := false
  deriving Inhabited

namespace Phrase

/-- The parts of a phrase: words in small letters, numbers, and other characters. -/
inductive Token where
  | word (s : Octets)
  | number (n size : Nat)
  | mark (c : Char)
  deriving DecidableEq, Repr, Inhabited

/-- The tokens of a phrase, and whether blanks come before each; the number bounds them. -/
def tokens : Nat → Bool → List Char → List (Bool × Token)
  | 0, _, _ => []
  | _, _, [] => []
  | n + 1, spaced, c :: r =>
    if Octets.isSpace c || c = ',' then tokens n true r
    else if c.isDigit then
      let ds := (c :: r).takeWhile Char.isDigit
      (spaced, .number (Octets.ofDigits ds) ds.length) :: tokens n false ((c :: r).drop ds.length)
    else if c.isAlpha then
      let cs := (c :: r).takeWhile Char.isAlpha
      (spaced, .word (String.ofList (cs.map Char.toLower))) :: tokens n false ((c :: r).drop cs.length)
    else (spaced, .mark c) :: tokens n false r

/-- The place of a word among names, of which three letters are enough. -/
def named? (names : List Octets) (word : Octets) : Option Nat :=
  names.findIdx? fun n =>
    let n := n.map Char.toLower
    n = word || String.ofList (n.toList.take 3) = word ||
      (word.length = 4 && Octets.startsWith word n)

/-- A relative part: so many of some unit. -/
def shift? (p : Phrase) (n : Int) (unit : Octets) : Option Phrase :=
  let unit := if unit.length > 3 && unit.toList.getLast? = some 's' then
    String.ofList unit.toList.dropLast else unit
  let p := { p with isRelative := true }
  match unit with
  | "year" => some { p with years := p.years + n }
  | "month" => some { p with months := p.months + n }
  | "fortnight" => some { p with days := p.days + 14 * n }
  | "week" => some { p with days := p.days + 7 * n }
  | "day" => some { p with days := p.days + n }
  | "hour" => some { p with seconds := p.seconds + 3600 * n }
  | "minute" | "min" => some { p with seconds := p.seconds + 60 * n }
  | "second" | "sec" => some { p with seconds := p.seconds + n }
  | _ => none

/-- A time of day on a clock with twelve hours. -/
def halfDay? (hour : Nat) (half : Octets) : Option Nat :=
  if hour = 0 || 12 < hour then none
  else if half = "am" then some (hour % 12) else if half = "pm" then some (hour % 12 + 12) else none

/-- A time zone at the head of some tokens. -/
def zoneAt : List (Bool × Token) → Option (Int × List (Bool × Token))
  | (_, .mark s) :: (false, .number h size) :: r =>
    if s ≠ '+' && s ≠ '-' then none
    else
      let sign : Int := if s = '-' then -1 else 1
      match r with
      | (false, .mark ':') :: (false, .number m _) :: r => some (sign * (h * 3600 + m * 60 : Nat), r)
      | (true, .word w) :: _ =>
        if size ≤ 2 && ["day", "days", "hour", "hours", "week", "weeks", "month", "months", "year", "years",
          "min", "minute", "minutes", "sec", "second", "seconds"].elem w then none
        else some (sign * (if size ≤ 2 then h * 3600 else h / 100 * 3600 + h % 100 * 60 : Nat), r)
      | r => some (sign * (if size ≤ 2 then h * 3600 else h / 100 * 3600 + h % 100 * 60 : Nat), r)
  | (_, .word "z") :: r | (_, .word "utc") :: r | (_, .word "gmt") :: r => some (0, r)
  | _ => none

/-- The phrase with a time of day, after which there may be a half of the day or a time zone. -/
def withTime (p : Phrase) (h m s : Nat) (r : List (Bool × Token)) :
    Option (Phrase × List (Bool × Token)) :=
  if 59 < m || 60 < s then none
  else
    match r with
    | (_, .word half) :: rest =>
      if half = "am" || half = "pm" then
        (halfDay? h half).map fun h => ({ p with time := some (h * 3600 + m * 60 + s) }, rest)
      else zoned r
    | _ => zoned r
where
  /-- Goes on with a time zone, if there is one. -/
  zoned (r : List (Bool × Token)) : Option (Phrase × List (Bool × Token)) :=
    if 23 < h then none
    else
      let p := { p with time := some (h * 3600 + m * 60 + s) }
      match zoneAt r with
      | some (z, r) => some ({ p with zone := some z }, r)
      | none => some (p, r)

/-- A date that is possible. -/
def withDate (p : Phrase) (y : Option Int) (m d : Nat) : Option Phrase :=
  if 1 ≤ m && m ≤ 12 && 1 ≤ d && d ≤ 31 then some { p with date := some (y, m, d) } else none

/-- A year of two digits is one near 2000. -/
def fullYear (y size : Nat) : Int := if size ≤ 2 then (if y < 69 then y + 2000 else y + 1900) else y

/-- A part of a phrase that begins with a number. -/
def ofNumber (p : Phrase) (n size : Nat) (r : List (Bool × Token)) :
    Option (Phrase × List (Bool × Token)) :=
  match r with
  | (false, .mark '-') :: (false, .number m _) :: (false, .mark '-') :: (false, .number d _) :: r =>
    (p.withDate (some (fullYear n size)) m d).map fun p =>
      match r with
      | (false, .word "t") :: r => (p, r)
      | r => (p, r)
  | (false, .mark '-') :: (false, .word w) :: (false, .mark '-') :: (false, .number y k) :: r =>
    (named? monthNames w).bind fun m => (p.withDate (some (fullYear y k)) (m + 1) n).map (·, r)
  | (false, .mark '/') :: (false, .number b _) :: (false, .mark '/') :: (false, .number c k) :: r =>
    if 2 < size then (p.withDate (some n) b c).map (·, r)
    else (p.withDate (some (fullYear c k)) n b).map (·, r)
  | (false, .mark '/') :: (false, .number b _) :: r => (p.withDate none n b).map (·, r)
  | (false, .mark ':') :: (false, .number m _) :: (false, .mark ':') :: (false, .number s _) ::
      (false, .mark '.') :: (false, .number _ _) :: r => p.withTime n m s r
  | (false, .mark ':') :: (false, .number m _) :: (false, .mark ':') :: (false, .number s _) :: r =>
    p.withTime n m s r
  | (false, .mark ':') :: (false, .number m _) :: r => p.withTime n m 0 r
  | (_, .word w) :: rest =>
    match named? monthNames w, p.shift? n w with
    | some m, none =>
      match rest with
      | (_, .number y k) :: (s, .mark ':') :: r =>
        (p.withDate none (m + 1) n).map (·, (true, .number y k) :: (s, .mark ':') :: r)
      | (_, .number y k) :: r => (p.withDate (some (fullYear y k)) (m + 1) n).map (·, r)
      | r => (p.withDate none (m + 1) n).map (·, r)
    | _, some q => some (q, rest)
    | none, none =>
      if w = "am" || w = "pm" then p.withTime n 0 0 r
      else if w = "t" && size = 8 then
        (p.withDate (some (n / 10000 : Nat)) (n / 100 % 100) (n % 100)).map (·, rest)
      else bareNumber r
  | r => bareNumber r
where
  /-- A number alone. -/
  bareNumber (r : List (Bool × Token)) : Option (Phrase × List (Bool × Token)) :=
    match p.date with
    | some (none, m, d) =>
      if p.time.isSome || 2 < size then some ({ p with date := some (some (fullYear n size), m, d) }, r)
      else p.withTime n 0 0 r
    | _ =>
      if 4 < size then
        (p.withDate (some (n / 10000 : Nat)) (n / 100 % 100) (n % 100)).map (·, r)
      else if size ≤ 2 then p.withTime n 0 0 r
      else p.withTime (n / 100) (n % 100) 0 r

/-- The number that a word such as `next` stands for. -/
def ordinal? (w : Octets) : Option Int :=
  match w with
  | "last" => some (-1)
  | "this" => some 0
  | "next" | "first" => some 1
  | "third" => some 3
  | "fourth" => some 4
  | "fifth" => some 5
  | _ => none

/-- A part of a phrase that begins with a word. -/
def ofWord (p : Phrase) (w : Octets) (r : List (Bool × Token)) : Option (Phrase × List (Bool × Token)) :=
  match w with
  | "now" | "today" => some ({ p with isRelative := true }, r)
  | "yesterday" => (p.shift? (-1) "day").map (·, r)
  | "tomorrow" => (p.shift? 1 "day").map (·, r)
  | "ago" =>
    some ({ p with years := -p.years, months := -p.months, days := -p.days, seconds := -p.seconds }, r)
  | "utc" | "gmt" | "z" => some ({ p with zone := some 0 }, r)
  | _ =>
    match ordinal? w, r with
    | some n, (_, .word u) :: r =>
      match p.shift? n u with
      | some p => some (p, r)
      | none => (named? weekdayNames u).map fun d => ({ p with weekday := some (n, d) }, r)
    | _, _ =>
      match named? monthNames w with
      | some m =>
        match r with
        | (_, .number d _) :: (s, .number h k) :: (t, .mark ':') :: r =>
          (p.withDate none (m + 1) d).map (·, (s, .number h k) :: (t, .mark ':') :: r)
        | (_, .number d _) :: (_, .number y k) :: r =>
          if k = 4 then (p.withDate (some (y : Int)) (m + 1) d).map (·, r)
          else (p.withDate none (m + 1) d).map (·, (true, .number y k) :: r)
        | (_, .number d _) :: r => (p.withDate none (m + 1) d).map (·, r)
        | _ => none
      | none =>
        match named? weekdayNames w with
        | some d => some ({ p with weekday := some (0, d) }, r)
        | none => (p.shift? 1 w).map (·, r)

/-- What the tokens of a phrase say; the number bounds them. -/
def ofTokens : Nat → Phrase → List (Bool × Token) → Option Phrase
  | 0, _, _ => none
  | _, p, [] => some p
  | n + 1, p, t :: r =>
    match t.2, r with
    | .mark '@', (_, .mark '-') :: (_, .number k _) :: _ => some { p with stamp := some (-(k : Int)) }
    | .mark '@', (_, .number k _) :: r =>
      match r with
      | [] | [(false, .mark '.'), (false, .number _ _)] => some { p with stamp := some k }
      | _ => none
    | .mark c, (_, .number k _) :: (_, .word u) :: r =>
      if c = '+' then (p.shift? k u).bind fun p => ofTokens n p r
      else if c = '-' then (p.shift? (-(k : Int)) u).bind fun p => ofTokens n p r
      else none
    | .mark _, _ => none
    | .number k size, r => (p.ofNumber k size r).bind fun q => ofTokens n q.1 q.2
    | .word w, r => (p.ofWord w r).bind fun q => ofTokens n q.1 q.2

/-- The number of days of a month. -/
def monthLength (year : Int) (month : Nat) : Nat :=
  let next : Moment := if month = 12 then { year := year + 1, month := 1, day := 1 }
    else { year, month := month + 1, day := 1 }
  (next.dayNumber - dayNumber { year, month, day := 1 }).toNat

/-- The moment that a phrase denotes, in seconds, if the present one is `now`. -/
def toSeconds? (p : Phrase) (now : Int) : Option Int :=
  match p.stamp with
  | some s => some s
  | none =>
    let present := Moment.ofSeconds now
    let timeNow := present.hour * 3600 + present.minute * 60 + present.second
    let (year, month, day) : Int × Nat × Nat :=
      match p.date with
      | some (y, m, d) => (y.getD present.year, m, d)
      | none => (present.year, present.month, present.day)
    if p.date.isSome && monthLength year month < day then none
    else
      let time := p.time.getD (if p.date.isSome || p.weekday.isSome then 0 else timeNow)
      let months := (month : Int) - 1 + p.months
      let year := year + p.years + months.fdiv 12
      let first := dayNumber { year, month := (months.fmod 12).toNat + 1, day := 1 }
      let base := first + (day : Int) - 1 + p.days
      let base := match p.weekday with
        | none => base
        | some (n, d) =>
          let today := (base + 4).emod 7
          let ahead := ((d : Int) - today).emod 7
          let n := if 0 < n && ahead ≠ 0 then n - 1 else n
          base + ahead + 7 * n
      some (base * secondsPerDay + time - p.zone.getD 0 + p.seconds)

end Phrase

/-- The moment that a phrase denotes, in seconds, if the present one is `now`. -/
def ofPhrase? (now : Int) (s : Octets) : Option Int :=
  let ts := Phrase.tokens (s.length + 1) true s.toList
  if ts = [] then some (now - now.fmod secondsPerDay)
  else (Phrase.ofTokens (ts.length + 1) {} ts).bind (·.toSeconds? now)

/-- The moment that digits for month, day, hour and minute denote, with a year before them, and seconds
behind a point. -/
def ofStamp? (now : Int) (s : Octets) : Option Int :=
  let cs := s.toList
  let ds := cs.takeWhile Char.isDigit
  let seconds? : Option Nat := match cs.drop ds.length with
    | [] => some 0
    | ['.', a, b] => Octets.natural? (String.ofList [a, b])
    | _ => none
  let year? : Option Int :=
    if ds.length = 8 then some (Moment.ofSeconds now).year
    else if ds.length = 10 then some (Phrase.fullYear (Octets.ofDigits (ds.take 2)) 2)
    else if ds.length = 12 then some (Octets.ofDigits (ds.take 4) : Int)
    else none
  match seconds?, year? with
  | some second, some year =>
    let n := Octets.ofDigits (ds.drop (ds.length - 8))
    let m : Moment := ⟨year, n / 1000000, n / 10000 % 100, n / 100 % 100, n % 100, second⟩
    if 1 ≤ m.month && m.month ≤ 12 && 1 ≤ m.day && m.day ≤ Phrase.monthLength year m.month && m.hour < 24 &&
      m.minute < 60 then some m.toSeconds else none
  | _, _ => none

end ShellCoverage.Shell.Moment
