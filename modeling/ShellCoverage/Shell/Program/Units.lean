import ShellCoverage.Shell.Floating
import ShellCoverage.Shell.Program.Columns

/-!
# Amounts with units

`numfmt`, which reads and writes amounts with letters for powers of 1000 or 1024. Amounts are fractions, and no
digit of them is lost before they are rounded.

* `Program.Scale` : what the letters stand for;
* `Program.Amount.read` : the amount at the head of a text;
* `Program.Converter` : how amounts are read, rounded and written; `Program.Converter.field` : one of them.
-/

namespace ShellCoverage.Shell.Program

/-! ## Scales and roundings -/

/-- What the letters after an amount stand for. -/
inductive Scale where
  /-- There are no letters. -/
  | none
  /-- Powers of 1000, or of 1024 if an `i` follows. -/
  | auto
  /-- Powers of 1000. -/
  | decimal
  /-- Powers of 1024. -/
  | binary
  /-- Powers of 1024; an `i` follows. -/
  | marked
  deriving DecidableEq

/-- The number of which the letters stand for the powers. -/
def Scale.base : Scale → Nat
  | .binary | .marked => 1024
  | _ => 1000

/-- The letters for the powers from the first one on. -/
def unitLetters : List Char := "KMGTPEZY".toList

/-- To which side an amount is rounded. -/
inductive RoundingSide where
  | up | down | fromZero | towardsZero | nearest
  deriving DecidableEq

/-- The integer to which an amount is rounded; a half goes away from zero. -/
def RoundingSide.round (side : RoundingSide) (x : Rat) : Int :=
  match side with
  | .up => x.ceil
  | .down => x.floor
  | .fromZero => if x < 0 then x.floor else x.ceil
  | .towardsZero => if x < 0 then x.ceil else x.floor
  | .nearest => if x < 0 then (x - 1 / 2).ceil else (x + 1 / 2).floor

/-- The size of an amount. -/
def magnitude (x : Rat) : Rat := if x < 0 then -x else x

/-- A power of ten. -/
def tenTo (n : Nat) : Rat := ((10 ^ n : Nat) : Rat)

/-! ## Reading -/

/-- Why a text is no amount. -/
inductive AmountFault where
  | tooLarge
  | notNumber
  /-- There is a letter although none has a meaning. -/
  | unwantedLetter
  | unknownLetter
  /-- There is no `i` after the letter. -/
  | unmarked
  /-- There is more text after the amount. -/
  | trailing (rest : Octets)

/-- What is wrong with a text. -/
def AmountFault.message (text : Octets) : AmountFault → Octets
  | .tooLarge => "value too large to be converted: " ++ cited text
  | .notNumber => "invalid number: " ++ cited text
  | .unwantedLetter => "rejecting suffix in input: " ++ cited text ++ " (consider using --from)"
  | .unknownLetter => "invalid suffix in input: " ++ cited text
  | .unmarked => "missing 'i' suffix in input: " ++ cited text ++ " (e.g Ki/Mi/Gi)"
  | .trailing rest => "invalid suffix in input " ++ cited text ++ ": " ++ cited rest

/-- An amount with the number of digits after its point. -/
structure Amount where
  value : Rat
  places : Nat := 0

namespace Amount

/-- The digits at the head of some characters, which a point may stand for: their number, how many there are,
and what follows. -/
def digits (cs : List Char) : Except AmountFault (Nat × Nat × List Char) :=
  let ds := cs.takeWhile Char.isDigit
  let rest := cs.drop ds.length
  if ds = [] && rest.head? ≠ some '.' then .error .notNumber
  else if 27 < (ds.dropWhile (· = '0')).length then .error .tooLarge
  else .ok (Octets.ofDigits ds, ds.length, rest)

/-- The number at the head of some characters, and what follows. -/
def number (cs : List Char) : Except AmountFault (Amount × List Char) := do
  let (negative, body) := match cs with
    | '-' :: r => (true, r)
    | r => (false, r)
  let (whole, _, rest) ← digits body
  let sign : Rat := if negative then -1 else 1
  match rest with
  | '.' :: r =>
    let (part, places, rest) ← digits r
    return (⟨sign * ((whole : Rat) + (part : Rat) / tenTo places), places⟩, rest)
  | rest => return (⟨sign * (whole : Rat), 0⟩, rest)

/-- The amount that a text denotes, with letters of a scale. -/
def read (scale : Scale) (text : Octets) : Except AmountFault Amount := do
  let (x, rest) ← number text.toList
  let (x, rest) ← match rest.dropWhile Octets.isBlank with
    | [] => if rest = [] then pure (x, []) else .error .unknownLetter
    | c :: r =>
      let power := unitLetters.idxOf c + 1
      if unitLetters.length < power then .error .unknownLetter
      else
        match scale, r with
        | .none, _ => .error .unwantedLetter
        | .auto, 'i' :: r => pure (⟨x.value * ((1024 ^ power : Nat) : Rat), 0⟩, r)
        | scale, r => pure (⟨x.value * ((scale.base ^ power : Nat) : Rat), 0⟩, r)
  let rest ← match scale, rest with
    | .marked, 'i' :: r => pure r
    | .marked, _ => .error .unmarked
    | _, r => pure r
  if rest = [] then return x else .error (.trailing (String.ofList rest))

end Amount

/-! ## Writing -/

/-- What becomes of a text that is no amount. -/
inductive AmountPolicy where
  /-- The program ends. -/
  | abort
  /-- The text stays, and the status says so. -/
  | fail
  /-- The text stays, and there is a message. -/
  | warn
  /-- The text stays. -/
  | ignore
  deriving DecidableEq

/-- How amounts are read, rounded and written. -/
structure Converter where
  source : Scale := .none
  target : Scale := .none
  /-- The size of the unit of what is read. -/
  sourceUnit : Nat := 1
  /-- The size of the unit of what is written. -/
  targetUnit : Nat := 1
  side : RoundingSide := .fromZero
  policy : AmountPolicy := .abort
  /-- What may stand after each amount that is read, and does after each that is written. -/
  ending : Octets := ""
  /-- The width of what is written; if there is none, that of what is read. -/
  width : Option Nat := none
  /-- Blanks come after what is written, and not before it. -/
  leftward : Bool := false
  /-- The width to which zeros fill up the number. -/
  zeros : Nat := 0
  /-- The digits after the point. -/
  places : Option Nat := none
  /-- What stands before each amount. -/
  before : Octets := ""
  /-- What stands after each amount. -/
  after : Octets := ""
  delimiter : Option Char := none
  fields : Nat → Bool := (· = 1)
  /-- The character that ends lines. -/
  feed : Char := '\n'

namespace Converter

/-- A number with a fixed number of places, filled up with zeros. -/
def fixed (c : Converter) (places : Nat) (x : Rat) : Octets :=
  let scaled := magnitude x * tenTo places
  let n := Decimal.roundHalfEven scaled.num.natAbs scaled.den
  let text := String.ofList (Floating.withPoint { places } places (Nat.toDigits 10 n))
  let sign := if x < 0 then "-" else ""
  sign ++ String.ofList (List.replicate (c.zeros - sign.length - text.length) '0') ++ text

/-- An amount divided by a base as often as it is larger, and how often that is. -/
def normalized (base : Nat) : Nat → Rat → Rat × Nat
  | 0, x => (x, 0)
  | n + 1, x =>
    if magnitude x < (base : Rat) then (x, 0)
    else
      let (y, power) := normalized base n (x / (base : Rat))
      (y, power + 1)

/-- An amount as it is written, without its ending. -/
def shown (c : Converter) (x : Amount) : Octets :=
  let round (places : Nat) (v : Rat) : Rat := ((c.side.round (v * tenTo places) : Int) : Rat) / tenTo places
  if c.target = .none then
    let places := c.places.getD x.places
    c.fixed places (round places x.value)
  else
    let base := c.target.base
    let (v, power) := normalized base 64 x.value
    let places := match c.places with
      | some p => min (power * 3) p
      | none => if magnitude v < 10 then 1 else 0
    let v := round places v
    let (v, power) := if (base : Rat) ≤ magnitude v then (v / (base : Rat), power + 1) else (v, power)
    let hasPoint : Bool := v ≠ 0 && magnitude v < 10 && 0 < power
    let letter := match power with
      | 0 => ""
      | p + 1 => ((unitLetters[p]?).getD '?').toString ++ if c.target = .marked then "i" else ""
    c.fixed (c.places.getD (if hasPoint then 1 else 0)) v ++ letter

/-- A number that is too large to be written with all its digits. -/
def largeText (x : Rat) : Octets :=
  (if x < 0 then "-" else "") ++
    String.ofList (Floating.general { places := 6 } (Floating.nearest 64 x.num.natAbs x.den))

/-- Why an amount cannot be written, if it cannot. -/
def refusal? (c : Converter) (x : Amount) : Option Octets :=
  let places := c.places.getD x.places
  let (_, power) := normalized 10 64 x.value
  if c.target = .none && 18 < power + places then
    some (if places = 0 then "value too large to be printed: '" ++ largeText x.value ++ "' (consider using --to)"
      else "value/precision too large to be printed: '" ++ largeText x.value ++ "/" ++ Octets.ofNat places ++
        "' (consider using --to)")
  else if 26 < power then
    some ("value too large to be printed: '" ++ largeText x.value ++ "' (cannot handle values > 999Y)")
  else none

/-- The text of a field after its conversion, or what is wrong with it. -/
def field (c : Converter) (index : Nat) (text : Octets) : Except Octets Octets := do
  let cut :=
    if c.ending.length < text.length && c.ending.toList.isSuffixOf text.toList then
      String.ofList (text.toList.take (text.length - c.ending.length))
    else text
  let body := String.ofList (cut.toList.dropWhile Octets.isBlank)
  let width := match c.width with
    | some w => w
    | none => if c.delimiter.isNone && (body.length < cut.length || 1 < index) then cut.length else 0
  match Amount.read c.source body with
  | .error e => .error (e.message body)
  | .ok x =>
    let x := { x with value := x.value * (c.sourceUnit : Rat) / (c.targetUnit : Rat) }
    match c.refusal? x with
    | some e => .error e
    | none =>
      let s := c.shown x ++ c.ending
      return c.before ++ (if c.leftward then Octets.padRight width s else Octets.padLeft width s) ++ c.after

/-- The fields of a line; without a delimiter each has the blanks before it. -/
def split (c : Converter) : Nat → List Char → List (List Char)
  | 0, _ => []
  | n + 1, cs =>
    let isGap (d : Char) : Bool := match c.delimiter with
      | some e => d = e
      | none => Octets.isBlank d || d = '\n'
    let lead := if c.delimiter.isNone then cs.takeWhile isGap else []
    let word := (cs.drop lead.length).takeWhile fun d => !isGap d
    match cs.drop (lead.length + word.length) with
    | [] => [lead ++ word]
    | _ :: r => (lead ++ word) :: c.split n r

/-- Converts a line: whether all of it could be, and whether the program goes on. -/
def line (c : Converter) (text ending : Octets) : Sh (Bool × Bool) := do
  let cells := c.split (text.length + 1) text.toList
  let gap := match c.delimiter with | some d => d.toString | none => " "
  let mut good := true
  for (cell, i) in cells.zipIdx do
    let cell := String.ofList cell
    if i ≠ 0 then Sh.write gap
    if c.fields (i + 1) then
      match c.field (i + 1) cell with
      | .ok s => Sh.write s
      | .error e =>
        if c.policy ≠ .ignore then complain e
        if c.policy = .abort then return (false, false)
        good := false
        Sh.write cell
    else Sh.write cell
  Sh.write ending
  return (good, true)

/-! ## Settings -/

/-- The size of a unit. -/
def unitSize? (s : Octets) : Option Nat :=
  let ds := s.toList.takeWhile Char.isDigit
  let n := if ds = [] then 1 else Octets.ofDigits ds
  let power (c : Char) : Option Nat :=
    let i := unitLetters.idxOf c
    if i < unitLetters.length then some (i + 1) else none
  let value := match s.toList.drop ds.length with
    | [] => if ds = [] then none else some n
    | [c] => (power c).map fun p => n * 1000 ^ p
    | [c, 'i'] => (power c).map fun p => n * 1024 ^ p
    | _ => none
  value.filter fun v => v ≠ 0 && v < 2 ^ 64

/-- The setting for a number in a format: blanks, `'` for groups, zeros, and the width with its sign. -/
def flagged : List Char → Bool → Bool × List Char
  | ' ' :: r, z | '\x27' :: r, z => flagged r z
  | '0' :: r, _ => flagged r true
  | r, z => (z, r)

/-- The characters before the directive of a format, counted with each `%%` as one, and the directive. -/
def beforeDirective : List Char → Nat → Option (Nat × List Char)
  | [], _ => none
  | '%' :: '%' :: r, n => beforeDirective r (n + 1)
  | '%' :: r, n => some (n, r)
  | _ :: r, n => beforeDirective r (n + 1)

/-- Text without a directive. -/
def isPlain : List Char → Bool
  | '%' :: '%' :: r => isPlain r
  | '%' :: _ => false
  | _ :: r => isPlain r
  | [] => true

/-- Takes the settings from a format, or says what is wrong with it. -/
def formatted (c : Converter) (format : Octets) : Except Octets Converter := do
  match beforeDirective format.toList 0 with
  | none => .error ("format " ++ cited format ++ " has no % directive")
  | some (size, r) =>
    let (zero, r) := flagged r false
    let (left, body) := match r with
      | '-' :: r => (true, r)
      | '+' :: r => (false, r)
      | r => (false, r)
    let ds := body.takeWhile Char.isDigit
    let r := if ds = [] then r else body.drop ds.length
    let width := Octets.ofDigits ds
    let c :=
      if width = 0 then c
      else if left then { c with leftward := true, width := some width }
      else if zero then { c with zeros := width }
      else { c with width := some width }
    let (c, r) ← match r with
      | [] => .error ("format " ++ cited format ++ " ends in %")
      | '.' :: r =>
        let ds := r.takeWhile Char.isDigit
        match r with
        | '-' :: _ | '+' :: _ | ' ' :: _ | '\t' :: _ => .error ("invalid precision in format " ++ cited format)
        | _ => pure ({ c with places := some (Octets.ofDigits ds) }, r.drop ds.length)
      | r => pure (c, r)
    match r with
    | 'f' :: r =>
      if isPlain r then
        return { c with before := String.ofList (format.toList.take size), after := String.ofList r }
      else .error ("format " ++ cited format ++ " has too many % directives")
    | _ => .error ("invalid format " ++ cited format ++ ", directive must be %[0]['][-][N][.][N]f")

/-- The scales to which an option can be set. -/
def scales : List (Octets × Scale) :=
  [("none", .none), ("auto", .auto), ("si", .decimal), ("iec", .binary), ("iec-i", .marked)]

/-- The settings for rounding. -/
def sides : List (Octets × RoundingSide) :=
  [("up", .up), ("down", .down), ("from-zero", .fromZero), ("towards-zero", .towardsZero), ("nearest", .nearest)]

/-- The settings for what is no amount. -/
def policies : List (Octets × AmountPolicy) :=
  [("abort", .abort), ("fail", .fail), ("warn", .warn), ("ignore", .ignore)]

/-- The value that a word, perhaps cut short, means among some, or the complaint that there is none. -/
def choice {α : Type} (key : Octets) (known : List (Octets × α)) (word : Octets) : Except Octets α :=
  match known.find? (·.1 = word), known.filter fun w => Octets.startsWith word w.1 with
  | some w, _ => .ok w.2
  | none, [w] => .ok w.2
  | none, found =>
    .error ((if found = [] then "invalid" else "ambiguous") ++ " argument " ++ cited word ++ " for '--" ++ key ++
      "'\nValid arguments are:" ++ String.join (known.map fun w => "\n  - '" ++ w.1 ++ "'"))

end Converter

/-- Why `numfmt` does not begin: a message, and whether help is referred to. -/
structure SettingFault where
  message : Octets
  refers : Bool := false

/-- Sets a converter as an option says. -/
def Converter.set (c : Converter) (o : Octets × Octets) : Except SettingFault Converter := do
  let fault (message : Octets) : Except SettingFault Converter := .error { message }
  let chosen {α : Type} (known : List (Octets × α)) : Except SettingFault α :=
    (Converter.choice o.1 known o.2).mapError fun message => { message, refers := true }
  match o.1 with
  | "from" => return { c with source := ← chosen Converter.scales }
  | "to" => return { c with target := ← chosen (Converter.scales.filter fun s => s.1 ≠ "auto") }
  | "round" => return { c with side := ← chosen Converter.sides }
  | "invalid" => return { c with policy := ← chosen Converter.policies }
  | "from-unit" | "to-unit" =>
    match Converter.unitSize? o.2 with
    | some n => return if o.1 = "to-unit" then { c with targetUnit := n } else { c with sourceUnit := n }
    | none => fault ("invalid unit size: " ++ cited o.2)
  | "padding" =>
    match Octets.integer? o.2 with
    | none | some 0 => fault ("invalid padding value " ++ cited o.2)
    | some n => return { c with width := some n.natAbs, leftward := n < 0 }
  | "suffix" => return { c with ending := o.2 }
  | "d" =>
    match o.2.toList with
    | [] => return { c with delimiter := some '\x00' }
    | [d] => return { c with delimiter := some d }
    | _ => fault "the delimiter must be a single character"
  | "field" =>
    if o.2 = "-" then return { c with fields := fun _ => true }
    match Ranges.read true o.2 with
    | .ok rs => return { c with fields := rs.holds }
    | .error message => .error { message, refers := true }
  | "z" => return { c with feed := '\x00' }
  | _ => return c

/-- The number of lines that `numfmt` copies as they are. -/
def headerSize (os : Options) : Except SettingFault Nat :=
  match os.value? "header" with
  | none => .ok 0
  | some "" => .ok 1
  | some s =>
    match Octets.natural? s with
    | none | some 0 => .error { message := "invalid header value " ++ cited s }
    | some n => .ok n

/-- The converter and the number of lines that stay as they are, for some options. -/
def Converter.ofOptions (os : Options) : Except SettingFault (Converter × Nat) := do
  if 1 < (os.values "field").length then .error { message := "multiple field specifications" }
  let c ← os.foldlM Converter.set {}
  let header ← headerSize os
  if os.has "format" && os.has "grouping" then .error { message := "--grouping cannot be combined with --format" }
  let c ← match os.value? "format" with
    | none => pure c
    | some f => (c.formatted f).mapError fun message => { message }
  if os.has "grouping" && c.target ≠ .none then .error { message := "grouping cannot be combined with --to" }
  return (c, header)

/-- `numfmt` -/
def numfmt : Program := fun args =>
  let u : Usage :=
    { letters := "d:z"
      words := [("from", "from:"), ("from-unit", "from-unit:"), ("to", "to:"), ("to-unit", "to-unit:"),
        ("round", "round:"), ("padding", "padding:"), ("suffix", "suffix:"), ("grouping", "grouping"),
        ("delimiter", "d"), ("field", "field:"), ("debug", "debug"), ("header", "header::"), ("format", "format:"),
        ("invalid", "invalid:"), ("zero-terminated", "z")] }
  u.run args fun os operands => do
    match Converter.ofOptions os with
    | .error e =>
      complain e.message
      if e.refers then referToHelp
      return 1
    | .ok (c, header) =>
      let converts : Bool := ["from", "to", "grouping", "padding", "format"].any os.has
      if os.has "debug" && !converts then complain "no conversion option specified"
      let feed := c.feed.toString
      let lines ← if operands ≠ [] then pure (operands.map fun o => (o, feed)) else
        match ← input "-" with
        | .error e =>
          complainStandard e
          return 1
        | .ok text =>
          let (lines, last) := completeLines c.feed text
          let (head, lines) := lines.splitAt header
          for l in head do
            Sh.write l
          let whole := lines.map fun l => (String.ofList l.toList.dropLast, feed)
          pure (if last = "" then whole else whole ++ [(last, "")])
      let mut good := true
      for (text, ending) in lines do
        let (done, goesOn) ← c.line text ending
        if !goesOn then return 2
        good := good && done
      return if good || c.policy = .warn || c.policy = .ignore then 0 else 2

end ShellCoverage.Shell.Program
