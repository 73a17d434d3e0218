import ShellCoverage.Shell.Calendar
import ShellCoverage.Shell.Floating

/-!
# Printing

The texts that `echo` and `printf` write.

* `Printing.echo` : the text of `echo`;
* `Printing.format` : the text of `printf`, with complaints about its arguments.
-/

namespace ShellCoverage.Shell.Printing

/-- The options of `echo` at the head of its arguments: whether a line feed is left out, whether
escapes have a meaning, and the other arguments. -/
def echoOptions (noFeed escapes : Bool) : List Octets → Bool × Bool × List Octets
  | [] => (noFeed, escapes, [])
  | a :: r =>
    match a.toList with
    | '-' :: o :: os =>
      let os := o :: os
      if os.all fun c => c = 'n' || c = 'e' || c = 'E' then
        let escapes := os.foldl (fun e c => if c = 'e' then true else if c = 'E' then false else e) escapes
        echoOptions (noFeed || os.elem 'n') escapes r
      else (noFeed, escapes, a :: r)
    | _ => (noFeed, escapes, a :: r)

/-- The text of `echo`. In the plain shell escapes always have a meaning. -/
def echo (k : Charset) (plain escapes : Bool) (args : List Octets) : Octets :=
  let (noFeed, escapes, args) :=
    if plain then
      match args with
      | "-n" :: r => (true, true, r)
      | r => (false, true, r)
    else echoOptions false escapes args
  let text := (Octets.join " " args).toList
  let style : Quoting.Style := if plain then .plainArgument else .argument
  let (text, stops) := if escapes then Quoting.unescape k style text else (text, false)
  String.ofList (text ++ if noFeed || stops then [] else ['\n'])

/-! ## Formats -/

/-- A conversion of a format. -/
structure Conversion where
  flags : List Char := []
  width : Option Int := none
  precision : Option Int := none
  letter : Char
  deriving Inhabited

/-- A message about an argument or the format. -/
structure Complaint where
  text : Octets
  /-- It is a warning only. -/
  warns : Bool := false
  /-- It ends the command of the plain shell. -/
  ends : Bool := false

/-- The outcome of `printf`. -/
structure Outcome where
  text : List Char := []
  complaints : List Complaint := []
  /-- Output ends here. -/
  stops : Bool := false

/-- All went well. -/
def Outcome.isGood (o : Outcome) : Bool := o.complaints.all (·.warns)

/-- Who prints. -/
inductive Printer where
  | full
  | plain
  /-- A program of its own. -/
  | program
  deriving DecidableEq

/-- The circumstances of printing. -/
structure Setting where
  printer : Printer := .full
  charset : Charset := .bytes
  /-- The moment, in seconds. -/
  now : Int := 0
  /-- The moment at which the shell started. -/
  start : Int := 0

/-- A text with at least the width of a conversion. -/
def pad (c : Conversion) (text : List Char) : List Char :=
  match c.width with
  | none => text
  | some w =>
    let blanks := List.replicate (w.natAbs - text.length) ' '
    if c.flags.elem '-' || w < 0 then text ++ blanks else blanks ++ text

/-- The digits of a number in the base of a conversion. -/
def digits (letter : Char) (n : Nat) : List Char :=
  match letter with
  | 'o' => Nat.toDigits 8 n
  | 'x' => Nat.toDigits 16 n
  | 'X' => (Nat.toDigits 16 n).map Char.toUpper
  | _ => Nat.toDigits 10 n

/-- A number as a conversion shows it. -/
def integer (c : Conversion) (n : Int) : List Char :=
  let isSigned := c.letter = 'd' || c.letter = 'i'
  let magnitude := if isSigned then n.natAbs else (Int.emod n (2 ^ 64)).toNat
  let ds := digits c.letter magnitude
  let ds :=
    match c.precision with
    | some p => if p = 0 && magnitude = 0 then [] else List.replicate (p.toNat - ds.length) '0' ++ ds
    | none => ds
  let sign : List Char :=
    if isSigned then
      if n < 0 then ['-']
      else if c.flags.elem '+' then ['+']
      else if c.flags.elem ' ' then [' ']
      else []
    else if c.flags.elem '#' && magnitude ≠ 0 then
      match c.letter with
      | 'o' => ['0']
      | 'x' => ['0', 'x']
      | 'X' => ['0', 'X']
      | _ => []
    else []
  let zeros :=
    if c.flags.elem '0' && !(c.flags.elem '-') && c.precision.isNone then
      (c.width.getD 0).natAbs - sign.length - ds.length
    else 0
  pad c (sign ++ List.replicate zeros '0' ++ ds)

/-- The integer at the head of a text, whether the text is all of it, and whether there is one. -/
def readInteger (k : Charset) (s : Octets) : Int × Bool × Bool :=
  match s.toList with
  | '\'' :: r | '"' :: r => ((k.numberOf r : Nat), true, true)
  | cs =>
    let cs := cs.dropWhile Octets.isSpace
    let (negative, body) :=
      match cs with
      | '-' :: r => (true, r)
      | '+' :: r => (false, r)
      | r => (false, r)
    let (base, digit?, body) : Nat × (Char → Option Nat) × List Char :=
      match body with
      | '0' :: 'x' :: r | '0' :: 'X' :: r => (16, Quoting.hexDigit?, r)
      | '0' :: r => (8, Quoting.octalDigit?, '0' :: r)
      | r => (10, fun c => if c.isDigit then some (c.toNat - 48) else none, r)
    let (n, rest) := Quoting.digits digit? base body.length 0 body
    let value : Int := if negative then -(n : Int) else n
    let begins := rest.length < body.length
    (value, rest = [] && (cs = [] || begins), begins || base = 16)

/-- A decimal fraction: the digits and the number of them after the point; and whether the text is
all of it. -/
def readDecimal (s : Octets) : Bool × Nat × Int × Bool :=
  let cs := s.toList.dropWhile Octets.isSpace
  let (negative, body) :=
    match cs with
    | '-' :: r => (true, r)
    | '+' :: r => (false, r)
    | r => (false, r)
  let whole := body.takeWhile Char.isDigit
  let rest := body.drop whole.length
  let (part, rest) :=
    match rest with
    | '.' :: r =>
      let p := r.takeWhile Char.isDigit
      (p, r.drop p.length)
    | r => ([], r)
  let (shift, rest) : Int × List Char :=
    match rest with
    | 'e' :: r | 'E' :: r =>
      match Octets.integer? (String.ofList r) with
      | some n => (n, [])
      | none => (0, rest)
    | r => (0, r)
  (negative, Octets.ofDigits (whole ++ part), part.length - shift, rest = [])

/-- The microseconds that a number of seconds is. -/
def microseconds? (s : Octets) : Option Nat :=
  let (negative, n, places, whole) := readDecimal s
  if negative || !whole || !(s.toList.any Char.isDigit) then none
  else
    let n := n * 1000000
    some (if 0 ≤ places then n / 10 ^ places.toNat else n * 10 ^ places.natAbs)

/-- A number with a floating point as a conversion shows it. -/
def floating (precision : Nat) (c : Conversion) (x : Floating) : List Char :=
  let places : Option Nat := c.precision.bind fun p => if p < 0 then none else some p.toNat
  let upper := c.letter.isUpper
  let style : Floating.Style := { places := places.getD 6, upper, alternative := c.flags.elem '#' }
  let (text, isFinite) : List Char × Bool :=
    match x.magnitude with
    | .infinite => ((if upper then "INF" else "inf").toList, false)
    | .notANumber => ((if upper then "NAN" else "nan").toList, false)
    | .finite b =>
      (match c.letter with
      | 'e' | 'E' => Floating.scientific style b
      | 'g' | 'G' => Floating.general style b
      | 'a' | 'A' => Floating.hexadecimal style places precision b
      | _ => Floating.fixed style b, true)
  let sign : List Char :=
    if x.negative then ['-'] else if c.flags.elem '+' then ['+'] else if c.flags.elem ' ' then [' '] else []
  let zeros :=
    if isFinite && c.flags.elem '0' && !(c.flags.elem '-') then
      (c.width.getD 0).natAbs - sign.length - text.length
    else 0
  if text.take 2 = ['0', 'x'] || text.take 2 = ['0', 'X'] then
    pad c (sign ++ text.take 2 ++ List.replicate zeros '0' ++ text.drop 2)
  else pad c (sign ++ List.replicate zeros '0' ++ text)

/-- A text cut to the precision of a conversion and padded to its width. -/
def textOf (c : Conversion) (cs : List Char) : List Char :=
  pad c (match c.precision with
    | some p => if p < 0 then cs else cs.take p.toNat
    | none => cs)

/-- The complaint about an argument that is no number. -/
def badNumber (printer : Printer) (s : Octets) (started : Bool) : Complaint :=
  match printer with
  | .full => { text := Octets.noNumber s }
  | .plain => { text := s ++ (if started then ": not completely converted" else ": expected numeric value") }
  | .program =>
    { text := "'" ++ s ++ "': " ++ (if started then "value not completely converted" else "expected a numeric value") }

/-- The complaint about a number that is too large. -/
def largeNumber (printer : Printer) (s : Octets) : Complaint :=
  match printer with
  | .full => { text := "warning: " ++ s ++ ": Numerical result out of range", warns := true }
  | .plain => { text := s ++ ": Numerical result out of range" }
  | .program => { text := "'" ++ s ++ "': Numerical result out of range" }

/-- The number of binary digits of numbers with a floating point. -/
def precisionOf (printer : Printer) : Nat := if printer = .plain then 53 else 64

/-- The outcome of a conversion of an integer. -/
def convertInteger (setting : Setting) (c : Conversion) (arg : Option Octets) : Outcome :=
  let printer := setting.printer
  let s := arg.getD ""
  let (n, whole, begins) := readInteger setting.charset s
  let isSigned := c.letter = 'd' || c.letter = 'i'
  let (least, greatest) : Int × Int := if isSigned then (-2 ^ 63, 2 ^ 63 - 1) else (-(2 ^ 64 - 1), 2 ^ 64 - 1)
  let isLarge : Bool := n < least || greatest < n
  let value := if n < least then (if isSigned then least else greatest) else min n greatest
  let complaints :=
    if arg.isNone || (printer = .full && s = "") then []
    else if !whole then [badNumber printer s begins]
    else if isLarge then [largeNumber printer s]
    else []
  { text := integer c value, complaints }

/-- The outcome of a conversion of a number with a floating point. -/
def convertFloating (setting : Setting) (c : Conversion) (arg : Option Octets) : Outcome :=
  let s := arg.getD ""
  let precision := precisionOf setting.printer
  match s.toList with
  | '\'' :: r | '"' :: r =>
    let code := setting.charset.numberOf r
    { text := floating precision c ⟨false, .finite (Floating.nearest precision code 1)⟩ }
  | _ => number setting.printer precision s
where
  /-- The outcome for a number. -/
  number (printer : Printer) (precision : Nat) (s : Octets) : Outcome :=
    match Floating.read? precision s.toList with
    | some (x, rest) =>
      { text := floating precision c x, complaints := if rest = [] then [] else [badNumber printer s true] }
    | none =>
      { text := floating precision c ⟨false, .finite ⟨0, 0⟩⟩
        complaints := if arg.isNone || (printer ≠ .program && s = "") then [] else [badNumber printer s false] }

/-- A moment in the words of a format: now for -1 or without an argument, and the start of the shell
for -2. -/
def momentText (s : Setting) (format : Octets) (arg : Option Octets) : Octets :=
  let n := (arg.map fun a => (readInteger s.charset a).1).getD (-1)
  let n := if n = -1 then s.now else if n = -2 then s.start else n
  Moment.format (Moment.ofSeconds n) (if format = "" then "%X" else format)

/-- The outcome of one conversion with its argument. -/
def convert (setting : Setting) (c : Conversion) (arg : Option Octets) : Outcome :=
  let printer := setting.printer
  let k := setting.charset
  let s := arg.getD ""
  match c.letter with
  | 's' => { text := textOf c s.toList }
  | 'c' =>
    { text := pad c (if s = "" then (if printer = .program then [] else [Char.ofNat 0]) else s.toList.take 1) }
  | 'b' =>
    let (cs, stops) := Quoting.unescape k (if printer = .plain then .plainArgument else .argument) s.toList
    { text := textOf c cs, stops }
  | 'q' => { text := textOf c (Quoting.backslashed k s).toList }
  | 'Q' =>
    let part := textOf { c with width := none } s.toList
    { text := pad c (Quoting.backslashed k (String.ofList part)).toList }
  | 'd' | 'i' | 'o' | 'u' | 'x' | 'X' => convertInteger setting c arg
  | 'f' | 'F' | 'e' | 'E' | 'g' | 'G' | 'a' | 'A' => convertFloating setting c arg
  | _ => {}

/-- A number or an asterisk in a conversion: the number, what follows, and the arguments left. -/
def measure (cs : List Char) (args : List Octets) : Option Int × List Char × List Octets :=
  match cs with
  | '*' :: r => (some (readInteger .bytes (args.headD "0")).1, r, args.tail)
  | _ =>
    let ds := cs.takeWhile Char.isDigit
    if ds = [] then (none, cs, args) else (some (Octets.ofDigits ds : Int), cs.drop ds.length, args)

/-- The outcome of a format used once, the arguments left, and whether an argument was asked for. -/
def once (setting : Setting) : Nat → List Char → List Octets → Bool → Outcome × List Octets × Bool
  | 0, _, args, used => ({}, args, used)
  | _, [], args, used => ({}, args, used)
  | n + 1, c :: r, args, used =>
    let join (o : Outcome) (rest : List Char) (args : List Octets) (used : Bool) :
        Outcome × List Octets × Bool :=
      if o.stops then (o, args, used)
      else
        let (p, args, used) := once setting n rest args used
        ({ text := o.text ++ p.text, complaints := o.complaints ++ p.complaints, stops := p.stops },
          args, used)
    let refuse (text : Octets) : Outcome × List Octets × Bool :=
      ({ complaints := [{ text, ends := true }], stops := true }, args, used)
    let isPlain := setting.printer = .plain
    if c = '\\' then
      match Quoting.escapeAt setting.charset (if isPlain then .plainFormat else .format) r with
      | some (cs, rest) => join { text := cs } rest args used
      | none => ({ stops := true }, args, used)
    else if c = '%' then
      match r with
      | '%' :: rest => join { text := ['%'] } rest args used
      | _ =>
        let flags := r.takeWhile fun c => "-+ #0".toList.elem c || (c = '\'' && !isPlain)
        let (width, rest, args) := measure (r.drop flags.length) args
        let (precision, rest, args) :=
          match rest with
          | '.' :: r' =>
            let (p, rest, args) := measure r' args
            (some (p.getD 0), rest, args)
          | r' => (none, r', args)
        let rest := if isPlain then rest else rest.dropWhile fun c => "hlLqjzt".toList.elem c && rest.length > 1 &&
          !("q".toList.elem c && (rest.tail.head?.all fun d => !(d.isAlpha)))
        match rest with
        | [] => refuse (if isPlain then "missing format character" else "\x60%': missing format character")
        | '(' :: rest =>
          let format := rest.takeWhile (· ≠ ')')
          match setting.printer, rest.drop format.length with
          | .full, ')' :: 'T' :: rest =>
            let text := momentText setting (String.ofList format) args.head?
            join { text := textOf ⟨flags, width, precision, 's'⟩ text.toList } rest args.tail true
          | .plain, _ => refuse "%(: invalid directive"
          | _, _ => refuse ("\x60" ++ "(': invalid format character")
        | letter :: rest =>
          if "diouxXcsbfFeEgGaA".toList.elem letter || ("qQ".toList.elem letter && !isPlain) then
            join (convert setting ⟨flags, width, precision, letter⟩ args.head?) rest args.tail true
          else if isPlain then
            refuse ("%" ++ String.ofList (r.take (r.length - rest.length)) ++ ": invalid directive")
          else refuse ("\x60" ++ letter.toString ++ "': invalid format character")
    else join { text := [c] } r args used

/-- The outcome of a format that is used again while arguments are left. -/
def repeated (setting : Setting) (cs : List Char) : Nat → List Octets → Outcome
  | 0, _ => {}
  | n + 1, args =>
    let (o, rest, used) := once setting (cs.length + 1) cs args false
    if o.stops || rest = [] || !used then o
    else
      let p := repeated setting cs n rest
      { text := o.text ++ p.text, complaints := o.complaints ++ p.complaints, stops := p.stops }

/-- The outcome of `printf`. -/
def format (setting : Setting) (f : Octets) (args : List Octets) : Outcome :=
  repeated setting f.toList (args.length + 1) args

end ShellCoverage.Shell.Printing
