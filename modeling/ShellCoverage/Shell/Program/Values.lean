import ShellCoverage.Shell.Program.Files
import ShellCoverage.Shell.Program.Starting

/-!
# Programs on values

Programs that print or test their arguments, that count, and that tell the time: `true`, `false`, `echo`,
`printf`, `test`, `seq`, `factor`, `date`, `sleep`, `getopt`, `tsort`.

* `Program.Fixed` : a number with so many digits behind the point.
-/

namespace ShellCoverage.Shell.Program

/-- `true` -/
def succeed : Program := fun _ => return 0

/-- `false` -/
def failing : Program := fun _ => return 1

/-- `echo` -/
def echo : Program := fun args => do
  Sh.write (Printing.echo .bytes false false args)
  return 0

/-- `printf` -/
def printf : Program := fun args => do
  let args := if args.head? = some "--" then args.tail else args
  match args with
  | [] => missingOperand
  | f :: args =>
    let o := Printing.format { printer := .program, charset := ← Sh.charset } f args
    for c in o.complaints do
      complain c.text
    Sh.write (String.ofList o.text)
    return status o.isGood

/-- `test` and `[` -/
def test (name : Octets) : Program := fun args =>
  Testing.run name args fun m => Sh.complain (m ++ "\n")

/-- `sleep` -/
def sleep : Program := fun args =>
  let u : Usage := { leading := true }
  u.run args fun _ operands => do
    if operands = [] then return ← missingOperand
    match operands.filter fun a => (duration? a).isNone with
    | [] =>
      let stop := (← Sh.world).clock + (operands.filterMap duration?).sum
      Sh.pause .time (some stop) false
      return 0
    | bad =>
      for a in bad do
        complain ("invalid time interval " ++ cited a)
      referToHelp
      return 1

/-! ## Sequences -/

/-- A number with so many digits behind the point: that many times a power of ten. -/
structure Fixed where
  amount : Int
  places : Nat

namespace Fixed

/-- The number in a text. -/
def read? (s : Octets) : Option Fixed :=
  let cs := s.toList.dropWhile Octets.isSpace
  let (negative, cs) : Bool × List Char := match cs with
    | '-' :: r => (true, r)
    | '+' :: r => (false, r)
    | r => (false, r)
  let whole := cs.takeWhile Char.isDigit
  let rest := cs.drop whole.length
  let (part, rest) : List Char × List Char := match rest with
    | '.' :: r => (r.takeWhile Char.isDigit, r.dropWhile Char.isDigit)
    | r => ([], r)
  let (e, rest) := Floating.exponent ['e', 'E'] rest
  if rest ≠ [] || (whole = [] && part = []) then none
  else
    let n : Int := Octets.ofDigits (whole ++ part)
    let n := if negative then -n else n
    let places : Int := part.length - e
    some (if places < 0 then ⟨n * 10 ^ (-places).toNat, 0⟩ else ⟨n, places.toNat⟩)

/-- The amount with more places. -/
def scaled (x : Fixed) (places : Nat) : Int := x.amount * 10 ^ (places - x.places)

/-- The text of an amount with so many places. -/
def text (amount : Int) (places : Nat) : Octets :=
  let ds := Nat.toDigits 10 amount.natAbs
  let ds := List.replicate (places + 1 - ds.length) '0' ++ ds
  let whole := ds.take (ds.length - places)
  (if amount < 0 then "-" else "") ++ String.ofList whole ++
    (if places = 0 then "" else "." ++ String.ofList (ds.drop whole.length))

end Fixed

/-- The options of `seq`, which come before the first number. -/
def seqOptions : Nat → List Octets → List Octets × List Octets
  | 0, args => ([], args)
  | _, [] => ([], [])
  | n + 1, a :: r =>
    match a.toList with
    | ['-', '-'] => ([], r)
    | '-' :: c :: cs =>
      if c.isDigit || c = '.' then ([], a :: r)
      else if (cs = [] && (c = 'f' || c = 's')) || a = "--format" || a = "--separator" then
        let (os, rest) := seqOptions n r.tail
        (a :: r.take 1 ++ os, rest)
      else
        let (os, rest) := seqOptions n r
        (a :: os, rest)
    | _ => ([], a :: r)

/-- Writes numbers from one to another with a separator between them; the number bounds how many. -/
def writeSequence (show_ : Int → Octets) (separator : Octets) (step last : Int) : Nat → Bool → Int → Sh Unit
  | 0, _, _ => throw .stopped
  | n + 1, first, x => do
    if (0 < step && last < x) || (step < 0 && x < last) then
      if !first then Sh.write "\n"
    else
      Sh.write ((if first then "" else separator) ++ show_ x)
      writeSequence show_ separator step last n false (x + step)

/-- `seq` -/
def seq : Program := fun args =>
  let u : Usage :=
    { letters := "f:s:w", words := [("format", "f"), ("separator", "s"), ("equal-width", "w")] }
  let (head, operands) := seqOptions (args.length + 1) args
  u.run head fun os _ => do
    match operands with
    | [] => missingOperand
    | _ :: _ :: _ :: extra :: _ => extraOperand extra
    | _ =>
      match operands.find? fun a => (Fixed.read? a).isNone with
      | some bad => misuse ("invalid floating point argument: " ++ cited bad)
      | none =>
        let numbers := operands.filterMap Fixed.read?
        let one : Fixed := ⟨1, 0⟩
        let (first, step, last) := match numbers with
          | [b] => (one, one, b)
          | [a, b] => (a, one, b)
          | [a, s, b] => (a, s, b)
          | _ => (one, one, one)
        if step.amount = 0 then
          return ← misuse ("invalid Zero increment value: " ++ cited ((operands[1]?).getD ""))
        let shownPlaces := max first.places step.places
        let places := max shownPlaces last.places
        let a := first.scaled places
        let s := step.scaled places
        let b := last.scaled places
        let plain (x : Int) : Octets := Fixed.text (x.tdiv (10 ^ (places - shownPlaces))) shownPlaces
        let count := if (0 < s && b < a) || (s < 0 && a < b) then 0 else ((b - a).tdiv s).toNat
        let width := max (plain a).length (plain (a + s * (count : Int))).length
        let shown (x : Int) : Octets :=
          match os.value? "f" with
          | some f =>
            String.ofList (Printing.format { printer := .program } f [Fixed.text x places]).text
          | none =>
            let t := plain x
            if os.has "w" then
              let missing := String.ofList (List.replicate (width - t.length) '0')
              if x < 0 then "-" ++ missing ++ String.ofList (t.toList.drop 1) else missing ++ t
            else t
        let separator := (os.value? "s").getD "\n"
        if count < 5000 then
          -- A short sequence is written at once.
          let all := (List.range (count + 1)).map fun (i : Nat) => shown (a + s * (i : Int))
          if !((0 < s && b < a) || (s < 0 && a < b)) then Sh.write (Octets.join separator all ++ "\n")
        else writeSequence shown separator s b Sh.maxReads true a
        return 0

/-! ## Factors -/

/-- The prime factors of a number from a divisor on; the number bounds the steps. -/
def factorsFrom : Nat → Nat → Nat → List Nat
  | 0, _, n => [n]
  | fuel + 1, d, n =>
    if n < d * d then (if 1 < n then [n] else [])
    else if n % d = 0 then d :: factorsFrom fuel d (n / d)
    else factorsFrom fuel (if d = 2 then 3 else d + 2) n

/-- `factor` -/
def factor : Program := fun args =>
  let u : Usage := { letters := "h", words := [("exponents", "h")] }
  u.run args fun _ operands => do
    let words ← if operands ≠ [] then pure operands else
      match ← input "-" with
      | .error e =>
        complainStandard e
        return 1
      | .ok s => pure ((Octets.pieces ' ' (s.map fun c => if Octets.isSpace c then ' ' else c)).filter (· ≠ ""))
    onEach words fun w => do
      match Octets.natural? (match w.toList with | '+' :: r => String.ofList r | _ => w) with
      | none => refuse (cited w ++ " is not a valid positive integer")
      | some n =>
        let fs := if n = 0 then [] else factorsFrom 10000000 2 n
        Sh.write (Octets.join " " ((Octets.ofNat n ++ ":") :: fs.map Octets.ofNat) ++ "\n")
        return true

/-! ## The time -/

/-- A format of `date` in which the parts that only it knows are filled in. -/
def dateFormat : List Char → List Char
  | '%' :: 'N' :: r => "000000000".toList ++ dateFormat r
  | '%' :: '3' :: 'N' :: r => "000".toList ++ dateFormat r
  | '%' :: '6' :: 'N' :: r => "000000".toList ++ dateFormat r
  | '%' :: '9' :: 'N' :: r => "000000000".toList ++ dateFormat r
  | '%' :: ':' :: 'z' :: r => "+00:00".toList ++ dateFormat r
  | '%' :: ':' :: ':' :: 'z' :: r => "+00:00:00".toList ++ dateFormat r
  | '%' :: c :: r => '%' :: c :: dateFormat r
  | c :: r => c :: dateFormat r
  | [] => []

/-- The format that an option for a standard one stands for. -/
def standardFormat? (o : Octets × Octets) : Option Octets :=
  let precise (sep : Octets) (value : Octets) : Octets :=
    if Octets.startsWith value "hours" && value ≠ "" then "%Y-%m-%d" ++ sep ++ "%H+00:00"
    else if Octets.startsWith value "minutes" && value ≠ "" then "%Y-%m-%d" ++ sep ++ "%H:%M+00:00"
    else if Octets.startsWith value "seconds" && value ≠ "" then "%Y-%m-%d" ++ sep ++ "%H:%M:%S+00:00"
    else if value = "ns" then "%Y-%m-%d" ++ sep ++ "%H:%M:%S" ++ (if sep = "T" then "," else ".") ++
      "000000000+00:00"
    else "%Y-%m-%d"
  match o with
  | ("I", v) => some (precise "T" v)
  | ("R", _) => some "%a, %d %b %Y %H:%M:%S +0000"
  | ("rfc-3339", v) => some (precise " " v)
  | _ => none

/-- `date` -/
def date : Program := fun args =>
  let u : Usage :=
    { letters := "d:f:I::r:Rs:u"
      words := [("date", "d"), ("file", "f"), ("iso-8601", "I"), ("reference", "r"), ("rfc-email", "R"),
        ("rfc-3339:", "rfc-3339"), ("set", "s"), ("utc", "u"), ("universal", "u")] }
  u.run args fun os operands => do
    match operands with
    | _ :: extra :: _ => extraOperand extra
    | _ =>
      let now ← presentTime
      let moment ← match os.value? "d", os.value? "r" with
        | some s, _ =>
          match Moment.ofPhrase? now s with
          | some n => pure n
          | none =>
            complain ("invalid date " ++ cited s)
            return 1
        | none, some path =>
          match ← Sh.node? true path with
          | .ok (place, _) => pure (secondsOf (← changeTime place))
          | .error e =>
            complainOf path e
            return 1
        | none, none => pure now
      let format ← match operands with
        | a :: _ =>
          match Octets.dropHead? "+" a with
          | some f => pure f
          | none =>
            if os.has "d" || os.has "r" then
              return ← misuse ("the argument " ++ cited a ++ " lacks a leading '+';\nwhen using an option to specify date(s), any non-option\nargument must be a format string beginning with '+'")
            complain ("invalid date " ++ cited a)
            return 1
        | [] => pure ((os.findSome? standardFormat?).getD "%a %b %e %H:%M:%S %Z %Y")
      let m := Moment.ofSeconds moment
      Sh.write (m.format (String.ofList (dateFormat format.toList)) ++ "\n")
      return 0

/-! ## Options of scripts -/

/-- An argument in quotes as `getopt` writes it. -/
def scriptQuoted (plain : Bool) (s : Octets) : Octets :=
  if plain then s
  else "'" ++ String.ofList (s.toList.flatMap fun c =>
    if c = '\x27' then "'\\''".toList else [c]) ++ "'"

/-- Takes the options of a script one after the other: what is written of them, of the operands, and the
complaints. The number bounds the arguments. -/
def scriptOptions (u : Usage) (plain : Bool) :
    Nat → List Octets → List Octets × List Octets × List Octets
  | 0, rest => ([], rest, [])
  | _, [] => ([], [], [])
  | n + 1, a :: r =>
    let goOn (out : List Octets) (rest faults : List Octets) : List Octets × List Octets × List Octets :=
      let (o, operands, es) := scriptOptions u plain n rest
      (out ++ o, operands, faults ++ es)
    let shown (o : Octets × Octets) (arity : Arity) : List Octets :=
      let key := if o.1.length = 1 then "-" ++ o.1 else "--" ++ o.1
      if arity = .none then [key] else [key, scriptQuoted plain o.2]
    match a.toList with
    | ['-', '-'] => ([], r, [])
    | '-' :: '-' :: cs =>
      match u.long cs r with
      | .error e => goOn [] r [e]
      | .ok (o, rest) =>
        let arity := ((u.words.find? fun w => w.1 = o.1).map fun w => (u.keyOf w.2).2).getD .none
        goOn (shown o arity) rest []
    | '-' :: c :: cs =>
      match Usage.letterArity? c u.letters.toList with
      | none =>
        let rest := if cs = [] then r else ("-" ++ String.ofList cs) :: r
        goOn [] rest ["invalid option -- '" ++ c.toString ++ "'"]
      | some .none =>
        goOn (shown (c.toString, "") .none) (if cs = [] then r else ("-" ++ String.ofList cs) :: r) []
      | some .possible => goOn (shown (c.toString, String.ofList cs) .possible) r []
      | some .required =>
        if cs ≠ [] then goOn (shown (c.toString, String.ofList cs) .required) r []
        else
          match r with
          | v :: r => goOn (shown (c.toString, v) .required) r []
          | [] => goOn [] [] ["option requires an argument -- '" ++ c.toString ++ "'"]
    | _ =>
      if u.leading then ([], a :: r, [])
      else
        let (o, operands, es) := scriptOptions u plain n r
        (o, a :: operands, es)

/-- `getopt` -/
def getopt : Program := fun args =>
  let u : Usage :=
    { letters := "al:n:o:qQs:TuhV"
      leading := true
      failure := 2
      package := "util-linux"
      release := "2.38.1"
      words := [("alternative", "a"), ("longoptions", "l"), ("name", "n"), ("options", "o"), ("quiet", "q"),
        ("quiet-output", "Q"), ("shell", "s"), ("test", "T"), ("unquoted", "u")] }
  u.run args fun os operands => do
    if os.has "T" then return 4
    let (letters, arguments) : Octets × List Octets := match os.value? "o" with
      | some l => (l, operands)
      | none => (operands.headD "", operands.tail)
    let plain := os.has "u"
    let words := (os.values "l").flatMap fun l =>
      (Octets.pieces ',' (l.map fun c => if Octets.isBlank c then ',' else c)).filter (· ≠ "")
    let bareWords := words.map fun w => (String.ofList (w.toList.takeWhile (· ≠ ':')), w)
    let first := letters.toList.head?
    let script : Usage :=
      { letters := String.ofList (if first = some '+' || first = some '-' then letters.toList.drop 1
          else letters.toList)
        words := bareWords.map fun w => (w.1, if w.1.length = 1 then w.2 ++ "::" else w.2)
        leading := first = some '+' }
    let arguments := if os.has "o" && arguments.head? = some "--" then arguments.tail else arguments
    let (out, rest, faults) := scriptOptions script plain (2 * (arguments.map String.length).sum +
      arguments.length + 1) arguments
    if !os.has "q" then
      for e in faults do
        Sh.complain ((os.value? "n").getD (← ownName) ++ ": " ++ e ++ "\n")
    if !os.has "Q" then
      Sh.write (String.join ((out ++ ["--"] ++ rest.map (scriptQuoted plain)).map (" " ++ ·)) ++ "\n")
    return if faults = [] then 0 else 1

/-! ## Orders -/

/-- Elements in an order in which each comes after those that it needs; the number bounds them. Where they
need each other, the first one is taken. -/
def inOrder (pairs : List (Octets × Octets)) : Nat → List Octets → List Octets
  | 0, _ => []
  | n + 1, left =>
    let free (x : Octets) : Bool := !(pairs.any fun p => p.2 = x && p.1 ≠ x && left.elem p.1)
    match left.filter free with
    | [] =>
      match left with
      | [] => []
      | x :: r => x :: inOrder pairs n r
    | ready => ready ++ inOrder pairs n (left.filter fun x => !ready.elem x)

/-- `tsort` -/
def tsort : Program := fun args =>
  let u : Usage := {}
  u.run args fun _ operands => do
    let path := operands.headD "-"
    match ← input path with
    | .error e =>
      complainInput path e
      return 1
    | .ok text =>
      let words := (Octets.pieces ' ' (text.map fun c => if Octets.isSpace c then ' ' else c)).filter (· ≠ "")
      if words.length % 2 = 1 then
        complain (named path ++ ": input contains an odd number of tokens")
        return 1
      let pairs := (List.range (words.length / 2)).filterMap fun i => do
        return (← words[2 * i]?, ← words[2 * i + 1]?)
      let all := words.eraseDups
      Sh.write (unlines (inOrder pairs (all.length + 1) all))
      return 0

end ShellCoverage.Shell.Program
