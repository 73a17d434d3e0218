import ShellCoverage.Shell.Program.Copying
import ShellCoverage.Shell.Program.Files
import ShellCoverage.Shell.Regex.Reader

/-!
# Programs that cut a file into pieces

`split`, which cuts by sizes and numbers of lines, and `csplit`, which cuts where lines match.

* `Program.Cutting.pieces` : the pieces of a text;
* `Program.Suffixes` : the names of pieces;
* `Program.Cutter` : how far a text is cut at its lines; `Program.Cutter.run` : cuts it.
-/

namespace ShellCoverage.Shell.Program

/-! ## Names -/

/-- The ends of the names of pieces. -/
structure Suffixes where
  digits : Array Char := (List.range 26).toArray.map fun i => Char.ofNat (97 + i)
  width : Nat := 2
  /-- The names become longer when there are no more of a length. -/
  grows : Bool := true
  /-- The number of the first piece. -/
  first : Nat := 0
  /-- What follows each name. -/
  ending : Octets := ""

namespace Suffixes

/-- A number in so many digits. -/
def numeral (s : Suffixes) (width n : Nat) : Octets :=
  let b := s.digits.size
  String.ofList ((List.range width).reverse.map fun i => (s.digits[n / b ^ i % b]?).getD '?')

/-- The end of a name if names become longer: the last digit at the start says that they are. -/
def growing (s : Suffixes) : Nat → Nat → Nat → Octets
  | 0, width, n => s.numeral width n
  | fuel + 1, width, n =>
    let b := s.digits.size
    let count := (b - 1) * b ^ (width - 1)
    if n < count then s.numeral width n
    else ((s.digits.back?).getD '?').toString ++ s.growing fuel (width + 1) (n - count)

/-- The end of the name of the `n`th piece, if there is one. -/
def name? (s : Suffixes) (n : Nat) : Option Octets :=
  if s.grows then some (s.growing (n + 1) s.width n ++ s.ending)
  else if s.first + n < s.digits.size ^ s.width then some (s.numeral s.width (s.first + n) ++ s.ending)
  else none

/-- The width that some number of names needs. -/
def widthFor (s : Suffixes) (count : Nat) : Nat := (Nat.toDigits s.digits.size (count - 1)).length

/-- What the numbers in names are called. -/
def kind (s : Suffixes) : Octets := if s.digits.size = 16 then "hexadecimal" else "numerical"

end Suffixes

/-! ## Cuts by size -/

/-- What the parts have in equal number. -/
inductive Share where
  | bytes
  /-- The bytes, but no line is cut. -/
  | lines
  /-- The lines, which go to the parts in turn. -/
  | turns
  deriving DecidableEq

/-- Where a text is cut. -/
inductive Cutting where
  | bytes (size : Nat)
  | lines (count : Nat)
  /-- As many lines as fit into some bytes; only a line that is too long is cut. -/
  | lineBytes (size : Nat)
  /-- Into some number of parts, of which perhaps only one is wanted. -/
  | parts (share : Share) (only : Option Nat) (count : Nat)

namespace Cutting

/-- Characters in pieces of whole lines that fit into a size. -/
def fitting (feed : Char) (size : Nat) : Nat → List Char → List (List Char)
  | 0, _ => []
  | _, [] => []
  | n + 1, cs =>
    if cs.length < size then [cs]
    else
      let window := cs.take size
      let whole := (window.reverse.dropWhile (· ≠ feed)).reverse
      let piece := if whole = [] then window else whole
      piece :: fitting feed size n (cs.drop piece.length)

/-- Lines with the places at which they start. -/
def placed : Nat → List Octets → List (Nat × Octets)
  | _, [] => []
  | n, l :: ls => (n, l) :: placed (n + l.length) ls

/-- The parts of a text that is shared out. -/
def shared (share : Share) (count : Nat) (feed : Char) (text : Octets) : List Octets :=
  let cs := text.toList
  let size := max cs.length count / count
  let lines := delimited feed text
  (List.range count).map fun i =>
    match share with
    | .bytes =>
      let part := cs.drop (i * size)
      String.ofList (if i + 1 = count then part else part.take size)
    | .lines => String.join (((placed 0 lines).filter fun l => min (l.1 / size) (count - 1) = i).map (·.2))
    | .turns => String.join ((lines.zipIdx.filter fun l => l.2 % count = i).map (·.1))

/-- The pieces of a text. -/
def pieces (c : Cutting) (feed : Char) (text : Octets) : List Octets :=
  match c with
  | .bytes size => (inParts size text.toList).map String.ofList
  | .lines count => (inParts count (delimited feed text)).map String.join
  | .lineBytes size => (fitting feed size (text.length + 1) text.toList).map String.ofList
  | .parts share _ count => shared share count feed text

/-- The number of parts that an option gives, how they are shared out, and the part that is wanted. -/
def parts? (s : Octets) : Except Octets Cutting := do
  let (share, r) := match Octets.pieces '/' s with
    | "l" :: r => (Share.lines, r)
    | "r" :: r => (Share.turns, r)
    | r => (Share.bytes, r)
  let number (t : Octets) : Except Octets Nat :=
    match amount? t with
    | some (n + 1) => .ok (n + 1)
    | _ => .error ("invalid number of chunks: " ++ quoted t)
  match r with
  | [n] => return .parts share none (← number n)
  | [k, n] =>
    let count ← number n
    match amount? k with
    | some (m + 1) => if m < count then return .parts share (some m) count
    | _ => pure ()
    .error ("invalid chunk number: " ++ quoted k)
  | _ => .error ("invalid number of chunks: " ++ quoted (Octets.join "/" r))

/-- The cut that an option asks for. -/
def ofOption (o : Octets × Octets) : Except Octets Cutting := do
  let number (what : Octets) : Except Octets Nat :=
    match amount? o.2 with
    | some (n + 1) => .ok (n + 1)
    | _ => .error ("invalid number of " ++ what ++ ": " ++ quoted o.2)
  match o.1 with
  | "b" => return .bytes (← number "bytes")
  | "C" => return .lineBytes (← number "bytes")
  | "l" => return .lines (← number "lines")
  | _ => parts? o.2

end Cutting

/-- The names of the pieces that options ask for, for a cut. -/
def Suffixes.ofOptions (os : Options) (c : Cutting) : Except (Octets × Bool) Suffixes := do
  let s : Suffixes := {}
  let s := match os.last? ["d", "x", "numeric-suffixes", "hex-suffixes"] with
    | some "d" | some "numeric-suffixes" => { s with digits := "0123456789".toList.toArray }
    | some _ => { s with digits := "0123456789abcdef".toList.toArray }
    | none => s
  let start := ((os.value? "numeric-suffixes").orElse fun _ => os.value? "hex-suffixes").filter (· ≠ "")
  let s ← match start with
    | none => pure s
    | some t =>
      if t.toList.all s.digits.toList.elem then
        pure { s with first := t.toList.foldl (fun n d => n * s.digits.size + s.digits.toList.idxOf d) 0, grows := false }
      else
        .error (quoted t ++ ": invalid start value for " ++ s.kind ++ " suffix", true)
  let needed := match c with
    | .parts _ _ count => s.widthFor (if s.first < count then count + s.first else count)
    | _ => 0
  let s := if needed = 0 then s else { s with grows := false, width := max 2 needed }
  let s ← match os.value? "a" with
    | none => pure s
    | some t =>
      match Octets.natural? t with
      | none => .error ("invalid suffix length: " ++ quoted t, false)
      | some 0 => pure s
      | some n =>
        if n < needed then .error ("the suffix length needs to be at least " ++ Octets.ofNat needed, false)
        pure { s with width := n, grows := false }
  if start.isSome && s.digits.size ^ s.width ≤ s.first then
    .error ("numerical suffix start value is too large for the suffix length", true)
  let ending := (os.value? "additional-suffix").getD ""
  if Octets.has '/' ending then
    .error ("invalid suffix " ++ quoted ending ++ ", contains directory separator", true)
  return { s with ending }

/-- The number of lines for which a digit alone is an option. -/
def lineCountOption : List Octets → List Octets
  | a :: r =>
    if (Octets.dropHead? "-" a).any fun d => (Octets.natural? d).isSome then
      ("-l" ++ String.ofList (a.toList.drop 1)) :: r
    else a :: r
  | [] => []

/-- The character that ends lines, as an option gives it. -/
def separator (os : Options) : Except Octets Char :=
  match os.value? "t" with
  | none => .ok '\n'
  | some "\\0" => .ok '\x00'
  | some s =>
    match s.toList with
    | [] => .error "empty record separator"
    | [c] => .ok c
    | _ => .error ("multi-character separator " ++ quoted s)

/-- `split` -/
def split : Program := fun args =>
  let u : Usage :=
    { letters := "a:b:C:del:n:t:ux"
      words := [("suffix-length", "a"), ("bytes", "b"), ("line-bytes", "C"), ("elide-empty-files", "e"),
        ("lines", "l"), ("number", "n"), ("separator", "t"), ("unbuffered", "u"),
        ("numeric-suffixes", "numeric-suffixes::"), ("hex-suffixes", "hex-suffixes::"),
        ("additional-suffix", "additional-suffix:"), ("verbose", "verbose")] }
  u.run (lineCountOption args) fun os operands => do
    let fail (message : Octets) : Sh Nat := do
      complain message
      return 1
    let cuts := os.filter fun o => ["b", "C", "l", "n"].elem o.1
    match cuts.mapM Cutting.ofOption, separator os with
    | .error e, _ | _, .error e => fail e
    | .ok cuttings, .ok feed =>
      if 1 < cuts.length then return ← misuse "cannot split in more than one way"
      let c := cuttings.headD (.lines 1000)
      match Suffixes.ofOptions os c with
      | .error (message, refers) => if refers then misuse message else fail message
      | .ok suffixes =>
        match operands with
        | _ :: _ :: extra :: _ => extraOperand extra
        | _ =>
          let path := operands.headD "-"
          let stem := operands.tail.headD "x"
          match ← input path with
          | .error e =>
            if path = "-" || e = .isDirectory then fail (named path ++ ": " ++ e.description)
            else fail ("cannot open " ++ cited path ++ " for reading: " ++ e.description)
          | .ok text =>
            let pieces := c.pieces feed text
            match c with
            | .parts _ (some k) _ =>
              Sh.write ((pieces[k]?).getD "")
              return 0
            | _ =>
              let pieces := if os.has "e" then pieces.filter (· ≠ "") else pieces
              for (piece, i) in pieces.zipIdx do
                match suffixes.name? i with
                | none => return ← fail "output file suffixes exhausted"
                | some suffix =>
                  if os.has "verbose" then Sh.write ("creating file " ++ cited (stem ++ suffix) ++ "\n")
                  if !(← writeOutput (stem ++ suffix) piece) then return 1
              return 0

/-! ## Cuts at lines -/

/-- Where a text is cut, and how often that is done again; there is no number if it is done until the end. -/
structure CutPoint where
  /-- The argument that says so. -/
  argument : Octets
  /-- The line before which the text is cut; or that which lines are searched for, whether the lines before it
  are left out, and the distance of the cut from the line that matches. -/
  target : Nat ⊕ (Regex × Bool × Int)
  again : Option Nat := some 0

/-- How cutting ends before all is done. -/
inductive CutEnd where
  /-- The text has ended. -/
  | finished
  /-- Something is wrong. -/
  | failed (message : Octets)
  /-- There is nothing where a line must be. The pieces stay, of which the last one is not complete. -/
  | vanished

/-- How far a text is cut at its lines. -/
structure Cutter where
  /-- The lines that are in no piece yet. -/
  lines : List Octets
  /-- The number of the first of them. -/
  first : Nat := 1
  /-- The number of the last line that was looked at. -/
  current : Nat := 0
  /-- The pieces, the last one first. -/
  pieces : List Octets := []
  /-- The lines that match are left out. -/
  suppresses : Bool := false

namespace Cutter

/-- Steps of cutting. -/
abbrev Cut := ExceptT CutEnd (StateM Cutter)

/-- The line with a number, if it is not in a piece yet. -/
def line? (c : Cutter) (n : Nat) : Option Octets := if n < c.first then none else c.lines[n - c.first]?

/-- Takes lines away up to one with some number, or to the end. -/
def take (last : Nat) : Cut (List Octets) := do
  let c ← get
  let count := last - c.first
  let taken := c.lines.take count
  set { c with lines := c.lines.drop count, first := c.first + taken.length,
               current := if taken = [] then c.current else max c.current (c.first + taken.length - 1) }
  return taken

/-- Makes lines a piece. -/
def close (ls : List Octets) : Cut Unit := modify fun c => { c with pieces := String.join ls :: c.pieces }

/-- Takes all the lines that are left away. -/
def takeAll : Cut (List Octets) := do
  let c ← get
  take (c.first + c.lines.length)

/-- The text of a number of repetitions. -/
def repetitionText (n : Nat) : Octets := if n = 0 then "" else " on repetition " ++ Octets.ofNat n

/-- Cuts before a line with a number. -/
def atLine (line n : Nat) : Cut Unit := do
  let outOfRange : Cut Unit :=
    throw (.failed (quoted (Octets.ofNat line) ++ ": line number out of range" ++ repetitionText n))
  let c ← get
  if c.suppresses && (c.line? (c.current + 1)).isNone then
    close []
    outOfRange
  let last := line * (n + 1)
  if c.lines = [] then
    close []
    throw .vanished
  let taken ← take last
  close taken
  let c ← get
  if c.first < last then outOfRange
  if c.suppresses then discard (take (c.first + 1))
  else if (c.line? (c.current + 1)).isNone then outOfRange

/-- The number of the first line from one on that matches. -/
def search (c : Cutter) (r : Regex) : Nat → Nat → Option Nat
  | 0, _ => none
  | fuel + 1, n =>
    match c.line? n with
    | none => none
    | some l =>
      if (Regex.search? {} r (withoutFeed l).toList 0).isSome then some n else c.search r fuel (n + 1)

/-- Cuts at a line that matches. -/
def atMatch (p : CutPoint) (r : Regex) (ignores : Bool) (offset : Int) (n : Nat) : Cut Unit := do
  let keep (ls : List Octets) : Cut Unit := if ignores then pure () else close ls
  let c ← get
  match c.search r (c.lines.length + 2) (c.current + 1) with
  | none =>
    keep (← takeAll)
    throw (match p.again with
      | none => .finished
      | some _ => .failed (quoted p.argument ++ ": match not found" ++ repetitionText n))
  | some found =>
    set { c with current := found }
    let place := (found : Int) + offset
    let outOfRange : Cut Unit := throw (.failed (quoted p.argument ++ ": line number out of range"))
    if place < c.first then
      keep []
      outOfRange
    let taken ← take place.toNat
    keep taken
    if (c.first : Int) + taken.length < place then outOfRange
    modify fun d => { d with current := if 0 < offset then place.toNat else found }
    if c.suppresses then
      let d ← get
      discard (take (d.first + 1))

/-- Cuts at a point as often as it says; the first number bounds the steps. -/
def atPoint (p : CutPoint) : Nat → Nat → Cut Unit
  | 0, _ => pure ()
  | fuel + 1, n => do
    match p.again with
    | some most => if most < n then return
    | none => pure ()
    match p.target with
    | .inl line => atLine line n
    | .inr (r, ignores, offset) => atMatch p r ignores offset n
    atPoint p fuel (n + 1)

/-- Cuts at all points, and makes the rest a piece: how that ends, and the pieces. -/
def run (c : Cutter) (points : List CutPoint) : CutEnd × List Octets :=
  let all : Cut Unit := do
    for p in points do
      atPoint p (c.lines.length + 3) 0
    close (← takeAll)
  match (all.run).run c with
  | (.error e, c) => (e, c.pieces.reverse)
  | (.ok _, c) => (.finished, c.pieces.reverse)

end Cutter

/-- Arguments of `csplit`, each with the number of repetitions in braces that may follow it. -/
def withRepetitions : List Octets → List (Octets × Option Octets)
  | a :: b :: r =>
    if Octets.startsWith "\x7b" b then (a, some b) :: withRepetitions r else (a, none) :: withRepetitions (b :: r)
  | [a] => [(a, none)]
  | [] => []

/-- The number of repetitions between braces; none if there is no end. -/
def repetitions (s : Octets) : Except Octets (Option Nat) :=
  match s.toList.drop 1 |>.reverse with
  | '\x7d' :: cs =>
    let body := String.ofList cs.reverse
    if body = "*" then .ok none
    else
      match Octets.natural? body with
      | some n => .ok (some n)
      | none => .error (quoted ("\x7b" ++ body) ++ "\x7d: integer required between '\x7b' and '\x7d'")
  | _ => .error (quoted s ++ ": '\x7d' is required in repeat count")

/-- The line that an argument means: that with a number, which is not smaller than the last one, or one that
matches. -/
def cutTarget (last : Nat) (a : Octets) : Except Octets (Nat ⊕ (Regex × Bool × Int)) := do
  match a.toList with
  | '/' :: cs | '%' :: cs =>
    let d := a.toList.headD '/'
    let body := ((cs.reverse.dropWhile (· ≠ d)).drop 1).reverse
    if !cs.elem d then .error (a ++ ": closing delimiter '" ++ d.toString ++ "' missing")
    let after := String.ofList (cs.drop (body.length + 1))
    match Regex.ofOctets .basic (String.ofList body) with
    | .error e => .error (quoted a ++ ": invalid regular expression: " ++ e.message)
    | .ok regex =>
      if after = "" then return .inr (regex, d = '%', 0)
      match Octets.integer? after with
      | some n => return .inr (regex, d = '%', n)
      | none => .error (quoted a ++ ": integer expected after delimiter")
  | _ =>
    match Octets.natural? a with
    | none => .error (quoted a ++ ": invalid pattern")
    | some 0 => .error (a ++ ": line number must be greater than zero")
    | some n =>
      if n < last then
        .error ("line number " ++ quoted a ++ " is smaller than preceding line number, " ++ Octets.ofNat last)
      return .inl n

/-- Where a text is cut for some arguments, after the last line number and with the warnings. -/
def cutPoints : Nat → List (Octets × Option Octets) → Except Octets (List CutPoint × List Octets)
  | _, [] => .ok ([], [])
  | last, (a, repetition?) :: r => do
    let target ← cutTarget last a
    let again ← match repetition? with
      | some s => repetitions s
      | none => pure (some 0)
    let (line, warnings) := match target with
      | .inl n =>
        (n, if n = last then ["warning: line number " ++ quoted a ++ " is the same as preceding line number"] else [])
      | .inr _ => (last, [])
    let (ps, ws) ← cutPoints line r
    return (⟨a, target, again⟩ :: ps, warnings ++ ws)

/-- The name of a piece by a format with one directive for a number, or what is wrong with the format. -/
def numbered (format : Octets) (n : Nat) : Except Octets Octets := do
  let parts := splitDirective format.toList
  match parts with
  | none => .error "missing % conversion specification in suffix"
  | some (before, r) =>
    let flags := r.takeWhile fun c => "-+ #0'".toList.elem c
    let r := r.drop flags.length
    let width := r.takeWhile Char.isDigit
    let r := r.drop width.length
    let precision := match r with | '.' :: r => r.takeWhile Char.isDigit | _ => []
    let r := match r with | '.' :: r => r.drop precision.length | r => r
    match r with
    | [] => .error "missing conversion specifier in suffix"
    | c :: r =>
      let base := match c with | 'o' => 8 | 'x' | 'X' => 16 | _ => 10
      if !"diouxX".toList.elem c then
        .error ("invalid conversion specifier in suffix: " ++ c.toString)
      if (splitDirective r).isSome then .error "too many % conversion specifications in suffix"
      let ds := Nat.toDigits base n
      let ds := if c = 'X' then ds.map Char.toUpper else ds
      let ds := List.replicate (Octets.ofDigits precision - ds.length) '0' ++ ds
      let gap := Octets.ofDigits width - ds.length
      let text :=
        if flags.elem '-' then ds ++ List.replicate gap ' '
        else if flags.elem '0' && precision = [] then List.replicate gap '0' ++ ds
        else List.replicate gap ' ' ++ ds
      return before ++ String.ofList text ++ plain r
where
  /-- The text before the first directive, and what follows its sign. -/
  splitDirective : List Char → Option (Octets × List Char)
    | '%' :: '%' :: r => (splitDirective r).map fun p => ("%" ++ p.1, p.2)
    | '%' :: r => some ("", r)
    | c :: r => (splitDirective r).map fun p => (c.toString ++ p.1, p.2)
    | [] => none
  /-- Text without directives. -/
  plain : List Char → Octets
    | '%' :: '%' :: r => "%" ++ plain r
    | c :: r => c.toString ++ plain r
    | [] => ""

/-- `csplit` -/
def csplit : Program := fun args =>
  let u : Usage :=
    { letters := "f:b:kn:sqz"
      words := [("prefix", "f"), ("suffix-format", "b"), ("keep-files", "k"), ("digits", "n"), ("silent", "s"),
        ("quiet", "s"), ("elide-empty-files", "z"), ("suppress-matched", "suppress-matched")] }
  u.run args fun os operands => do
    let fail (message : Octets) : Sh Nat := do
      complain message
      return 1
    let width? := Octets.natural? ((os.value? "n").getD "2")
    match width?, operands with
    | none, _ => fail ("invalid number: " ++ quoted ((os.value? "n").getD ""))
    | _, [] => missingOperand
    | _, [path] => misuse ("missing operand after " ++ quoted path)
    | some width, path :: points =>
      let name (n : Nat) : Except Octets Octets :=
        match os.value? "b" with
        | some f => numbered f n
        | none => .ok (inBase 10 width n)
      if let .error e := name 0 then return ← fail e
      match ← input path with
      | .error e =>
        if path = "-" then
          if !(os.has "s" || os.has "z") then Sh.write "0\n"
          complainStandard e
          return 1
        fail ("cannot open " ++ cited path ++ " for reading: " ++ e.description)
      | .ok text =>
        match cutPoints 0 (withRepetitions points) with
        | .error e => fail e
        | .ok (points, warnings) =>
          for w in warnings do
            complain w
          let c : Cutter := { lines := Octets.lines text, suppresses := os.has "suppress-matched" }
          let (last, pieces) := c.run points
          let pieces := if os.has "z" then pieces.filter (· ≠ "") else pieces
          let stem := (os.value? "f").getD "xx"
          let keeps := os.has "k" || match last with | .failed _ => false | _ => true
          for (piece, i) in pieces.zipIdx do
            let path := stem ++ ((name i).toOption.getD "")
            if !(← writeOutput path piece) then return 1
            if !keeps then
              if let .ok (place, some _) ← spot? path then discard (put place none)
          let counted ← match last with
            | .finished => pure pieces
            | .failed e => do complain e; pure pieces
            | .vanished => do complain "input disappeared"; pure pieces.dropLast
          if !(os.has "s" || os.has "q") then
            for piece in counted do
              Sh.write (Octets.ofNat piece.length ++ "\n")
          return match last with | .finished => 0 | _ => 1

end ShellCoverage.Shell.Program
