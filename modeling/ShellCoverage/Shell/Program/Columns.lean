import ShellCoverage.Shell.Pattern
import ShellCoverage.Shell.Program.Input

/-!
# Programs on characters and columns

`cut`, `paste`, `tr`, `fold`, `expand` and `unexpand`.

* `Program.Ranges` : a list of ranges of numbers such as `1,3-5,7-`;
* `Program.CharacterSet` : a set of characters as `tr` takes it.
-/

namespace ShellCoverage.Shell.Program

/-! ## Ranges -/

/-- Ranges of numbers from 1 on; one without an end goes on forever. -/
abbrev Ranges := List (Nat × Option Nat)

namespace Ranges

/-- A range that some characters denote, or why there is none. -/
def readOne (ofFields : Bool) (s : Octets) : Except Octets (Nat × Option Nat) := do
  let number (t : Octets) : Except Octets Nat :=
    match Octets.natural? t with
    | some 0 =>
      .error (if ofFields then "fields are numbered from 1" else "byte/character positions are numbered from 1")
    | some n => .ok n
    | none =>
      .error ((if ofFields then "invalid field value " else "invalid byte/character position ") ++
        cited (String.ofList (t.toList.dropWhile Char.isDigit)))
  match Octets.pieces '-' s with
  | [a] =>
    let n ← number (if a = "" then "0" else a)
    return (n, some n)
  | [a, b] =>
    if a = "" && b = "" then .error "invalid range with no endpoint: -"
    else
      let first ← if a = "" then pure 1 else number a
      if b = "" then return (first, none)
      let last ← number b
      if last < first then .error "invalid decreasing range"
      return (first, some last)
  | _ => .error (if ofFields then "invalid field range" else "invalid byte or character range")

/-- The ranges that some characters denote, or why there are none. -/
def read (ofFields : Bool) (s : Octets) : Except Octets Ranges :=
  (Octets.pieces ',' (s.map fun c => if Octets.isBlank c then ',' else c)).mapM (readOne ofFields)

/-- A number is in one of the ranges. -/
def holds (rs : Ranges) (n : Nat) : Bool := rs.any fun r => r.1 ≤ n && r.2.all (n ≤ ·)

/-- A number is the first one of a range that no other range goes on to. -/
def starts (rs : Ranges) (n : Nat) : Bool :=
  rs.any (fun r => r.1 = n) && !(rs.any fun r => r.1 < n && r.2.all (n ≤ ·))

end Ranges

/-- The elements at the places in ranges. -/
def chosen {α : Type} (keeps : Nat → Bool) (xs : List α) : List (Nat × α) :=
  (xs.zipIdx.map fun p => (p.2 + 1, p.1)).filter fun p => keeps p.1

/-- `cut` -/
def cut : Program := fun args =>
  let u : Usage :=
    { letters := "b:c:d:f:nsz"
      words := [("bytes", "b"), ("characters", "c"), ("fields", "f"), ("delimiter", "d"),
        ("only-delimited", "s"), ("output-delimiter", "output-delimiter:"), ("complement", "complement"),
        ("zero-terminated", "z")] }
  u.run args fun os paths => do
    match os.filter fun o => ["b", "c", "f"].elem o.1 with
    | [] => misuse "you must specify a list of bytes, characters, or fields"
    | _ :: _ :: _ => misuse "only one list may be specified"
    | [(kind, list)] =>
      let ofFields : Bool := kind = "f"
      if ((os.value? "d").getD "x").length > 1 then misuse "the delimiter must be a single character"
      else if os.has "d" && !ofFields then
        misuse "an input delimiter may be specified only when operating on fields"
      else if os.has "s" && !ofFields then
        misuse "suppressing non-delimited lines makes sense\n\tonly when operating on fields"
      else
        match Ranges.read ofFields list with
        | .error e => misuse e
        | .ok ranges =>
          let keeps (n : Nat) : Bool := ranges.holds n != os.has "complement"
          let feed := if os.has "z" then '\x00' else '\n'
          let delimiter := match os.value? "d" with
            | some s => s.toList.headD '\x00'
            | none => '\t'
          let (files, good) ← inputs paths
          for f in files do
            for l in records feed f.2 do
              if ofFields then
                if Octets.has delimiter l then
                  let cells := (chosen keeps (Octets.pieces delimiter l)).map (·.2)
                  let gap := (os.value? "output-delimiter").getD delimiter.toString
                  Sh.write (Octets.join gap cells ++ feed.toString)
                else if !os.has "s" then Sh.write (l ++ feed.toString)
              else
                let cs := chosen keeps l.toList
                let text := match os.value? "output-delimiter" with
                  | none => String.ofList (cs.map (·.2))
                  | some gap => String.join (cs.zipIdx.map fun p =>
                    (if p.2 ≠ 0 && (ranges.starts p.1.1 || os.has "complement" &&
                      !keeps (p.1.1 - 1)) then gap else "") ++ p.1.2.toString)
                Sh.write (text ++ feed.toString)
          return status good

/-- The delimiters that an argument of `paste` denotes; an empty one for `\0`. -/
def delimiters : List Char → List Octets
  | '\\' :: c :: r =>
    (match c with
      | 'n' => "\n" | 't' => "\t" | '0' => "" | 'b' => "\x08" | 'f' => "\x0c" | 'r' => "\x0d"
      | 'v' => "\x0b" | c => c.toString) :: delimiters r
  | c :: r => c.toString :: delimiters r
  | [] => []

/-- Texts with delimiters between them, which are taken in turn. -/
def joinedBy (ds : List Octets) (ss : List Octets) : Octets :=
  String.join (ss.zipIdx.map fun p =>
    (if p.2 = 0 then "" else (ds[(p.2 - 1) % max ds.length 1]?).getD "") ++ p.1)

/-- Lines dealt out to so many hands. -/
def dealt (hands hand : Nat) (ls : List Octets) : List Octets :=
  (ls.zipIdx.filter fun p => p.2 % hands = hand).map (·.1)

/-- `paste` -/
def paste : Program := fun args =>
  let u : Usage :=
    { letters := "d:sz", words := [("delimiters", "d"), ("serial", "s"), ("zero-terminated", "z")] }
  u.run args fun os paths => do
    let feed := if os.has "z" then '\x00' else '\n'
    let ds := delimiters ((os.value? "d").getD "\t").toList
    let ds := if ds = [] then [""] else ds
    let paths := orStandard paths
    let mut good := true
    let hands := (paths.filter (· = "-")).length
    let shared ← if hands = 0 then pure [] else
      match ← input "-" with
      | .ok s => pure (records feed s)
      | .error e =>
        complainStandard e
        if !os.has "s" then return 1
        good := false
        pure []
    let mut columns := []
    let mut hand := 0
    for path in paths do
      if path = "-" then
        if os.has "s" then columns := columns ++ [if hand = 0 then shared else []]
        else columns := columns ++ [dealt hands hand shared]
        hand := hand + 1
      else
        match ← input path with
        | .ok s => columns := columns ++ [records feed s]
        | .error e =>
          complainOf path e
          good := false
          if !os.has "s" then return 1
    if os.has "s" then
      for c in columns do
        Sh.write (joinedBy ds c ++ feed.toString)
    else
      let rows := (columns.map List.length).foldl max 0
      for i in List.range rows do
        Sh.write (joinedBy ds (columns.map fun column => (column[i]?).getD "") ++ feed.toString)
    return status good

/-! ## Sets of characters -/

/-- A part of a set of characters. -/
inductive SetPart where
  | single (c : Char)
  | range (a b : Char)
  | klass (name : Octets)
  /-- A character so many times, or as often as there is need. -/
  | repeated (c : Char) (count : Nat)
  deriving DecidableEq, Inhabited

/-- The parts of a set of characters. -/
abbrev CharacterSet := List SetPart

namespace CharacterSet

/-- The character at the head of some characters, perhaps behind a backslash; whether it was; and what
follows. -/
def charAt? : List Char → Option (Char × Bool × List Char)
  | '\\' :: c :: r =>
    if '0' ≤ c && c ≤ '7' then
      let ds := ((c :: r).take 3).takeWhile fun d => '0' ≤ d && d ≤ '7'
      let n := ds.foldl (fun n d => n * 8 + (d.toNat - 48)) 0
      let (n, size) := if 255 < n then (n / 8, 2) else (n, ds.length)
      some (Char.ofNat n, true, (c :: r).drop size)
    else
      let d := match c with
        | 'a' => '\x07' | 'b' => '\x08' | 'f' => '\x0c' | 'n' => '\n' | 'r' => '\x0d' | 't' => '\t'
        | 'v' => '\x0b' | c => c
      some (d, true, r)
  | c :: r => some (c, false, r)
  | [] => none

/-- A class, a character that is meant with its like, or a repetition, in brackets. -/
def bracketed? (cs : List Char) : Option (Except Octets (SetPart × List Char)) :=
  match cs with
  | '[' :: ':' :: r =>
    let name := r.takeWhile (· ≠ ':')
    match r.drop name.length with
    | ':' :: ']' :: rest =>
      let name := String.ofList name
      if (Pattern.classes.lookup name).isSome && name ≠ "word" then some (.ok (.klass name, rest))
      else some (.error ("invalid character class " ++ cited name))
    | _ => none
  | '[' :: '=' :: c :: '=' :: ']' :: rest => some (.ok (.single c, rest))
  | '[' :: r =>
    match charAt? r with
    | some (c, _, '*' :: r) =>
      let ds := r.takeWhile Char.isDigit
      match r.drop ds.length with
      | ']' :: rest =>
        let n := if ds.head? = some '0' then ds.foldl (fun n d => n * 8 + (d.toNat - 48)) 0
          else Octets.ofDigits ds
        some (.ok (.repeated c n, rest))
      | _ => none
    | _ => none
  | _ => none

/-- The parts that some characters denote; the number bounds them. -/
def readWith : Nat → List Char → Except Octets CharacterSet
  | 0, _ => .ok []
  | n + 1, cs =>
    match bracketed? cs with
    | some (.error e) => .error e
    | some (.ok (p, rest)) => do return p :: (← readWith n rest)
    | none =>
      match charAt? cs with
      | none => .ok []
      | some (a, _, '-' :: r) =>
        match charAt? r with
        | some (b, _, rest) =>
          if b < a then
            .error ("range-endpoints of '" ++ String.ofList [a, '-', b] ++
              "' are in reverse collating sequence order")
          else do return .range a b :: (← readWith n rest)
        | none => do return .single a :: (← readWith n ('-' :: r))
      | some (a, _, rest) => do return .single a :: (← readWith n rest)

/-- The parts that a text denotes. -/
def read (s : Octets) : Except Octets CharacterSet := readWith (s.length + 1) s.toList

/-- All characters from one to another. -/
def span (a b : Char) : List Char :=
  (List.range (b.toNat + 1 - a.toNat)).map fun i => Char.ofNat (a.toNat + i)

/-- The characters of a class, in order. -/
def ofClass (name : Octets) : List Char :=
  (span '\x00' '\xff').filter fun c => Pattern.inRange false c ((Pattern.classes.lookup name).getD [])

/-- The characters of a set, in which a part fills what is missing to some length. -/
def elements (length : Nat) (s : CharacterSet) : List Char :=
  let size (p : SetPart) : Nat := match p with
    | .single _ => 1
    | .range a b => b.toNat + 1 - a.toNat
    | .klass n => (ofClass n).length
    | .repeated _ n => n
  let missing := length - (s.map size).sum
  s.flatMap fun p => match p with
    | .single c => [c]
    | .range a b => span a b
    | .klass n => ofClass n
    | .repeated c 0 => List.replicate missing c
    | .repeated c n => List.replicate n c

/-- The other characters. -/
def complement (cs : List Char) : List Char := (span '\x00' '\xff').filter fun c => !cs.elem c

/-- The characters that a set becomes, and those that they become, for the change of letters between
small and capital ones. -/
def changesCase (a b : CharacterSet) : Bool :=
  (a.zip b).any fun p =>
    (p.1 = .klass "lower" && p.2 = .klass "upper") || (p.1 = .klass "upper" && p.2 = .klass "lower")

end CharacterSet

/-- A text in which characters of a set do not repeat. -/
def squeeze (isIn : Char → Bool) : Option Char → List Char → List Char
  | _, [] => []
  | last, c :: r =>
    if last = some c && isIn c then squeeze isIn last r else c :: squeeze isIn (some c) r

/-- Goes through the pieces that can be read with a function on their characters, which remembers the last
character that it gave. -/
def filterCharacters (f : Option Char → List Char → List Char) : Sh Nat := do
  if let some e ← refusal? 0 then
    complainStandard e
    return 1
  discard (foldPieces 0 (fun (last : Option Char) piece => do
    let out := f last piece.toList
    Sh.write (String.ofList out)
    return .yield (out.getLast?.orElse fun _ => last)) Sh.maxReads none)
  return 0

/-- `tr` -/
def tr : Program := fun args =>
  let u : Usage :=
    { letters := "cCdst"
      leading := true
      words := [("complement", "c"), ("delete", "d"), ("squeeze-repeats", "s"), ("truncate-set1", "t")] }
  u.run args fun os sets => do
    let deletes := os.has "d"
    let squeezes := os.has "s"
    let least := if deletes == squeezes then 2 else 1
    let most := if deletes && !squeezes then 1 else 2
    match sets with
    | [] => missingOperand
    | _ =>
      if sets.length < least then
        misuse ("missing operand after " ++ cited (sets.getLastD "") ++ "\n" ++
          (if squeezes then "Two strings must be given when both deleting and squeezing repeats."
            else "Two strings must be given when translating."))
      else if most < sets.length then
        misuse ("extra operand " ++ cited ((sets[most]?).getD "") ++
          (if sets.length = 2 then
            "\nOnly one string may be given when deleting without squeezing repeats." else ""))
      else
        match CharacterSet.read (sets.headD ""), CharacterSet.read (sets.tail.headD "") with
        | .error e, _ | _, .error e =>
          complain e
          return 1
        | .ok a, .ok b =>
          let plain := CharacterSet.elements 0 a
          let complemented := os.has "c" || os.has "C"
          let first := if complemented then CharacterSet.complement plain else plain
          let second := CharacterSet.elements first.length b
          let isIn (cs : List Char) : Char → Bool := fun c => cs.elem c
          if deletes then
            filterCharacters fun last cs =>
              let kept := cs.filter fun c => !first.elem c
              if squeezes then squeeze (isIn second) last kept else kept
          else if sets.length = 1 then
            filterCharacters fun last cs => squeeze (isIn first) last cs
          else if second = [] then
            complain "when not truncating set1, string2 must be non-empty"
            return 1
          else if (b.any fun p => match p with
              | .klass n => n ≠ "upper" && n ≠ "lower" | _ => false) then
            complain "when translating, the only character classes that may appear in\nstring2 are 'upper' and 'lower'"
            return 1
          else if (b.any fun p => match p with | .klass _ => true | _ => false) &&
              !CharacterSet.changesCase a b && a ≠ b then
            complain "misaligned [:upper:] and/or [:lower:] construct"
            return 1
          else
            let last := second.getLast?
            let pairs := first.zipIdx.filterMap fun p =>
              match second[p.2]? with
              | some d => some (p.1, d)
              | none => if os.has "t" then none else last.map fun d => (p.1, d)
            let pairs := pairs.reverse
            let become (c : Char) : Char := (pairs.lookup c).getD c
            filterCharacters fun last cs =>
              let new := cs.map become
              if squeezes then squeeze (isIn second) last new else new

/-! ## Width -/

/-- The width of a line with one more character. -/
def widen (ofBytes : Bool) (width : Nat) (c : Char) : Nat :=
  if ofBytes then width + 1
  else if c = '\t' then width - width % 8 + 8
  else if c = '\x08' then width - 1
  else if c = '\x0d' then 0
  else width + 1

/-- The width of some characters. -/
def widthOf (ofBytes : Bool) (cs : List Char) : Nat := cs.foldl (widen ofBytes) 0

/-- A line folded to a width; the characters of the current line stand in reverse. -/
def folded (ofBytes atBlanks : Bool) (most : Nat) : Nat → List Char → Nat → List Char → List Char
  | 0, line, _, cs => line.reverse ++ cs
  | _, line, _, [] => line.reverse
  | n + 1, line, width, c :: r =>
    let new := widen ofBytes width c
    if new ≤ most || line = [] then folded ofBytes atBlanks most n (c :: line) new r
    else
      let tail := line.takeWhile fun c => !Octets.isBlank c
      if atBlanks && tail.length < line.length then
        (line.drop tail.length).reverse ++ '\n' ::
          folded ofBytes atBlanks most n tail (widthOf ofBytes tail.reverse) (c :: r)
      else line.reverse ++ '\n' :: folded ofBytes atBlanks most n [] 0 (c :: r)

/-- `fold` -/
def fold : Program := fun args =>
  let u : Usage :=
    { letters := "bsw:0::1::2::3::4::5::6::7::8::9::"
      words := [("bytes", "b"), ("spaces", "s"), ("width", "w")] }
  u.run args fun os paths => do
    let old := (os.find? fun o => o.1.toList.all Char.isDigit).map fun o => o.1 ++ o.2
    let value := ((os.value? "w").orElse fun _ => old).getD "80"
    match Octets.natural? value with
    | none =>
      complain ("invalid number of columns: " ++ cited value)
      return 1
    | some 0 =>
      complain ("invalid number of columns: " ++ cited value ++ ": Numerical result out of range")
      return 1
    | some most =>
      let (files, good) ← inputs paths
      for f in files do
        for l in Octets.lines f.2 do
          let text := withoutFeed l
          Sh.write (String.ofList (folded (os.has "b") (os.has "s") most (3 * text.length + 3) [] 0 text.toList) ++
            (if text.length = l.length then "" else "\n"))
      return status good

/-- The column of the next tab stop. -/
def nextStop (stops : List Nat) (column : Nat) : Nat :=
  match stops with
  | [] => column - column % 8 + 8
  | [n] => column - column % max n 1 + max n 1
  | stops => (stops.find? (column < ·)).getD (column + 1)

/-- A line without tabs; only those before other characters if `initial` is set. -/
def expanded (stops : List Nat) (initial : Bool) : Nat → List Char → List Char
  | _, [] => []
  | column, c :: r =>
    if c = '\t' then
      let stop := nextStop stops column
      List.replicate (stop - column) ' ' ++ expanded stops initial stop r
    else if c = '\x08' then c :: expanded stops initial (column - 1) r
    else if initial && c ≠ ' ' then c :: r
    else c :: expanded stops initial (column + 1) r

/-- The tab stops that an option gives, or a complaint. -/
def stopsOr (os : Options) (act : List Nat → Sh Nat) : Sh Nat := do
  let old := (os.find? fun o => o.1.toList.all Char.isDigit).map fun o => o.1 ++ o.2
  match (os.value? "t").orElse fun _ => old with
  | none => act []
  | some s =>
    let parts := (Octets.pieces ',' (s.map fun c => if c = ' ' then ',' else c)).filter (· ≠ "")
    match parts.find? fun p => (Octets.natural? p).isNone with
    | some p =>
      complain ("tab size contains invalid character(s): " ++
        cited (String.ofList (p.toList.dropWhile Char.isDigit)))
      return 1
    | none => act (parts.filterMap Octets.natural?)

/-- `expand` -/
def expand : Program := fun args =>
  let u : Usage :=
    { letters := "it:0::1::2::3::4::5::6::7::8::9::", words := [("initial", "i"), ("tabs", "t")] }
  u.run args fun os paths => stopsOr os fun stops => do
    let (files, good) ← inputs paths
    for f in files do
      for l in Octets.lines f.2 do
        Sh.write (String.ofList (expanded stops (os.has "i") 0 l.toList))
    return status good

/-- A line in which blanks before tab stops are tabs; the blanks that were seen since `start` wait. -/
def unexpanded (stops : List Nat) (everywhere : Bool) : Nat → Nat → List Char → List Char
  | start, column, [] => List.replicate (column - start) ' '
  | start, column, c :: r =>
    if c = ' ' then
      if nextStop stops column = column + 1 then
        (if column + 1 - start = 1 then [' '] else ['\t']) ++
          unexpanded stops everywhere (column + 1) (column + 1) r
      else unexpanded stops everywhere start (column + 1) r
    else if c = '\t' then
      let stop := nextStop stops column
      '\t' :: unexpanded stops everywhere stop stop r
    else
      let waiting := List.replicate (column - start) ' '
      if everywhere then waiting ++ c :: unexpanded stops everywhere (column + 1) (column + 1) r
      else waiting ++ c :: r

/-- `unexpand` -/
def unexpand : Program := fun args =>
  let u : Usage :=
    { letters := "at:", words := [("all", "a"), ("first-only", "first-only"), ("tabs", "t")] }
  u.run args fun os paths => stopsOr os fun stops => do
    let (files, good) ← inputs paths
    let everywhere := (os.has "a" || os.has "t") && !os.has "first-only"
    for f in files do
      for l in Octets.lines f.2 do
        Sh.write (String.ofList (unexpanded stops everywhere 0 0 l.toList))
    return status good

end ShellCoverage.Shell.Program
