import ShellCoverage.Shell.Program.Input

/-!
# Programs that count, number and order lines

`wc`, `nl`, `sort`, `uniq` and `shuf`.

* `Program.SortKey` : a part of a line that lines are ordered by;
* `Program.Line.compare` : the order of lines under some keys.
-/

namespace ShellCoverage.Shell.Program

/-! ## Counting -/

/-- What is counted of a text: its lines, words, characters and bytes, and the length of its longest line. -/
structure Counts where
  lines : Nat := 0
  words : Nat := 0
  characters : Nat := 0
  octets : Nat := 0
  longest : Nat := 0

namespace Counts

/-- The sum of two counts; the longest line is the longer one. -/
def add (a b : Counts) : Counts :=
  ⟨a.lines + b.lines, a.words + b.words, a.characters + b.characters, a.octets + b.octets,
    max a.longest b.longest⟩

/-- The counts with some more characters; a word may have begun, and a line has some length. -/
def count (k : Charset) (c : Counts) (inWord : Bool) (column : Nat) : List Char → Counts
  | [] => { c with longest := max c.longest column }
  | d :: r =>
    let c : Counts := { c with characters := if Charset.isStray d then c.characters else c.characters + 1 }
    if d = '\n' then
      count k { c with lines := c.lines + 1, longest := max c.longest column } false 0 r
    else if d = '\x0d' || d = '\x0c' then
      count k { c with longest := max c.longest column } false 0 r
    else if d = '\t' then count k c false (column - column % 8 + 8) r
    else if Octets.isSpace d then count k c false (if d = ' ' then column + 1 else column) r
    else if k.isVisible d then
      count k { c with words := if inWord then c.words else c.words + 1 } true (column + 1) r
    else count k c inWord column r

end Counts

/-- `wc` -/
def wc : Program := fun args =>
  let u : Usage :=
    { letters := "clLmw"
      words := [("bytes", "c"), ("chars", "m"), ("lines", "l"), ("words", "w"), ("max-line-length", "L"),
        ("files0-from:", "files0-from")] }
  u.run args fun os paths => do
    let all := !(["c", "l", "L", "m", "w"].any os.has)
    let cells (c : Counts) : List Nat :=
      (if all || os.has "l" then [c.lines] else []) ++ (if all || os.has "w" then [c.words] else []) ++
        (if os.has "m" then [c.characters] else []) ++
        (if all || os.has "c" then [c.octets] else []) ++ (if os.has "L" then [c.longest] else [])
    let mut sizes : List (Option Nat) := []
    let inputs := orStandard paths
    for path in inputs do
      let size ← if path = "-" then
          match ← Sh.openFile? 0 with
          | some (_, f) => match f.channel with
            | .file place => do pure (some (some (← Sh.contentAt place).length))
            | _ => pure (some none)
          | none => pure none
        else
          match ← Sh.node? true path with
          | .ok (_, .file _ content) => pure (some (some content.length))
          | .ok _ => pure (some none)
          | .error _ => pure none
      sizes := sizes ++ size.toList
    let known := sizes.filterMap fun n => n
    let width :=
      if inputs.length = 1 && (cells {}).length = 1 then 1
      else if sizes = [] then 1
      else max (Octets.ofNat known.sum).length (if known.length < sizes.length then 7 else 1)
    let write (c : Counts) (name : Octets) : Sh Unit :=
      Sh.write (Octets.join " " ((cells c).map (fun n => Octets.padLeft width (Octets.ofNat n)) ++
        if name = "" then [] else [name]) ++ "\n")
    let mut good := true
    let mut total : Counts := {}
    for path in inputs do
      match ← input path with
      | .ok text =>
        let k ← Sh.charset
        let c := Counts.count k { octets := text.length } false 0 (k.chars text.toList)
        total := total.add c
        write c (if paths = [] then "" else path)
      | .error e =>
        if paths = [] then complainStandard e else complainOf path e
        if e = .isDirectory || path = "-" then write {} (if paths = [] then "" else path)
        good := false
    if 1 < inputs.length then write total "total"
    return status good

/-- `nl` -/
def nl : Program := fun args =>
  let u : Usage :=
    { letters := "b:d:f:h:i:l:n:ps:v:w:"
      words := [("body-numbering", "b"), ("line-increment", "i"), ("number-format", "n"),
        ("number-separator", "s"), ("starting-line-number", "v"), ("number-width", "w")] }
  u.run args fun os paths => do
    let integer (key : Octets) (usual : Int) : Int := ((os.value? key).bind Octets.integer?).getD usual
    let width := (integer "w" 6).toNat
    let separator := (os.value? "s").getD "\t"
    let style := (os.value? "b").getD "t"
    let format := (os.value? "n").getD "rn"
    let (files, good) ← inputs paths
    let mut n := integer "v" 1
    for f in files do
      for l in bare f.2 do
        if style = "a" || (style = "t" && l ≠ "") then
          let digits := Octets.ofInt n
          let shown :=
            if format = "ln" then Octets.padRight width digits
            else if format = "rz" then
              (if n < 0 then "-" else "") ++
                String.ofList (List.replicate (width - digits.length) '0') ++ Octets.ofNat n.natAbs
            else Octets.padLeft width digits
          Sh.write (shown ++ separator ++ l ++ "\n")
          n := n + integer "i" 1
        else Sh.write (Octets.padLeft (width + separator.length) "" ++ l ++ "\n")
    return status good

/-! ## Keys -/

/-- A part of a line that lines are ordered by. -/
structure SortKey where
  /-- The field and the character in it at which the key starts, both counted from zero. -/
  field : Nat := 0
  character : Nat := 0
  /-- The field and the character at which it ends, if it does: with the character zero, the end of the
  field before. -/
  stop : Option (Nat × Nat) := none
  /-- Blanks at the head of the first field, and of the last one, do not count. -/
  skipsBlanks : Bool := false
  skipsLastBlanks : Bool := false
  /-- The letters of the order. -/
  flags : List Char := []
  deriving Inhabited

/-- The characters after a field without a separator of its own: blanks, then others. -/
def afterField (cs : List Char) : List Char :=
  (cs.dropWhile Octets.isBlank).dropWhile fun c => !Octets.isBlank c

/-- The characters from the `n`th field on. -/
def fromField (separator : Option Char) : Nat → List Char → List Char
  | 0, cs => cs
  | n + 1, cs =>
    match separator with
    | none => fromField separator n (afterField cs)
    | some t => fromField separator n ((cs.dropWhile (· ≠ t)).drop 1)

/-- The characters of a line that come after the end of a key. -/
def behindKey (separator : Option Char) (k : SortKey) (cs : List Char) : List Char :=
  match k.stop with
  | none => []
  | some (field, 0) =>
    match separator with
    | none => fromField none (field + 1) cs
    | some t => (fromField separator field cs).dropWhile (· ≠ t)
  | some (field, character) =>
    let r := fromField separator field cs
    (if k.skipsLastBlanks then r.dropWhile Octets.isBlank else r).drop character

/-- The part of a line that a key means. -/
def SortKey.part (separator : Option Char) (k : SortKey) (cs : List Char) : List Char :=
  let r := fromField separator k.field cs
  let start := (if k.skipsBlanks then r.dropWhile Octets.isBlank else r).drop k.character
  start.take (start.length - (behindKey separator k cs).length)

/-! ## Orders -/

/-- The number at the head of some characters: whether it is negative, its whole part and the digits after
a point; and what follows. -/
def leadingDecimal (cs : List Char) : Bool × Nat × List Char × List Char :=
  let cs := cs.dropWhile Octets.isBlank
  let (negative, cs) : Bool × List Char := match cs with | '-' :: r => (true, r) | r => (false, r)
  let whole := cs.takeWhile Char.isDigit
  let rest := cs.drop whole.length
  match rest with
  | '.' :: r =>
    let part := r.takeWhile Char.isDigit
    (negative, Octets.ofDigits whole, part, r.drop part.length)
  | _ => (negative, Octets.ofDigits whole, [], rest)

/-- The order of the numbers at the heads of two texts. -/
def compareNumbers (a b : List Char) : Ordering :=
  let scaled (x : Bool × Nat × List Char × List Char) (places : Nat) : Int :=
    let part := x.2.2.1 ++ List.replicate (places - x.2.2.1.length) '0'
    let n : Int := x.2.1 * 10 ^ places + Octets.ofDigits part
    if x.1 then -n else n
  let x := leadingDecimal a
  let y := leadingDecimal b
  let places := max x.2.2.1.length y.2.2.1.length
  compare (scaled x places) (scaled y places)

/-- The order of texts such as `1K` and `2M`. -/
def compareSizes (a b : List Char) : Ordering :=
  let rank (cs : List Char) : Int :=
    let x := leadingDecimal cs
    let isZero := x.2.1 = 0 && x.2.2.1.all (· = '0')
    let power : Int := match x.2.2.2 with
      | c :: _ => if isZero then 0 else (("KMGTPEZY".toList.idxOf? c.toUpper).map fun i => (i : Int) + 1).getD 0
      | [] => 0
    if x.1 then -power else power
  match compare (rank a) (rank b) with
  | .eq => compareNumbers a b
  | o => o

/-- The number of the month at the head of some characters; zero if there is none. -/
def monthAt (cs : List Char) : Nat :=
  let name := (cs.dropWhile Octets.isBlank).take 3 |>.map Char.toUpper
  let names := ["JAN", "FEB", "MAR", "APR", "MAY", "JUN", "JUL", "AUG", "SEP", "OCT", "NOV", "DEC"]
  ((names.idxOf? (String.ofList name)).map (· + 1)).getD 0

/-- The rank of a character in the order of versions. -/
def versionRank : Option Char → Int
  | none => -1
  | some '~' => -2
  | some c => if c.isDigit then 0 else if c.isAlpha then c.toNat else c.toNat + 256

/-- The order of texts in which stretches of digits count as numbers. -/
def compareVersions : Nat → List Char → List Char → Ordering
  | 0, _, _ => .eq
  | _, [], [] => .eq
  | n + 1, a, b =>
    let plain (cs : List Char) : List Char := cs.takeWhile fun c => !c.isDigit
    let pa := plain a
    let pb := plain b
    let size := max pa.length pb.length
    let ranks := (List.range size).map fun i =>
      compare (versionRank ((pa[i]?).orElse fun _ => if (a.drop pa.length).isEmpty then none else some '0'))
        (versionRank ((pb[i]?).orElse fun _ => if (b.drop pb.length).isEmpty then none else some '0'))
    match ranks.find? (· ≠ .eq) with
    | some o => o
    | none =>
      let ra := a.drop pa.length
      let rb := b.drop pb.length
      let da := ra.takeWhile Char.isDigit
      let db := rb.takeWhile Char.isDigit
      match compare (Octets.ofDigits da) (Octets.ofDigits db) with
      | .eq => compareVersions n (ra.drop da.length) (rb.drop db.length)
      | o => o

/-- The order of two texts by their bytes. -/
def compareBytes (a b : List Char) : Ordering :=
  if a < b then .lt else if b < a then .gt else .eq

/-- The order of two parts of lines under some letters. -/
def compareParts (flags : List Char) (a b : List Char) : Ordering :=
  let o :=
    if flags.elem 'n' || flags.elem 'g' then compareNumbers a b
    else if flags.elem 'h' then compareSizes a b
    else if flags.elem 'M' then compare (monthAt a) (monthAt b)
    else if flags.elem 'V' then compareVersions (a.length + b.length + 2) a b
    else
      let shown (cs : List Char) : List Char :=
        let cs := if flags.elem 'd' then cs.filter fun c => c.isAlphanum || Octets.isBlank c else cs
        let cs := if flags.elem 'i' then cs.filter Quoting.isVisible else cs
        if flags.elem 'f' then cs.map Char.toUpper else cs
      compareBytes (shown a) (shown b)
  if flags.elem 'r' then o.swap else o

/-- The order of two lines under keys; the first that differs counts. -/
def compareLines (separator : Option Char) (keys : List SortKey) (a b : List Char) : Ordering :=
  match keys with
  | [] => .eq
  | k :: ks =>
    match compareParts k.flags (k.part separator a) (k.part separator b) with
    | .eq => compareLines separator ks a b
    | o => o

/-! ## Sorting -/

/-- The letters of orders. -/
def orderLetters : List Char := "bdfghiMnRrV".toList

/-- A position in a key: a field, a character, and letters; and what follows. -/
def keyPosition? (cs : List Char) : Except Octets ((Nat × Option Nat × List Char) × List Char) := do
  let field := cs.takeWhile Char.isDigit
  if field = [] then .error (": invalid count at start of " ++ cited (String.ofList cs))
  let rest := cs.drop field.length
  let (character, rest) ← match rest with
    | '.' :: r =>
      let ds := r.takeWhile Char.isDigit
      if ds = [] then
        .error ("invalid number after '.': invalid count at start of " ++ cited (String.ofList r))
      else pure (some (Octets.ofDigits ds), r.drop ds.length)
    | r => pure (none, r)
  let letters := rest.takeWhile orderLetters.elem
  return ((Octets.ofDigits field, character, letters), rest.drop letters.length)

/-- The key that an argument describes, with the letters for lines as a whole where it has none. -/
def readKey (usual : List Char) (s : Octets) : Except Octets SortKey := do
  let invalid (what : Octets) : Octets := what ++ ": invalid field specification " ++ cited s
  let ((field, character, letters), rest) ← match keyPosition? s.toList with
    | .ok x => .ok x
    | .error e =>
      .error (if Octets.startsWith ":" e then "invalid number at field start" ++ e else e)
  if field = 0 then .error (invalid "field number is zero")
  if character = some 0 then .error (invalid "character offset is zero")
  let key : SortKey :=
    { field := field - 1
      character := (character.getD 1) - 1
      skipsBlanks := letters.elem 'b' }
  match rest with
  | [] =>
    if letters = [] then
      return { key with flags := usual, skipsBlanks := usual.elem 'b', skipsLastBlanks := usual.elem 'b' }
    return { key with flags := letters }
  | ',' :: r =>
    let ((last, character, more), rest) ← match keyPosition? r with
      | .ok x => .ok x
      | .error e =>
        .error (if Octets.startsWith ":" e then "invalid number after ','" ++ e else e)
    if last = 0 then .error (invalid "field number is zero")
    if rest ≠ [] then .error (invalid "stray character in field spec")
    let key : SortKey := { key with stop := some (match character.getD 0 with
      | 0 => (last - 1, 0)
      | n => (last - 1, n)) }
    if letters = [] && more = [] then
      return { key with flags := usual, skipsBlanks := usual.elem 'b', skipsLastBlanks := usual.elem 'b' }
    return { key with flags := letters ++ more, skipsLastBlanks := more.elem 'b' }
  | _ => .error (invalid "stray character in field spec")

/-- The lines of which the first of each group stands, where neighbours are a group that a relation
holds for. -/
def firstOfGroups {α : Type} (same : α → α → Bool) : List α → List α
  | [] => []
  | [a] => [a]
  | a :: b :: r =>
    match firstOfGroups same (b :: r) with
    | [] => [a]
    | c :: cs => if same a b then a :: cs else a :: c :: cs

/-- `sort` -/
def sort : Program := fun args =>
  let u : Usage :=
    { letters := "bcCdfghik:mMno:rRsS:t:T:uVy::z"
      failure := 2
      words := [("ignore-leading-blanks", "b"), ("check", "check::"), ("dictionary-order", "d"),
        ("ignore-case", "f"), ("general-numeric-sort", "g"), ("human-numeric-sort", "h"),
        ("ignore-nonprinting", "i"), ("key", "k"), ("merge", "m"), ("month-sort", "M"), ("numeric-sort", "n"),
        ("output", "o"), ("random-sort", "R"), ("reverse", "r"), ("stable", "s"), ("buffer-size", "S"),
        ("field-separator", "t"), ("unique", "u"), ("version-sort", "V"), ("zero-terminated", "z"),
        ("parallel", "parallel:"), ("sort", "sort:")] }
  u.run args fun os paths => do
    let usual := (os.filter fun o => o.1.length = 1).filterMap fun o =>
      o.1.toList.head?.filter orderLetters.elem
    let fail (message : Octets) : Sh Nat := do
      complain message
      return 2
    let separator ← match os.value? "t" with
      | none => pure (Except.ok none)
      | some "\\0" => pure (.ok (some '\x00'))
      | some s => match s.toList with
        | [c] => pure (.ok (some c))
        | [] => pure (.error "empty tab")
        | _ => pure (.error ("multi-character tab " ++ cited s))
    match separator, (os.values "k").mapM (readKey usual) with
    | .error e, _ => fail e
    | _, .error e => fail e
    | .ok separator, .ok keys =>
      let delimiter := if os.has "z" then '\x00' else '\n'
      let keys := if keys = [] then
          [({ flags := usual, skipsBlanks := usual.elem 'b' } : SortKey)]
        else keys
      let byKeys (a b : Octets) : Ordering := compareLines separator keys a.toList b.toList
      let isStable := os.has "s" || os.has "u"
      let compare (a b : Octets) : Ordering :=
        match byKeys a b with
        | .eq =>
          if isStable then .eq
          else
            let o := compareBytes a.toList b.toList
            if usual.elem 'r' then o.swap else o
        | o => o
      let mut contents := []
      for path in orStandard paths do
        match ← input path with
        | .ok s => contents := contents ++ [s]
        | .error e =>
          let what :=
            if e = .isDirectory then "read failed: "
            else if path ≠ "-" then "cannot read: "
            else if ["c", "C", "check"].any os.has then "read failed: "
            else "stat failed: "
          return ← fail (what ++ named path ++ ": " ++ e.description)
      let lines := contents.flatMap (records delimiter)
      if os.has "c" || os.has "C" || os.has "check" then
        let bad := (lines.zip lines.tail).zipIdx.find? fun p =>
          match compare p.1.1 p.1.2 with
          | .gt => true
          | .eq => os.has "u"
          | .lt => false
        match bad with
        | none => return 0
        | some ((_, l), i) =>
          if !os.has "C" then
            complain ((orStandard paths).headD "-" ++ ":" ++ Octets.ofNat (i + 2) ++ ": disorder: " ++ l)
          return 1
      let lines := lines.mergeSort fun a b => compare a b != .gt
      let lines := if os.has "u" then firstOfGroups (fun a b => byKeys a b == .eq) lines else lines
      let text := String.join (lines.map fun l => l ++ delimiter.toString)
      match os.value? "o" with
      | none =>
        Sh.write text
        return 0
      | some path =>
        match ← Sh.openFile path (.writing true) with
        | .ok i =>
          discard (Sh.writeFile i text)
          Sh.release i
          return 0
        | .error e => fail ("open failed: " ++ named path ++ ": " ++ e.description)

/-! ## Neighbours -/

/-- Neighbours that are equal, put together. -/
def groups {α : Type} (same : α → α → Bool) : List α → List (List α)
  | [] => []
  | a :: r =>
    match groups same r with
    | (b :: g) :: gs => if same a b then (a :: b :: g) :: gs else [a] :: (b :: g) :: gs
    | gs => [a] :: gs

/-- `uniq` -/
def uniq : Program := fun args =>
  let u : Usage :=
    { letters := "cdDf:is:uw:z"
      words := [("count", "c"), ("repeated", "d"), ("all-repeated", "D"), ("skip-fields", "f"),
        ("ignore-case", "i"), ("skip-chars", "s"), ("unique", "u"), ("check-chars", "w"),
        ("zero-terminated", "z")] }
  u.run args fun os operands => do
    match operands with
    | _ :: _ :: extra :: _ => extraOperand extra
    | _ =>
      let number (key : Octets) : Option Nat := (os.value? key).bind Octets.natural?
      let part (l : Octets) : List Char :=
        let cs := (fromField none ((number "f").getD 0) l.toList).drop ((number "s").getD 0)
        let cs := match number "w" with | some n => cs.take n | none => cs
        if os.has "i" then cs.map Char.toLower else cs
      let path := operands.headD "-"
      let delimiter := if os.has "z" then '\x00' else '\n'
      match ← input path with
      | .error e =>
        complainInput path e
        return 1
      | .ok text =>
        let mut out := []
        for g in groups (fun a b => part a = part b) (records delimiter text) do
          let n := g.length
          if (os.has "d" && n < 2) || (os.has "u" && 1 < n) || (os.has "D" && n < 2) then pure ()
          else if os.has "D" then out := out ++ g
          else
            let head := if os.has "c" then Octets.padLeft 7 (Octets.ofNat n) ++ " " else ""
            out := out ++ [head ++ g.headD ""]
        let text := String.join (out.map fun l => l ++ delimiter.toString)
        match operands.tail with
        | target :: _ => return status (← writeOutput target text)
        | [] =>
          Sh.write text
          return 0

/-! ## Chance -/

/-- So many numbers of a sequence that looks random, after a first one. -/
def scattered : Nat → Nat → List Nat
  | 0, _ => []
  | n + 1, seed =>
    let next := (seed * 6364136223846793005 + 1442695040888963407) % 2 ^ 64
    next / 2 ^ 33 :: scattered n next

/-- A list in an order that looks random. -/
def shuffled {α : Type} (seed : Nat) (xs : List α) : List α :=
  (((scattered xs.length seed).zip xs).mergeSort fun a b => a.1 ≤ b.1).map (·.2)

/-- The range of numbers that an option of `shuf` gives. -/
def numberRange? (s : Octets) : Option (Nat × Nat) :=
  match Octets.pieces '-' s with
  | [a, b] => do
    let first ← Octets.natural? a
    let last ← Octets.natural? b
    if first ≤ last + 1 then some (first, last) else none
  | _ => none

/-- `shuf` -/
def shuf : Program := fun args =>
  let u : Usage :=
    { letters := "ei:n:o:rz"
      words := [("echo", "e"), ("input-range", "i"), ("head-count", "n"), ("output", "o"), ("repeat", "r"),
        ("random-source", "random-source:"), ("zero-terminated", "z")] }
  u.run args fun os operands => do
    let fail (message : Octets) : Sh Nat := do
      complain message
      return 1
    if 1 < (os.values "i").length then return ← fail "multiple -i options specified"
    if let some bad := (os.values "i").find? fun s => (numberRange? s).isNone then
      return ← fail ("invalid input range: " ++ cited bad)
    if let some bad := (os.values "n").find? fun s => (Octets.natural? s).isNone then
      return ← fail ("invalid line count: " ++ cited bad)
    if os.has "e" && os.has "i" then return ← misuse "cannot combine -e and -i options"
    match (if os.has "i" then operands else if os.has "e" then [] else operands.drop 1) with
    | extra :: _ => return ← extraOperand extra
    | [] => pure ()
    let feed := if os.has "z" then '\x00' else '\n'
    let found : Except Errno (List Octets) ←
      match (os.value? "i").bind numberRange? with
      | some (first, last) => pure (.ok ((List.range (last + 1 - first)).map fun k => Octets.ofNat (first + k)))
      | none =>
        if os.has "e" then pure (.ok operands)
        else
          pure ((← input (operands.headD "-")).map (records feed))
    match found with
    | .error e =>
      complainInput (operands.headD "-") e
      return 1
    | .ok lines =>
      let seed := (← Sh.world).clock
      let most := ((os.values "n").filterMap Octets.natural?).min?
      if os.has "r" && lines = [] && most ≠ some 0 then return ← fail "no lines to repeat"
      let chosen :=
        if os.has "r" then
          (scattered (most.getD (10 ^ 6)) seed).map fun k => (lines[k % lines.length]?).getD ""
        else
          let all := shuffled seed lines
          match most with | some n => all.take n | none => all
      let text := String.join (chosen.map fun l => l ++ feed.toString)
      match os.value? "o" with
      | some path => return status (← writeOutput path text)
      | none =>
        Sh.write text
        return 0

end ShellCoverage.Shell.Program
