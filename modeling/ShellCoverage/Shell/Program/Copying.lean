import ShellCoverage.Shell.Program.Input

/-!
# Programs that copy

Programs that copy what they read, or a part of it: `cat`, `tac`, `rev`, `tee`, `head`, `tail`, `dd` and
`yes`.

* `Program.amount?` : a number with a unit.
-/

namespace ShellCoverage.Shell.Program

/-- The number that a unit such as `K` stands for. -/
def unit? (s : Octets) : Option Nat :=
  if s = "" then some 1
  else if s = "b" then some 512
  else
    match s.toList with
    | c :: r =>
      match "KMGTPEZY".toList.idxOf? c.toUpper with
      | some i =>
        if r = [] || r = ['i', 'B'] then some (1024 ^ (i + 1))
        else if r = ['B'] then some (1000 ^ (i + 1))
        else none
      | none => none
    | [] => none

/-- The number that digits, perhaps with a unit, denote. -/
def amount? (s : Octets) : Option Nat :=
  let ds := s.toList.takeWhile Char.isDigit
  if ds = [] then none
  else (unit? (String.ofList (s.toList.drop ds.length))).map (Octets.ofDigits ds * ·)

/-! ## Whole files -/

/-- What `cat` shows besides the text. -/
structure Display where
  numbers : Bool
  skipsEmpty : Bool
  squeezes : Bool
  ends : Bool
  tabs : Bool
  invisible : Bool

/-- How far `cat` has come: the number of lines, whether a line begins, and the empty lines before it. -/
structure Numbering where
  number : Nat := 0
  atStart : Bool := true
  empty : Nat := 0

/-- A character as it is shown. -/
def visibly (d : Display) (c : Char) : List Char :=
  if c = '\t' then (if d.tabs then ['^', 'I'] else [c])
  else if !d.invisible then [c]
  else
    let low (n : Nat) : List Char :=
      if n < 32 then ['^', Char.ofNat (n + 64)]
      else if n = 127 then ['^', '?'] else [Char.ofNat n]
    if c.toNat < 128 then low c.toNat else 'M' :: '-' :: low (c.toNat - 128)

/-- The text that is shown for some characters. -/
def display (d : Display) : Numbering → List Char → List Char → Numbering × List Char
  | s, [], acc => (s, acc.reverse)
  | s, c :: r, acc =>
    let number (n : Nat) : List Char := (Octets.padLeft 6 (Octets.ofNat n) ++ "\t").toList
    let ending := if d.ends then ['$', '\n'] else ['\n']
    if c = '\n' && s.atStart then
      if d.squeezes && 0 < s.empty then display d s r acc
      else
        let counts := d.numbers && !d.skipsEmpty
        let n := if counts then s.number + 1 else s.number
        let shown := (if counts then number n else []) ++ ending
        display d ⟨n, true, s.empty + 1⟩ r (shown.reverse ++ acc)
    else
      let counts := s.atStart && d.numbers
      let n := if counts then s.number + 1 else s.number
      let acc := if counts then (number n).reverse ++ acc else acc
      if c = '\n' then display d ⟨n, true, 0⟩ r (ending.reverse ++ acc)
      else display d ⟨n, false, 0⟩ r ((visibly d c).reverse ++ acc)

/-- The place of the file that a descriptor means, and how far it was read or written. -/
def placeAt? (fd : Nat) : Sh (Option (List Name × Nat)) := do
  match ← Sh.openFile? fd with
  | some (_, f) => return match f.channel with | .file place => some (place, f.position) | _ => none
  | none => return none

/-- `cat` -/
def cat : Program := fun args =>
  let u : Usage :=
    { letters := "AbeEnstTuv"
      words := [("show-all", "A"), ("number-nonblank", "b"), ("show-ends", "E"), ("number", "n"),
        ("squeeze-blank", "s"), ("show-tabs", "T"), ("show-nonprinting", "v")] }
  u.run args fun os paths => do
    let any (keys : List Octets) : Bool := keys.any os.has
    let d : Display := ⟨any ["n", "b"], os.has "b", os.has "s", any ["A", "E", "e"], any ["A", "T", "t"],
      any ["A", "v", "e", "t"]⟩
    let isPlain := !(any ["n", "b", "s", "A", "E", "e", "T", "t", "v"])
    let mut good := true
    let mut s : Numbering := {}
    for path in orStandard paths do
      let target ← placeAt? 1
      let source ← onDescriptor path placeAt?
      match source, target with
      | .ok (some (a, start)), some (b, _) =>
        if a = b && start < (← Sh.contentAt a).length then
          complain (named path ++ ": input file is output file")
          good := false
          continue
      | _, _ => pure ()
      if isPlain then
        match ← onPieces path Sh.write with
        | some e => complainOf path e; good := false
        | none => pure ()
      else
        match ← input path with
        | .error e => complainOf path e; good := false
        | .ok text =>
          let (next, shown) := display d s text.toList []
          s := next
          Sh.write (String.ofList shown)
    if (orStandard paths).elem "-" && !(← Sh.isOpen 0) then
      complain ("closing standard input: " ++ Errno.badDescriptor.description)
      good := false
    return status good

/-- Complains that a file cannot be opened, or not read. -/
def complainOpen (path : Octets) (e : Errno) : Sh Unit :=
  if e = .isDirectory then complain ("error reading " ++ cited path ++ ": " ++ e.description)
  else complain ("cannot open " ++ cited path ++ " for reading: " ++ e.description)

/-- The pieces of a text that end with a separator, the last one perhaps without. -/
def separated (separator : List Char) : Nat → List Char → List Char → List (List Char)
  | 0, acc, cs => [acc.reverse ++ cs]
  | n + 1, acc, cs =>
    match cs with
    | [] => if acc = [] then [] else [acc.reverse]
    | c :: r =>
      if separator.isPrefixOf cs then
        (acc.reverse ++ separator) :: separated separator n [] (cs.drop separator.length)
      else separated separator n (c :: acc) r

/-- `tac` -/
def tac : Program := fun args =>
  let u : Usage :=
    { letters := "brs:", words := [("before", "b"), ("regex", "r"), ("separator", "s")] }
  u.run args fun os paths => do
    let complainFile (path : Octets) (e : Errno) : Sh Unit :=
      if e = .isDirectory then complain (named path ++ ": read error: " ++ e.description)
      else complain ("failed to open " ++ cited path ++ " for reading: " ++ e.description)
    let (files, good) ← inputsOr (complainInputOr complainFile) paths
    let separator := ((os.value? "s").getD "\n").toList
    for f in files do
      let parts := separated separator (f.2.length + 1) [] f.2.toList
      Sh.write (String.ofList parts.reverse.flatten)
    return status good

/-- `rev` -/
def rev : Program := fun args =>
  let u : Usage := { package := "util-linux", release := "2.38.1" }
  u.run args fun _ paths => do
    let (files, good) ← inputsOr (fun path e => complain ("cannot open " ++ path ++ ": " ++ e.description)) paths
    let k ← Sh.charset
    for f in files do
      for l in Octets.lines f.2 do
        let text := k.onChars List.reverse (withoutFeed l).toList
        Sh.write (String.ofList text ++ if l.length = text.length then "" else "\n")
    return status good

/-- `tee` -/
def tee : Program := fun args =>
  let u : Usage :=
    { letters := "aip", words := [("append", "a"), ("ignore-interrupts", "i"), ("output-error", "p")] }
  u.run args fun os paths => do
    let mut good := true
    let mut files := []
    for path in paths do
      match ← Sh.openFile path (if os.has "a" then .appending else .writing true) with
      | .ok i => files := files ++ [i]
      | .error e => complainOf path e; good := false
    let all := files
    match ← refusal? 0 with
    | some e => complainStandard e; good := false
    | none => pure ()
    foldPieces 0 (fun () s => do
      Sh.write s
      for i in all do
        discard (Sh.writeFile i s)
      return .yield ()) Sh.maxReads ()
    for i in all do
      Sh.release i
    return status good

/-! ## Heads and tails -/

/-- An argument such as `-5` in the place of a count, as options: the digits, and letters after them. -/
def expandCount (args : List Octets) : List Octets :=
  match args with
  | a :: r =>
    match a.toList with
    | '-' :: c :: cs =>
      if !c.isDigit then args
      else
        let ds := (c :: cs).takeWhile Char.isDigit
        let letters := (c :: cs).drop ds.length
        let kind := if letters.elem 'c' then "-c" else "-n"
        let unit := letters.filter fun l => "bkm".toList.elem l
        let others := letters.filter fun l => "qvzf".toList.elem l
        [kind ++ String.ofList (ds ++ unit)] ++ others.map (fun l => "-" ++ l.toString) ++ r
    | _ => args
  | [] => []

/-- Writes the name of an input before it. -/
def writeHeading (first : Bool) (path : Octets) : Sh Unit :=
  let shown := if path = "-" then "standard input" else path
  Sh.write ((if first then "" else "\n") ++ "==> " ++ shown ++ " <==\n")

/-- Runs an action on the descriptors of inputs, with their names if they are to be shown. -/
def onParts (os : Options) (paths : List Octets) (act : Nat → Sh Unit) : Sh Nat := do
  let paths := orStandard paths
  let shows := match os.last? ["q", "v"] with
    | some "q" => false
    | some _ => true
    | none => 1 < paths.length
  let mut good := true
  let mut first := true
  for path in paths do
    -- A directory has a heading, although it cannot be read.
    let isDirectory := match ← Sh.node? true path with | .ok (_, x) => x.isDirectory | .error _ => false
    let heading := if shows then writeHeading first path else pure ()
    if isDirectory then heading
    match ← onDescriptor path (fun fd => do
      heading
      act fd) with
    | .ok () => first := false
    | .error e =>
      if isDirectory then first := false
      if path = "-" && e = .badDescriptor && (← ownName) = "tail" then
        complain ("cannot fstat 'standard input': " ++ e.description)
        complain ("-: " ++ e.description)
      else complainInputOr complainOpen path e
      good := false
  return status good

/-- Copies so many characters of what comes. -/
def copyCharacters (fd : Nat) : Nat → Nat → Sh Unit
  | 0, _ => throw .stopped
  | _, 0 => return ()
  | n + 1, left => do
    let seekable ← isSeekable fd
    let piece ← Sh.takeFrom fd false none fun cs isLast =>
      if cs = [] && !isLast then none
      else
        let taken := cs.take left
        some (String.ofList taken, if seekable then taken.length else cs.length)
    match piece with
    | none | some "" => return ()
    | some s =>
      Sh.write s
      copyCharacters fd n (left - s.length)

/-- Copies so many lines of what comes. -/
def copyLines (fd : Nat) (delimiter : Char) (count : Nat) : Sh Unit := do
  if count ≠ 0 then
    discard (foldLinesAt fd delimiter true count fun left l => do
      Sh.write l
      return if left = 1 then .done 0 else .yield (left - 1))

/-- The lines of a text with their delimiters. -/
def delimited (delimiter : Char) (text : Octets) : List Octets :=
  let (lines, last) := completeLines delimiter text
  if last = "" then lines else lines ++ [last]

/-- The number of a count, or a complaint about it. -/
def countOr (what s : Octets) (act : Nat → Sh Nat) : Sh Nat := do
  match amount? s with
  | some n =>
    if 2 ^ 64 ≤ n then
      complain ("invalid number of " ++ what ++ ": " ++ cited s ++ ": Value too large for defined data type")
      return 1
    act n
  | none =>
    complain ("invalid number of " ++ what ++ ": " ++ cited s)
    return 1

/-- A count without its sign, if it has this one. -/
def signed? (sign : Octets) (s : Octets) : Option Octets := Octets.dropHead? sign s

/-- `head` -/
def head : Program := fun args =>
  let u : Usage :=
    { letters := "c:n:qvz"
      words := [("bytes", "c"), ("lines", "n"), ("quiet", "q"), ("silent", "q"), ("verbose", "v"),
        ("zero-terminated", "z")] }
  u.run (expandCount args) fun os paths => do
    let delimiter := if os.has "z" then '\x00' else '\n'
    let (kind, value) := (os.reverse.find? fun o => o.1 = "c" || o.1 = "n").getD ("n", "10")
    let what := if kind = "c" then "bytes" else "lines"
    let value := (signed? "+" value).getD value
    match signed? "-" value with
    | some s =>
      countOr what s fun n => onParts os paths fun fd => do
        let text := (← Sh.readAll fd).getD ""
        if kind = "c" then Sh.write (String.ofList (text.toList.take (text.length - n)))
        else
          let lines := delimited delimiter text
          Sh.write (String.join (lines.take (lines.length - n)))
    | none =>
      countOr what value fun n => onParts os paths fun fd =>
        if kind = "c" then copyCharacters fd Sh.maxReads n else copyLines fd delimiter n

/-- The end of a text: so many lines or characters, or those from a place on. -/
def lastPart (ofCharacters fromStart : Bool) (delimiter : Char) (n : Nat) (text : Octets) : Octets :=
  if ofCharacters then
    String.ofList (text.toList.drop (if fromStart then n - 1 else text.length - n))
  else
    let lines := delimited delimiter text
    String.join (lines.drop (if fromStart then n - 1 else lines.length - n))

/-- The time between two looks at a file that grows. -/
def followTime : Nat := 1000000

/-- Copies what is added to the file of a descriptor, again and again. -/
def follow (fd : Nat) : Nat → Sh Unit
  | 0 => throw .stopped
  | n + 1 => do
    let now := (← Sh.world).clock
    Sh.pause .time (some (now + followTime)) false
    match ← piece? fd with
    | some s => Sh.write s
    | none => pure ()
    follow fd n

/-- `tail` -/
def tail : Program := fun args =>
  let u : Usage :=
    { letters := "c:n:fFqs:vz"
      words := [("bytes", "c"), ("lines", "n"), ("follow", "follow::"), ("quiet", "q"), ("silent", "q"),
        ("sleep-interval", "s"), ("pid", "pid:"), ("retry", "retry"), ("verbose", "v"),
        ("zero-terminated", "z")] }
  u.run (expandCount args) fun os paths => do
    let delimiter := if os.has "z" then '\x00' else '\n'
    let (kind, value) := (os.reverse.find? fun o => o.1 = "c" || o.1 = "n").getD ("n", "10")
    let fromStart := (signed? "+" value).isSome
    let value := ((signed? "+" value).orElse fun _ => signed? "-" value).getD value
    countOr (if kind = "c" then "bytes" else "lines") value fun n => onParts os paths fun fd => do
      let text := (← Sh.readAll fd).getD ""
      Sh.write (lastPart (kind = "c") fromStart delimiter n text)
      if os.has "f" || os.has "F" || os.has "follow" then
        if ← isSeekable fd then follow fd Sh.maxReads

/-! ## Blocks -/

/-- The value of an operand of `dd`. -/
def setting? (operands : List Octets) (name : Octets) : Option Octets :=
  (operands.reverse.findSome? fun o => Octets.dropHead? (name ++ "=") o)

/-- `dd` -/
def dd : Program := fun args =>
  let u : Usage := {}
  u.run args fun _ operands => do
    let number (names : List Octets) : Option Nat :=
      names.findSome? fun n => (setting? operands n).bind fun s => amount? s
    let known := ["if", "of", "bs", "ibs", "obs", "cbs", "count", "skip", "seek", "conv", "status", "iflag",
      "oflag", "iseek", "oseek"]
    match operands.find? fun o => !(known.any fun k => Octets.startsWith (k ++ "=") o) with
    | some o => return ← misuse ("unrecognized operand " ++ cited o)
    | none => pure ()
    let inSize := max ((number ["bs", "ibs"]).getD 512) 1
    let conversions := ((setting? operands "conv").map (Octets.pieces ',')).getD []
    let start := (number ["skip", "iseek"]).getD 0 * inSize
    let offset := (number ["seek", "oseek"]).getD 0 * max ((number ["bs", "obs"]).getD 512) 1
    let path := (setting? operands "if").getD "-"
    let wanted := (number ["count"]).map (· * inSize)
    let read (fd : Nat) : Sh Octets := do
      match wanted with
      | none => return (← Sh.readAll fd).getD ""
      | some n =>
        foldTaken fd (start + n) Sh.maxReads ""
    match ← onDescriptor path read with
    | .error e =>
      complainInputOr (fun p e => complain ("failed to open " ++ cited p ++ ": " ++ e.description)) path e
      return 1
    | .ok text =>
      let cs := text.toList.drop start
      let cs := if conversions.elem "ucase" then cs.map Char.toUpper else cs
      let cs := if conversions.elem "lcase" then cs.map Char.toLower else cs
      let keeps := conversions.elem "notrunc"
      let report : Sh Unit := do
        let blocks := Octets.ofNat (cs.length / inSize) ++ "+" ++
          (if cs.length % inSize = 0 then "0" else "1")
        let level := (setting? operands "status").getD ""
        if level ≠ "none" then
          Sh.complain (blocks ++ " records in\n" ++ blocks ++ " records out\n")
          if level ≠ "noxfer" then
            let n := cs.length
            Sh.complain (Octets.ofNat n ++ (if n = 1 then " byte" else " bytes") ++ " copied, 0.0001 s, " ++
              Octets.ofNat (n / 100) ++ ".0 kB/s\n")
      match setting? operands "of" with
      | none =>
        Sh.write (String.ofList cs)
        report
        return 0
      | some out =>
        match ← Sh.openFile out (.writing (!keeps && offset = 0)) with
        | .error e =>
          complain ("failed to open " ++ cited out ++ ": " ++ e.description)
          return 1
        | .ok i =>
          Sh.changeFile i fun f => { f with position := offset }
          discard (Sh.writeFile i (String.ofList cs))
          Sh.release i
          report
          return 0
where
  /-- So many characters of what comes, after others. -/
  foldTaken (fd size : Nat) : Nat → Octets → Sh Octets
    | 0, _ => throw .stopped
    | n + 1, acc => do
      if size ≤ acc.length then return acc
      let piece ← Sh.takeFrom fd false none fun cs isLast =>
        if cs = [] && !isLast then none
        else
          let taken := cs.take (size - acc.length)
          some (String.ofList taken, taken.length)
      match piece with
      | none | some "" => return acc
      | some s => foldTaken fd size n (acc ++ s)

/-- Writes a text again and again. -/
def writeForever (s : Octets) : Nat → Sh Unit
  | 0 => throw .stopped
  | n + 1 => do
    match ← Sh.writeTo 1 s with
    | some e => complain ("standard output: " ++ e.description)
    | none =>
      Sh.spend Sh.stepTime
      writeForever s n

/-- `yes` -/
def yes : Program := fun args =>
  let u : Usage := {}
  u.run args fun _ operands => do
    let line := Octets.join " " (if operands = [] then ["y"] else operands) ++ "\n"
    writeForever (String.join (List.replicate (8192 / line.length + 1) line)) Sh.maxReads
    return 1

end ShellCoverage.Shell.Program
