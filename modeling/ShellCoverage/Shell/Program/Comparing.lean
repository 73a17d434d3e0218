import ShellCoverage.Shell.Program.Comparing.Changes
import ShellCoverage.Shell.Program.Listing
import ShellCoverage.Shell.Regex.Reader

/-!
# Comparing files

* `Comparing.Style` : how differences are shown;
* `Program.diff` : the differences of files line by line, also of those in directories;
* `Program.cmp` : the first differences byte by byte.
-/

namespace ShellCoverage.Shell.Comparing

open Program

/-- How differences are shown. -/
inductive Style where
  | normal
  /-- With so many lines around changes. -/
  | unified (around : Nat)
  | context (around : Nat)
  | commands
  | counted
  | columns
  deriving DecidableEq

/-- How many lines are shown around changes. -/
def Style.around : Style → Nat
  | .unified n | .context n => n
  | _ => 0

/-- How files are compared. -/
structure Manner where
  style : Style := .normal
  brief : Bool := false
  reportsSame : Bool := false
  recursive : Bool := false
  /-- Missing files are taken for empty ones. -/
  fillsIn : Bool := false
  foldsCase : Bool := false
  ignoresSpace : Bool := false
  squeezesSpace : Bool := false
  ignoresTrailing : Bool := false
  ignoresReturns : Bool := false
  ignoresBlankLines : Bool := false
  ignored : List Regex := []
  asText : Bool := false
  hidesCommon : Bool := false
  excluded : List (List Pattern) := []
  labels : List Octets := []
  /-- The options as they are shown before the differences of files in directories. -/
  options : Octets := ""

/-! ## Lines -/

/-- A text with one blank for each run of blanks. -/
def squeezed : List Char → List Char
  | [] => []
  | c :: cs =>
    if Octets.isSpace c then
      match squeezed cs with
      | ' ' :: r => ' ' :: r
      | r => ' ' :: r
    else c :: squeezed cs

/-- What a line is compared by. -/
def Manner.key (m : Manner) (l : Octets) : Octets :=
  let cs := l.toList
  let spaces := m.ignoresSpace || m.squeezesSpace || m.ignoresTrailing
  let cs := if spaces then (cs.reverse.dropWhile Octets.isSpace).reverse else cs
  let cs := if m.ignoresReturns then
      match cs.reverse with
      | '\n' :: '\r' :: r => ('\n' :: r).reverse
      | _ => cs
    else cs
  let cs := if m.ignoresSpace then cs.filter fun c => !Octets.isSpace c
    else if m.squeezesSpace then squeezed cs else cs
  String.ofList (if m.foldsCase then cs.map Char.toLower else cs)

/-- A change does not count. -/
def Manner.ignores (m : Manner) (old new : List Octets) (c : Change) : Bool :=
  let lines := (old.drop c.left).take c.removed ++ (new.drop c.right).take c.added
  (m.ignoresBlankLines || m.ignored ≠ []) && lines.all fun l =>
    (m.ignoresBlankLines && (withoutFeed l).toList.all Octets.isSpace) ||
      m.ignored.any fun r => (Regex.search? {} r (withoutFeed l).toList 0).isSome

/-- A line after a mark; a missing line feed is noted. -/
def shownLine (mark line : Octets) : Octets :=
  if line.toList.getLast? = some '\n' then mark ++ line
  else mark ++ line ++ "\n\\ No newline at end of file\n"

/-- Lines after a mark. -/
def shownLines (mark : Octets) (ls : List Octets) : Octets := String.join (ls.map (shownLine mark))

/-! ## Ways to show changes -/

/-- The numbers of the first and the last one of so many lines after some, or the number of the one before. -/
def numbers (skipped count : Nat) : Octets :=
  if count = 0 then Octets.ofNat skipped
  else if count = 1 then Octets.ofNat (skipped + 1)
  else Octets.ofNat (skipped + 1) ++ "," ++ Octets.ofNat (skipped + count)

/-- The letter for a change. -/
def letter (c : Change) : Octets := if c.removed = 0 then "a" else if c.added = 0 then "d" else "c"

variable (old new : List Octets)

/-- The lines that a change removes. -/
def removedLines (c : Change) : List Octets := (old.drop c.left).take c.removed

/-- The lines that a change adds. -/
def addedLines (c : Change) : List Octets := (new.drop c.right).take c.added

/-- A change as it is usually shown. -/
def normalText (c : Change) : Octets :=
  numbers c.left c.removed ++ letter c ++ numbers c.right c.added ++ "\n" ++
    shownLines "< " (removedLines old c) ++ (if c.removed ≠ 0 && c.added ≠ 0 then "---\n" else "") ++
    shownLines "> " (addedLines new c)

/-- A change as a command of an editor. -/
def commandText (c : Change) : Octets :=
  numbers c.left c.removed ++ letter c ++ "\n" ++
    if c.added = 0 then "" else String.join (addedLines new c) ++ ".\n"

/-- A change as commands with numbers of lines. -/
def countedText (c : Change) : Octets :=
  (if c.removed = 0 then "" else
    "d" ++ Octets.ofNat (c.left + 1) ++ " " ++ Octets.ofNat c.removed ++ "\n") ++
    if c.added = 0 then "" else
      "a" ++ Octets.ofNat (c.left + c.removed) ++ " " ++ Octets.ofNat c.added ++ "\n" ++
        String.join (addedLines new c)

/-- Changes in groups, between which there are more than so many lines. -/
def grouped (between : Nat) : List Change → List (List Change)
  | [] => []
  | c :: cs =>
    match grouped between cs with
    | (d :: ds) :: gs =>
      if d.left - (c.left + c.removed) ≤ between then (c :: d :: ds) :: gs else [c] :: (d :: ds) :: gs
    | gs => [c] :: gs

/-- The lines that a group of changes shows: those before it, and their number, in both texts. -/
def extent (around : Nat) (group : List Change) : (Nat × Nat) × (Nat × Nat) :=
  match group.head?, group.getLast? with
  | some first, some last =>
    let before := min around first.left
    let start := first.left - before
    let stop := min old.length (last.left + last.removed + around)
    let after := stop - (last.left + last.removed)
    let start' := first.right - before
    ((start, stop - start), (start', last.right + last.added + after - start'))
  | _, _ => ((0, 0), (0, 0))

/-- The lines of a text from a place on with the changes in them, as far as some place; `own` gives the
place and the size of a change in the text. -/
def markedLines (lines : List Octets) (own : Change → Nat × Nat) (mark : Change → Octets) (blank : Octets)
    (stop : Nat) : Nat → List Change → Octets
  | place, [] => shownLines blank ((lines.drop place).take (stop - place))
  | place, c :: cs =>
    let (start, count) := own c
    shownLines blank ((lines.drop place).take (start - place)) ++
      shownLines (mark c) ((lines.drop start).take count) ++
      markedLines lines own mark blank stop (start + count) cs

/-- The numbers of lines as a head shows them. -/
def headNumbers (place count : Nat) : Octets :=
  if count = 0 then Octets.ofNat place ++ ",0"
  else if count = 1 then Octets.ofNat (place + 1)
  else Octets.ofNat (place + 1) ++ "," ++ Octets.ofNat count

/-- A group of changes in one piece. -/
def unifiedText (around : Nat) (group : List Change) : Octets :=
  let ((start, count), (start', count')) := extent old around group
  let rec go : Nat → List Change → Octets
    | place, [] => shownLines " " ((old.drop place).take (start + count - place))
    | place, c :: cs =>
      shownLines " " ((old.drop place).take (c.left - place)) ++ shownLines "-" (removedLines old c) ++
        shownLines "+" (addedLines new c) ++ go (c.left + c.removed) cs
  "@@ -" ++ headNumbers start count ++ " +" ++ headNumbers start' count' ++ " @@\n" ++ go start group

/-- A group of changes in two pieces. -/
def contextText (around : Nat) (group : List Change) : Octets :=
  let ((start, count), (start', count')) := extent old around group
  let numbered (place count : Nat) : Octets :=
    if count ≤ 1 then Octets.ofNat (place + count)
    else Octets.ofNat (place + 1) ++ "," ++ Octets.ofNat (place + count)
  "***************\n*** " ++ numbered start count ++ " ****\n" ++
    (if group.any fun c => c.removed ≠ 0 then
      markedLines old (fun c => (c.left, c.removed)) (fun c => if c.added = 0 then "- " else "! ") "  "
        (start + count) start group
      else "") ++
    "--- " ++ numbered start' count' ++ " ----\n" ++
    if group.any fun c => c.added ≠ 0 then
      markedLines new (fun c => (c.right, c.added)) (fun c => if c.removed = 0 then "+ " else "! ") "  "
        (start' + count') start' group
    else ""

/-- Tabs and blanks from one column to another. -/
def gap (start stop : Nat) : List Char :=
  let tabs := stop / 8 - start / 8
  let start := if tabs = 0 then start else stop / 8 * 8
  List.replicate tabs '\t' ++ List.replicate (stop - start) ' '

/-- A row with a line of each text and a sign between them. -/
def rowText (left right : Option Octets) (sign : Char) : Octets :=
  let half := 61
  let l := (withoutFeed (left.getD "")).toList.take half
  let column := l.length
  let (signed, column) :=
    if sign = ' ' then ([], column) else (gap column 62 ++ [sign], 63)
  let r := (withoutFeed (right.getD "")).toList.take half
  String.ofList (l ++ signed ++ (if r = [] then [] else gap column 64 ++ r) ++ ['\n'])

/-- The rows of two texts side by side from some places on. -/
def rowsText (hidesCommon : Bool) : Nat → Nat → List Change → Octets
  | place, place', [] => common place place' (old.length - place)
  | place, place', c :: cs =>
    common place place' (c.left - place) ++
      String.join ((List.range (max c.removed c.added)).map fun i =>
        let left := if i < c.removed then old[c.left + i]? else none
        let right := if i < c.added then new[c.right + i]? else none
        rowText left right (if left.isNone then '>' else if right.isNone then '<' else '|')) ++
      rowsText hidesCommon (c.left + c.removed) (c.right + c.added) cs
where
  /-- The rows of lines that are common. -/
  common (place place' count : Nat) : Octets :=
    if hidesCommon then ""
    else String.join ((List.range count).map fun i =>
      rowText old[place + i]? new[place' + i]? ' ')

/-- The changes from one text to another as a style shows them, with two lines of head if it has a head. -/
def Style.text (s : Style) (heads : Octets × Octets) (hidesCommon : Bool) (cs : List Change) : Octets :=
  match s with
  | .normal => String.join (cs.map (normalText old new))
  | .commands => String.join (cs.reverse.map (commandText new))
  | .counted => String.join (cs.map (countedText new))
  | .unified n =>
    "--- " ++ heads.1 ++ "\n+++ " ++ heads.2 ++ "\n" ++
      String.join ((grouped (2 * n) cs).map (unifiedText old new n))
  | .context n =>
    "*** " ++ heads.1 ++ "\n--- " ++ heads.2 ++ "\n" ++
      String.join ((grouped (2 * n) cs).map (contextText old new n))
  | .columns => rowsText old new hidesCommon 0 0 cs

/-! ## Files -/

/-- A file to compare: its path, its content, and the moment of its change. -/
structure Side where
  path : Octets
  text : Octets
  time : Int

/-- The head for a file, unless it has a label. -/
def Side.head (s : Side) (style : Style) (label : Option Octets) : Octets :=
  let moment := Moment.ofSeconds (secondsOf s.time)
  match label, style with
  | some l, _ => l
  | none, .context _ => s.path ++ "\t" ++ moment.format "%a %b %e %H:%M:%S %Y"
  | none, _ =>
    let fraction := Octets.ofNat (s.time.fmod 1000000).toNat
    let zeros := String.ofList (List.replicate (6 - fraction.length) '0')
    s.path ++ "\t" ++ moment.format "%Y-%m-%d %H:%M:%S." ++ zeros ++ fraction ++ "000 +0000"

/-- Compares two files, and gives whether they differ. -/
def compareSides (m : Manner) (head : Octets) (a b : Side) : Sh Bool := do
  let same : Sh Bool := do
    if m.reportsSame then Sh.write ("Files " ++ a.path ++ " and " ++ b.path ++ " are identical\n")
    return false
  if a.text = b.text && m.style ≠ .columns then return ← same
  let binary := !m.asText && (Octets.has '\x00' a.text || Octets.has '\x00' b.text)
  if binary then
    Sh.write ((if m.brief then "Files " else "Binary files ") ++ a.path ++ " and " ++ b.path ++ " differ\n")
    return true
  let old := Octets.lines a.text
  let new := Octets.lines b.text
  let cs := (changes m.style.around m.key old new).filter fun c => !m.ignores old new c
  if cs = [] && m.style ≠ .columns then return ← same
  if m.brief then
    if cs = [] then return ← same
    Sh.write ("Files " ++ a.path ++ " and " ++ b.path ++ " differ\n")
  else
    Sh.write head
    Sh.write (m.style.text old new (a.head m.style m.labels.head?, b.head m.style m.labels[1]?)
      m.hidesCommon cs)
  return cs ≠ []

/-- The status of a comparison: of those of parts, the one that matters more. -/
def worse (a b : Nat) : Nat := max a b

/-- The content and the time of the file at a path. -/
def side (path : Octets) : Sh (Except Errno Side) := do
  match ← input path with
  | .error e => return .error e
  | .ok text =>
    let time ← match ← Sh.node? true path with
      | .ok (place, _) => changeTime place
      | .error _ => pure (clockOf (← presentTime))
    return .ok ⟨path, text, time⟩

/-- Compares the files at two paths, with a head before the differences, and gives the status. -/
def compareFiles (m : Manner) (head a b : Octets) : Sh Nat := do
  if a = "-" && b = "-" then return 0
  let missing (path : Octets) (e : Errno) : Bool := m.fillsIn && e = .noEntry && path ≠ ""
  let mut sides : List Side := []
  let mut failed := false
  let found := [← side a, ← side b]
  for (path, x) in [a, b].zip found do
    match x with
    | .ok s => sides := sides ++ [s]
    | .error e =>
      if missing path e && !failed then sides := sides ++ [⟨path, "", clockOf 0⟩]
      else
        complainOf path e
        failed := true
  if failed then return 2
  match sides with
  | [x, y] => return if ← compareSides m head x y then 1 else 0
  | _ => return 2

/-- The kind of a file as a message names it. -/
def kindText : Node → Octets
  | .directory _ _ => "a directory"
  | .file _ content => if content.isEmpty then "a regular empty file" else "a regular file"
  | .link _ => "a symbolic link"
  | .device => "a character special file"
  | .fifo _ => "a fifo"

/-- The entries of the directory at a path. -/
def entriesAt (path : Octets) : Sh (List Octets) := do
  match ← Sh.node? true path with
  | .ok (_, .directory _ es) => return es.map fun e => Octets.ofBytes e.1
  | _ => return []

/-- Compares the directories at two paths, within so many others at most, and gives the status. -/
def compareDirectories (m : Manner) : Nat → Octets → Octets → Sh Nat
  | 0, _, _ => return 2
  | n + 1, a, b => do
    let lefts ← entriesAt a
    let rights ← entriesAt b
    let names := (lefts ++ rights.filter fun r => !lefts.elem r).mergeSort fun x y => !decide (y < x)
    let names := names.filter fun name => !m.excluded.any fun p => Pattern.accepts false p name.toList
    let mut status := 0
    for name in names do
      let x := below a name
      let y := below b name
      let isDirectory (path : Octets) : Sh Bool := Testing.onNode true path Node.isDirectory
      let both := lefts.elem name && rights.elem name
      let result ←
        if !both && !m.fillsIn then do
          Sh.write ("Only in " ++ (if lefts.elem name then a else b) ++ ": " ++ name ++ "\n")
          pure 1
        else
          match ← isDirectory x, ← isDirectory y with
          | true, true =>
            if m.recursive then compareDirectories m n x y
            else do
              Sh.write ("Common subdirectories: " ++ x ++ " and " ++ y ++ "\n")
              pure 0
          | true, false | false, true =>
            if !both && m.recursive then compareDirectories m n x y
            else
              match ← Sh.node? true x, ← Sh.node? true y with
              | .ok (_, u), .ok (_, v) => do
                Sh.write ("File " ++ x ++ " is " ++ kindText u ++ " while file " ++ y ++ " is " ++
                  kindText v ++ "\n")
                pure 1
              | _, _ => pure 1
          | false, false =>
            let head := "diff" ++ m.options ++ " " ++ x ++ " " ++ y ++ "\n"
            compareFiles m head x y
      status := worse status result
    return status

end Comparing

namespace Program

/-- Complains about the arguments of a program that compares. -/
def misuseComparing (message : Octets) : Sh Nat := do
  complain message
  complain ("Try '" ++ (← ownName) ++ " --help' for more information.")
  return 2

/-- The options of `diff`. -/
def diffOptions : Usage :=
  { letters := "0123456789abBcC:dD:eEfF:hHiI:lL:nNpPqrsS:tTuU:vwW:x:X:yZ"
    package := "GNU diffutils"
    release := "3.8"
    words := [("text", "a"), ("ignore-space-change", "b"), ("ignore-blank-lines", "B"), ("context", "context::"),
      ("brief", "q"), ("minimal", "d"), ("ed", "e"), ("exclude", "x"), ("expand-tabs", "t"),
      ("ignore-all-space", "w"), ("ignore-case", "i"), ("ignore-matching-lines", "I"),
      ("ignore-tab-expansion", "E"), ("ignore-trailing-space", "Z"), ("initial-tab", "T"), ("label", "L"),
      ("new-file", "N"), ("normal", "normal"), ("rcs", "n"), ("recursive", "r"),
      ("report-identical-files", "s"), ("show-c-function", "p"), ("side-by-side", "y"),
      ("strip-trailing-cr", "strip-trailing-cr"), ("suppress-common-lines", "suppress-common-lines"),
      ("unified", "unified::"), ("width", "W"), ("color", "color::"), ("no-dereference", "no-dereference"),
      ("from-file", "from-file:"), ("to-file", "to-file:"), ("speed-large-files", "H")] }

/-- How many lines are shown around changes, by an argument. -/
def linesAround (value : Octets) : Nat := (Octets.natural? value).getD 3

/-- How options say that files are compared. -/
def diffManner (os : Options) (options : Octets) : Comparing.Manner :=
  let digits := os.filterMap fun o => match o.1.toList with
    | [c] => if c.isDigit then some c else none
    | _ => none
  let style := os.foldl (fun (s : Comparing.Style) o => match o.1 with
    | "u" => match s with | .unified n => .unified n | _ => .unified 3
    | "U" => .unified (linesAround o.2)
    | "unified" => .unified (linesAround o.2)
    | "c" => match s with | .context n => .context n | _ => .context 3
    | "C" => .context (linesAround o.2)
    | "context" => .context (linesAround o.2)
    | "e" => .commands
    | "n" => .counted
    | "y" => .columns
    | "normal" => .normal
    | _ => s) .normal
  let style := if digits = [] then style else match style with
    | .unified _ => .unified (Octets.ofDigits digits)
    | .context _ => .context (Octets.ofDigits digits)
    | s => s
  { style
    options
    brief := os.has "q"
    reportsSame := os.has "s"
    recursive := os.has "r"
    fillsIn := os.has "N"
    foldsCase := os.has "i"
    ignoresSpace := os.has "w"
    squeezesSpace := os.has "b"
    ignoresTrailing := os.has "Z"
    ignoresReturns := os.has "strip-trailing-cr"
    ignoresBlankLines := os.has "B"
    ignored := (os.values "I").filterMap fun r => (Regex.ofOctets .basic r).toOption
    asText := os.has "a"
    hidesCommon := os.has "suppress-common-lines"
    excluded := (os.values "x").map fun p => Pattern.parse false false (p.toList.map fun c => (c, false))
    labels := os.values "L" }

/-- `diff` -/
def diff : Program := fun args => do
  match diffOptions.parse args with
  | .error e => misuseComparing e
  | .ok (os, operands) =>
    if os.any fun o => o.1 = "version" || o.1 = "help" then return ← diffOptions.run args fun _ _ => return 0
    let (operands, starts) := match os.value? "from-file", os.value? "to-file" with
      | some a, _ => (operands.flatMap fun b => [a, b], operands.length)
      | none, some b => (operands.flatMap fun a => [a, b], operands.length)
      | none, none => (operands, 1)
    let options := args.filter fun a => !operands.elem a
    let m := diffManner os (String.join (options.map (" " ++ ·)))
    let pair (a b : Octets) : Sh Nat := do
      let isDirectory (path : Octets) : Sh Bool :=
        if path = "-" then return false else Testing.onNode true path Node.isDirectory
      match ← isDirectory a, ← isDirectory b with
      | true, true => Comparing.compareDirectories m 100 a b
      | true, false => Comparing.compareFiles m "" (below a (lastName b)) b
      | false, true => Comparing.compareFiles m "" a (below b (lastName a))
      | false, false => Comparing.compareFiles m "" a b
    if starts = 1 then
      match operands with
      | [a, b] => pair a b
      | [] => misuseComparing ("missing operand after " ++ cited (args.getLastD (← ownName)))
      | [a] => misuseComparing ("missing operand after " ++ cited a)
      | _ :: _ :: c :: _ => misuseComparing ("extra operand " ++ cited c)
    else
      let mut status := 0
      for i in List.range starts do
        status := max status (← pair ((operands[2 * i]?).getD "") ((operands[2 * i + 1]?).getD ""))
      return status

/-- A character as a list of differences shows it. -/
def shownCharacter (c : Char) : Octets :=
  let n := c.toNat
  let high := if 128 ≤ n then "M-" else ""
  let n := n % 128
  high ++ (if n < 32 then "^" ++ (Char.ofNat (n + 64)).toString else if n = 127 then "^?"
    else (Char.ofNat n).toString)

/-- The number of bytes in an argument, which may have a unit. -/
def byteCount? (s : Octets) : Option Nat :=
  let digits := s.toList.takeWhile Char.isDigit
  if digits = [] then none
  else
    let n := Octets.ofDigits digits
    match s.toList.drop digits.length with
    | [] => some n
    | ['K'] | ['k'] => some (n * 1024)
    | ['M'] => some (n * 1024 * 1024)
    | _ => none

/-- `cmp` -/
def cmp : Program := fun args => do
  let u : Usage :=
    { letters := "bci:ln:sv"
      package := "GNU diffutils"
      release := "3.8"
      words := [("print-bytes", "b"), ("print-chars", "b"), ("ignore-initial", "i"), ("verbose", "l"),
        ("bytes", "n"), ("silent", "s"), ("quiet", "s")] }
  match u.parse args with
  | .error e => misuseComparing e
  | .ok (os, operands) =>
    if os.any fun o => o.1 = "version" || o.1 = "help" then return ← u.run args fun _ _ => return 0
    match operands with
    | [] => misuseComparing ("missing operand after " ++ cited (← ownName))
    | a :: rest =>
      if let some x := rest[3]? then return ← misuseComparing ("extra operand " ++ cited x)
      let b := rest.headD "-"
      let skips : List Octets := match os.value? "i" with
        | some v =>
          match Octets.pieces ':' v with
          | [x] => [x, x]
          | xs => xs
        | none => [(rest[1]?).getD "0", (rest[2]?).getD "0"]
      if let some s := skips.find? fun s => (byteCount? s).isNone then
        return ← misuseComparing ("invalid --ignore-initial value " ++ cited s)
      if let some n := os.value? "n" then
        if (byteCount? n).isNone then return ← misuseComparing ("invalid --bytes value " ++ cited n)
      let skip (i : Nat) : Nat := ((skips[i]?).bind byteCount?).getD 0
      let limit := (os.value? "n").bind byteCount?
      let quiet := os.has "s"
      let failed (path : Octets) (e : Errno) : Sh Nat := do
        if !quiet || e = .isDirectory then complainOf path e
        return 2
      if a = b then
        if a = "-" then return 0
      match ← input a with
      | .error e => failed a e
      | .ok s =>
        match ← input b with
        | .error e => failed b e
        | .ok t =>
          let part (s : Octets) (skipped : Nat) : List Char :=
            let cs := s.toList.drop skipped
            match limit with
            | some n => cs.take n
            | none => cs
          let xs := part s (skip 0)
          let ys := part t (skip 1)
          if xs = ys then return 0
          if quiet then return 1
          let octal (c : Char) : Octets := Octets.padLeft 3 (String.ofList (Nat.toDigits 8 c.toNat))
          let different := ((xs.zip ys).zipIdx).filter fun p => p.1.1 ≠ p.1.2
          let line (n : Nat) : Nat := ((xs.take n).filter (· = '\n')).length
          let all := os.has "l"
          let noteEnd : Sh Unit := do
            if xs.length ≠ ys.length then
              let shorter := if xs.length < ys.length then a else b
              let size := min xs.length ys.length
              if size = 0 then complain ("EOF on " ++ shorter ++ " which is empty")
              else
                let after := "EOF on " ++ shorter ++ " after byte " ++ Octets.ofNat size
                if all then complain after
                else if xs[size - 1]? = some '\n' then
                  complain (after ++ ", line " ++ Octets.ofNat (line size))
                else complain (after ++ ", in line " ++ Octets.ofNat (line size + 1))
          if all then
            noteEnd
            let width := (Octets.ofNat (min s.length t.length)).length
            for ((x, y), i) in different do
              let place := Octets.padLeft width (Octets.ofNat (i + 1))
              Sh.write (place ++ " " ++ octal x ++ " " ++
                (if os.has "b" then Octets.padRight 4 (shownCharacter x) ++ " " else "") ++ octal y ++
                (if os.has "b" then " " ++ shownCharacter y else "") ++ "\n")
          else if let some ((x, y), i) := different.head? then
            let unit := if os.has "b" then "byte " else "char "
            Sh.write (a ++ " " ++ b ++ " differ: " ++ unit ++ Octets.ofNat (i + 1) ++ ", line " ++
              Octets.ofNat (line i + 1) ++
              (if os.has "b" then " is " ++ octal x ++ " " ++ shownCharacter x ++ " " ++ octal y ++ " " ++
                shownCharacter y else "") ++ "\n")
            return 1
          if !all then noteEnd
          return 1

end Program

end ShellCoverage.Shell
