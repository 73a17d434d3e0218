import ShellCoverage.Shell.Pattern
import ShellCoverage.Shell.Program.Files

/-!
# Programs that list files

`ls` and `stat`.

* `Program.Entry` : what is listed of a file;
* `Program.rowsOf` : the rows of a long listing.
-/

namespace ShellCoverage.Shell.Program

/-- What is listed of a file. -/
structure Entry where
  name : Octets
  place : List Name
  node : Node
  /-- The moment at which it was changed, on the clock. -/
  time : Int := 0
  /-- The number of names that it has. -/
  names : Nat
  /-- The number that it has among all files. -/
  index : Nat

/-- The size of a file. -/
def sizeOf : Node → Nat
  | .file _ content => content.length
  | .directory _ _ => 4096
  | .link t => t.length
  | _ => 0

/-- The number of names that the node at a place has. -/
def nameCount (w : World) (place : List Name) : Node → Nat
  | .directory _ es => 2 + (es.filter fun e => e.2.isDirectory).length
  | _ => (w.namesOf place).length

/-- The number of a file, by its names. -/
def indexOf (w : World) (place : List Name) : Nat :=
  let names := w.namesOf place
  ((names.headD []).flatMap fun n => 47 :: n).foldl (fun k b => (k * 131 + b.toNat) % 1999993) 4000000

/-- What is listed of the node at a place, by some name. -/
def entryOf (name : Octets) (place : List Name) (node : Node) : Sh Entry := do
  let w ← Sh.world
  let time := (Table.get? place w.times).getD 0
  return { name, place, node, time, names := nameCount w place node, index := indexOf w place }

/-- The number of blocks of 1024 bytes that a file takes. -/
def blockCount : Node → Nat
  | .file _ content => (content.length + 4095) / 4096 * 4
  | .directory _ _ => 4
  | _ => 0

/-- The letter for the kind of a file. -/
def kindLetter : Node → Octets
  | .file _ _ => "-"
  | .directory _ _ => "d"
  | .link _ => "l"
  | .device => "c"
  | .fifo _ => "p"

/-- The mode of a node as letters, with the letter for its kind. -/
def modeLetters (x : Node) : Octets := kindLetter x ++ Mode.letters x.mode

/-- A size in the largest unit in which it is at least one, rounded up. -/
def humanSize (n : Nat) : Octets :=
  let rec go : Nat → Nat → List Octets → Octets
    | _, scale, [] => Octets.ofNat ((n + scale - 1) / scale)
    | 0, scale, _ => Octets.ofNat ((n + scale - 1) / scale)
    | fuel + 1, scale, unit :: units =>
      if n < scale * 1024 then
        let tenths := (n * 10 + scale - 1) / scale
        if scale = 1 then Octets.ofNat n
        else if tenths < 100 then Octets.ofNat (tenths / 10) ++ "." ++ Octets.ofNat (tenths % 10) ++ unit
        else Octets.ofNat ((n + scale - 1) / scale) ++ unit
      else go fuel (scale * 1024) units
  go 8 1 ["", "K", "M", "G", "T", "P"]

/-- The mark that shows the kind of a file behind its name. -/
def kindMark (os : Options) (x : Node) : Octets :=
  let all := os.has "F"
  match x with
  | .directory _ _ => if all || os.has "p" || os.has "file-type" then "/" else ""
  | .link _ => if all || os.has "file-type" then "@" else ""
  | .fifo _ => if all || os.has "file-type" then "|" else ""
  | .file mode _ => if all && mode &&& 0o111 ≠ 0 then "*" else ""
  | .device => ""

/-- A name as a listing shows it. -/
def listedName (os : Options) (s : Octets) : Octets :=
  let escaped (c : Char) : List Char :=
    if Quoting.isVisible c then (if c = '"' || c = '\\' then ['\\', c] else [c])
    else match Quoting.controlLetter? c with
      | some l => ['\\', l]
      | none => '\\' :: Quoting.octal c.toNat
  if os.has "Q" then "\"" ++ String.ofList (s.toList.flatMap escaped) ++ "\""
  else if os.has "b" then
    String.ofList (s.toList.flatMap fun c => if c = ' ' then ['\\', ' '] else if c = '"' then [c] else escaped c)
  else if os.has "q" then s.map fun c => if Quoting.isVisible c then c else '?'
  else s

/-- The moment of a change as a long listing shows it. -/
def listedTime (os : Options) (now : Int) (time : Int) : Octets :=
  let m := Moment.ofSeconds (secondsOf time)
  match (os.value? "time-style").bind (Octets.dropHead? "+") with
  | some f => m.format f
  | none =>
    match os.value? "time-style" with
    | some "long-iso" => m.format "%Y-%m-%d %H:%M"
    | some "iso" => m.format "%m-%d %H:%M"
    | some "full-iso" => m.format "%Y-%m-%d %H:%M:%S.000000000 +0000"
    | _ =>
      if os.has "full-time" then m.format "%Y-%m-%d %H:%M:%S.000000000 +0000"
      else if now - 15778476 < secondsOf time && secondsOf time ≤ now then m.format "%b %e %H:%M"
      else m.format "%b %e  %Y"

/-- A name with its target if it is a link. -/
def nameWithTarget (os : Options) (e : Entry) : Octets :=
  match e.node with
  | .link t => listedName os e.name ++ " -> " ++ listedName os (Octets.ofBytes t)
  | x => listedName os e.name ++ kindMark os x

/-- The size as it is listed. -/
def listedSize (os : Options) (x : Node) : Octets :=
  if os.has "h" then humanSize (sizeOf x) else Octets.ofNat (sizeOf x)

/-- The rows of a long listing; the columns are as wide as they must be. -/
def rowsOf (os : Options) (now : Int) (es : List Entry) : List Octets :=
  let width (f : Entry → Octets) : Nat := (es.map fun e => (f e).length).foldl max 0
  let links (e : Entry) : Octets := Octets.ofNat e.names
  let size (e : Entry) : Octets := listedSize os e.node
  let owner := if os.has "n" then "0" else "root"
  let blocks (e : Entry) : Octets := Octets.ofNat (blockCount e.node)
  es.map fun e =>
    (if os.has "s" then Octets.padLeft (width blocks) (blocks e) ++ " " else "") ++
      modeLetters e.node ++ " " ++ Octets.padLeft (width links) (links e) ++
      (if os.has "g" then "" else " " ++ owner) ++ (if os.has "o" || os.has "G" then "" else " " ++ owner) ++
      " " ++ Octets.padLeft (width size) (size e) ++ " " ++ listedTime os now e.time ++ " " ++ nameWithTarget os e

/-- Tabs and blanks from one column to another; the number bounds them. -/
def columnGap (start stop : Nat) : Nat → List Char
  | 0 => []
  | n + 1 =>
    if stop ≤ start then []
    else if (start + 1) / 8 < stop / 8 then '\t' :: columnGap (start - start % 8 + 8) stop n
    else ' ' :: columnGap (start + 1) stop n

/-- Cells with gaps up to the places where the next ones start. -/
def spacedCells (start : Nat) : List (Octets × Nat) → Octets
  | [] => ""
  | [c] => c.1
  | c :: cs =>
    let stop := start + c.2
    c.1 ++ String.ofList (columnGap (start + c.1.length) stop (stop + 1)) ++ spacedCells stop cs

/-- Names in as many columns, up to a number, as there is room for in 80 characters. -/
def inColumns (across : Bool) (names : List Octets) : Nat → List Octets
  | 0 => names
  | n + 1 =>
    let columns := n + 1
    let rows := (names.length + columns - 1) / columns
    let nameAt (r c : Nat) : Option Octets := names[if across then r * columns + c else c * rows + r]?
    let widths := (List.range columns).map fun c =>
      ((List.range rows).map fun r =>
        ((nameAt r c).map fun s => s.length + if c = n then 0 else 2).getD 0).foldl max 3
    if columns ≠ 1 && 80 ≤ widths.sum then inColumns across names n
    else
      (List.range rows).map fun r =>
        spacedCells 0 ((List.range columns).filterMap fun c =>
          (nameAt r c).map fun s => (s, (widths[c]?).getD 0))

/-- Names with commas between them, in lines of at most 80 characters. -/
def withCommas (names : List Octets) : List Octets :=
  let rec go (line : Octets) : List Octets → List Octets
    | [] => if line = "" then [] else [line]
    | n :: ns =>
      let last := ns.isEmpty
      let item := if last then n else n ++ ","
      if line = "" then go item ns
      else if 79 < line.length + 1 + item.length then line :: go item ns
      else go (line ++ " " ++ item) ns
  go "" names

/-- Writes entries in the way that is asked for. -/
def writeEntries (os : Options) (now : Int) (es : List Entry) : Sh Unit := do
  let names := es.map fun e =>
    (if os.has "s" then Octets.ofNat (blockCount e.node) ++ " " else "") ++
      (if os.has "i" then Octets.ofNat e.index ++ " " else "") ++
      listedName os e.name ++ kindMark os e.node
  let lines := match os.last? ["l", "g", "o", "n", "1", "C", "x", "m", "full-time"] with
    | some "C" => inColumns false names (max 1 (min names.length 26))
    | some "x" => inColumns true names (max 1 (min names.length 26))
    | some "m" => withCommas names
    | some "1" | none => if ["l", "g", "o", "n"].any os.has then rowsOf os now es else names
    | some _ => rowsOf os now es
  Sh.write (unlines lines)

/-- The rows are those of a long listing. -/
def isLong (os : Options) : Bool :=
  match os.last? ["l", "g", "o", "n", "C", "x", "m", "full-time"] with
  | some "C" | some "x" | some "m" | none => false
  | some _ => true

/-- Entries in the order that is asked for. -/
def orderedEntries (os : Options) (es : List Entry) : List Entry :=
  let byName (a b : Entry) : Bool := !decide (b.name < a.name)
  let ending (s : Octets) : Octets :=
    match (Octets.pieces '.' s).reverse with
    | e :: _ :: _ => "." ++ e
    | _ => ""
  let le (a b : Entry) : Bool :=
    match os.last? ["t", "S", "X", "v", "U", "f", "sort"] with
    | some "t" => if a.time = b.time then byName a b else decide (b.time < a.time)
    | some "S" =>
      if sizeOf a.node = sizeOf b.node then byName a b else decide (sizeOf b.node < sizeOf a.node)
    | some "X" =>
      if ending a.name = ending b.name then byName a b else decide (ending a.name < ending b.name)
    | some "U" | some "f" => true
    | _ => byName a b
  let es := es.mergeSort le
  if os.has "r" && !(os.has "U" || os.has "f") then es.reverse else es

/-- The entries of a directory that are listed. -/
def shownEntries (os : Options) (place : List Name) (es : List (Name × Node)) : Sh (List Entry) := do
  let fs ← Sh.fileSystem
  let mut out := []
  if os.has "a" || os.has "f" then
    for d in [(".", place), ("..", place.dropLast)] do
      if let some x := fs.tree.at? d.2 then
        out := out ++ [← entryOf d.1 d.2 x]
  let skips (name : Octets) : Bool :=
    (os.has "B" && name.toList.getLast? = some '~') ||
      (os.values "I" ++ os.values "hide").any fun p =>
        Pattern.accepts false (Pattern.parse false false (p.toList.map fun c => (c, false))) name.toList
  for e in es do
    let name := Octets.ofBytes e.1
    if (os.has "a" || os.has "A" || os.has "f" || !Octets.startsWith "." name) && !skips name then
      let p := place ++ [e.1]
      let node := if os.has "L" then ((fs.find true (Octets.toBytes (Sh.placeText p))).toOption.map (·.2)).getD e.2
        else e.2
      out := out ++ [← entryOf name p node]
  return orderedEntries os out

/-- Lists a directory, and with `-R` those below it; the number bounds the depth. -/
def listDirectory (os : Options) (now : Int) (heads : Bool) (path : Octets) (place : List Name)
    (es : List (Name × Node)) : Nat → Bool → Sh Unit
  | 0, _ => return ()
  | n + 1, first => do
    let shown ← shownEntries os place es
    if heads then Sh.write ((if first then "" else "\n") ++ listedName os path ++ ":\n")
    if isLong os || os.has "s" then
      Sh.write ("total " ++ Octets.ofNat (shown.map fun e => blockCount e.node).sum ++ "\n")
    writeEntries os now shown
    if os.has "R" then
      for e in shown do
        match e.node with
        | .directory _ es =>
          if e.name ≠ "." && e.name ≠ ".." then
            listDirectory os now true (below path e.name) e.place es n false
        | _ => pure ()

/-- `ls` -/
def ls : Program := fun args =>
  let u : Usage :=
    { letters := "aAbBcCdfFgGhHiI:klLmnNopqQrRsStuUvw:xXZ1"
      failure := 2
      words := [("all", "a"), ("almost-all", "A"), ("escape", "b"), ("ignore-backups", "B"),
        ("directory", "d"), ("classify", "F"), ("no-group", "G"), ("human-readable", "h"), ("inode", "i"),
        ("ignore", "I"), ("dereference", "L"), ("numeric-uid-gid", "n"), ("literal", "N"),
        ("hide-control-chars", "q"), ("quote-name", "Q"), ("reverse", "r"), ("recursive", "R"), ("size", "s"),
        ("width", "w"), ("color", "color::"), ("full-time", "full-time"), ("hide", "hide:"),
        ("time-style", "time-style:"), ("sort", "sort:"), ("file-type", "file-type"),
        ("group-directories-first", "group-directories-first"), ("format", "format:"), ("time", "time:"),
        ("quoting-style", "quoting-style:"), ("si", "h"), ("indicator-style", "indicator-style:")] }
  u.run args fun os paths => do
    let os : Options := os.flatMap fun o => match o with
      | ("sort", "time") => [("t", "")]
      | ("sort", "size") => [("S", "")]
      | ("sort", "extension") => [("X", "")]
      | ("sort", "none") => [("U", "")]
      | ("format", "long") | ("format", "verbose") => [("l", "")]
      | ("format", "commas") => [("m", "")]
      | ("format", "across") => [("x", "")]
      | ("format", "vertical") => [("C", "")]
      | ("full-time", _) => [("l", ""), o]
      | o => [o]
    let now ← presentTime
    let operands := if paths = [] then ["."] else paths
    let mut good := true
    let mut files : List Entry := []
    let mut directories : List (Entry × List (Name × Node)) := []
    let follows := os.has "L" || os.has "H" || !(os.has "d" || isLong os || os.has "F")
    for path in operands do
      let found ← match ← Sh.node? follows path with
        | .ok r => pure (.ok r)
        -- A dangling link is listed itself.
        | .error .noEntry => if os.has "L" then Sh.node? true path else Sh.node? false path
        | .error e => pure (.error e)
      match found with
      | .error e =>
        complain ("cannot access " ++ cited path ++ ": " ++ e.description)
        good := false
      | .ok (place, x) =>
        let e ← entryOf path place x
        match x with
        | .directory _ es =>
          if os.has "d" then files := files ++ [e] else directories := directories ++ [(e, es)]
        | _ => files := files ++ [e]
    if files ≠ [] then writeEntries os now (orderedEntries os files)
    let heads := 1 < operands.length || os.has "R"
    let mut first := files.isEmpty
    let ordered := orderedEntries os (directories.map (·.1))
    for e in ordered do
      match e.node with
      | .directory _ es => listDirectory os now heads e.name e.place es 100 first
      | _ => pure ()
      first := false
    return if good then 0 else 2

/-! ## Status -/

/-- A part of a format of `stat`. -/
def statPart (e : Entry) (c : Char) : Octets :=
  let path := e.name
  let x := e.node
  let time := e.time
  let moment := Moment.ofSeconds (secondsOf time)
  let full := moment.format "%Y-%m-%d %H:%M:%S.000000000 +0000"
  match c with
  | 'n' => path
  | 'N' => match x with
    | .link t => cited path ++ " -> " ++ cited (Octets.ofBytes t)
    | _ => cited path
  | 's' => Octets.ofNat (sizeOf x)
  | 'a' => Mode.octal 1 x.mode
  | 'A' => modeLetters x
  | 'f' =>
    let kind : Nat := match x with
      | .file _ _ => 0o100000 | .directory _ _ => 0o40000 | .link _ => 0o120000 | .device => 0o20000
      | .fifo _ => 0o10000
    String.ofList (Nat.toDigits 16 (kind + x.mode))
  | 'F' => kindName x
  | 'u' | 'g' => "0"
  | 'U' | 'G' => "root"
  | 'h' => Octets.ofNat e.names
  | 'i' => Octets.ofNat e.index
  | 'b' => Octets.ofNat (2 * blockCount x)
  | 'B' => "512"
  | 'o' => "4096"
  | 'm' => "/"
  | 'x' | 'y' | 'z' | 'w' => full
  | 'X' | 'Y' | 'Z' | 'W' => Octets.ofInt (secondsOf time)
  | 'd' | 'D' => "0"
  | 't' | 'T' => "0"
  | '%' => "%"
  | _ => "?"

/-- A format of `stat` filled in; with `escapes`, backslashes have a meaning. -/
def statText (escapes : Bool) (part : Char → Octets) : Nat → List Char → Octets
  | 0, _ => ""
  | _, [] => ""
  | n + 1, '%' :: r =>
    let flags := r.takeWhile fun c => "-0 #+'.".toList.elem c || c.isDigit
    match r.drop flags.length with
    | c :: r =>
      let left := flags.elem '-'
      let width := Octets.ofDigits (flags.filter Char.isDigit)
      let text := part c
      (if left then Octets.padRight width text
        else if flags.head? = some '0' then
          String.ofList (List.replicate (width - text.length) '0') ++ text
        else Octets.padLeft width text) ++ statText escapes part n r
    | [] => "%"
  | n + 1, '\\' :: r =>
    if escapes then
      match Quoting.escapeAt .bytes .format r with
      | some (cs, rest) => String.ofList cs ++ statText escapes part n rest
      | none => "\\"
    else "\\" ++ statText escapes part n r
  | n + 1, c :: r => c.toString ++ statText escapes part n r

/-- `stat` -/
def stat : Program := fun args =>
  let u : Usage :=
    { letters := "c:fLt"
      words := [("format", "c"), ("printf", "printf:"), ("file-system", "f"), ("dereference", "L"),
        ("terse", "t"), ("cached", "cached:")] }
  u.run args fun os paths => do
    if paths = [] then return ← missingOperand
    onEach paths fun path => do
      match ← Sh.node? (os.has "L") path with
      | .error e => refuse ("cannot statx " ++ cited path ++ ": " ++ e.description)
      | .ok (place, x) =>
        let part := statPart (← entryOf path place x)
        let fill (escapes : Bool) (f : Octets) : Octets := statText escapes part (f.length + 1) f.toList
        match os.value? "printf", os.value? "c" with
        | some f, _ => Sh.write (fill true f)
        | none, some f => Sh.write (fill false f ++ "\n")
        | none, none =>
          Sh.write (fill true ("  File: %N\\n  Size: %-10s\\tBlocks: %-10b IO Block: %-6o %F\\n" ++
            "Device: %d\\tInode: %-10i  Links: %h\\nAccess: (%04a/%10.10A)  Uid: (%5u/%8U)   Gid: (%5g/%8G)\\n" ++
            "Access: %x\\nModify: %y\\nChange: %z\\n Birth: %w\\n"))
        return true

end ShellCoverage.Shell.Program
