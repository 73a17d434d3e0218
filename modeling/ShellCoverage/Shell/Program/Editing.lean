import ShellCoverage.Shell.Program.Editing.Reader
import ShellCoverage.Shell.Program.Feed
import ShellCoverage.Shell.Program.Basic
import ShellCoverage.Shell.Program.Starting

/-!
# Editing

A script is carried out for each line: the line goes to the pattern space, the commands work on it, and it is
written at the end. What is to follow it waits in a queue until then.

* `Editing.Editor` : the spaces, the input and the outputs;
* `Editing.runCommands` : the commands of a script for a line;
* `Program.sed` : edits the lines of files.
-/

namespace ShellCoverage.Shell.Editing

open Program

/-! ## Spaces and outputs -/

/-- A text without its last line feed, and whether it has one. -/
structure Space where
  text : List Char := []
  complete : Bool := true

/-- Where texts are written. -/
inductive Target where
  | descriptor (fd : Nat)
  | file (i : Nat)
  /-- Texts that are kept until the file that is edited has ended, the last one first. -/
  | kept (texts : List Octets)

/-- Where texts are written, and whether the last one was a line without its line feed. -/
structure Output where
  target : Target
  lacksFeed : Bool := false

/-- What follows the line that is edited. -/
inductive Follower where
  | text (s : Octets)
  | file (path : Octets)

/-- How a script is carried out. -/
structure Settings where
  script : Script
  charset : Charset := .bytes
  silent : Bool := false
  /-- Each file has lines of its own. -/
  separate : Bool := false
  /-- The files themselves are edited; the old ones are kept under names with this ending, if it is not
  empty. -/
  ending : Option Octets := none
  width : Nat := 70
  delimiter : Char := '\n'
  hesitant : Bool := false

/-- The state of an editor. -/
structure Editor where
  space : Space := {}
  hold : Space := {}
  number : Nat := 0
  /-- There was a substitution since the last line was read. -/
  replaced : Bool := false
  /-- The commands in whose range of lines the line is, and the last lines of these, as far as they are
  known. -/
  ranges : Table Nat (Option Nat) := []
  /-- What follows the line, the last first. -/
  queue : List Follower := []
  /-- The files that were not opened yet. -/
  paths : List Octets := []
  source : Option (Octets × Feed) := none
  main : Output := { target := .descriptor 1 }
  files : Table Octets Output := []
  /-- The files from which lines are taken. -/
  sources : Table Octets Feed := []
  search : Option Search := none
  status : Nat := 0

/-- An action of an editor. -/
abbrev Edit := ReaderT Settings (StateT Editor Sh)

/-- Writes to an output. -/
def Output.put (text : Octets) (o : Output) : Sh Output := do
  match o.target with
  | .descriptor fd =>
    discard (Sh.writeTo fd text)
    return o
  | .file i =>
    discard (Sh.writeFile i text)
    return o
  | .kept texts => return { o with target := .kept (text :: texts) }

/-- Changes an output: that to a file, or the main one. -/
def changeOutput (path : Option Octets) (act : Output → Sh Output) : Edit Unit := do
  let s ← get
  match path with
  | none =>
    let main ← act s.main
    set { s with main }
  | some p =>
    if let some o := Table.get? p s.files then
      let o ← act o
      set { s with files := Table.insert p o s.files }

/-- Writes a text to an output, after the line feed that is missing there. -/
def putText (path : Option Octets) (text : Octets) : Edit Unit := do
  let feed := (← read).delimiter.toString
  changeOutput path fun o => do
    let o ← if o.lacksFeed then Output.put feed { o with lacksFeed := false } else pure o
    if text = "" then return o else o.put text

/-- Writes a line to an output. -/
def putLine (path : Option Octets) (line : List Char) (complete : Bool := true) : Edit Unit := do
  let feed := (← read).delimiter
  let line := (← read).charset.octets line
  putText path (String.ofList (if complete then line ++ [feed] else line))
  if !complete then changeOutput path fun o => return { o with lacksFeed := true }

/-- Writes the pattern space. -/
def putSpace (path : Option Octets := none) : Edit Unit := do
  let s := (← get).space
  putLine path s.text s.complete

/-- Ends with a message. -/
def stopWith {α : Type} (message : Octets) (status : Nat) : Edit α := do
  complain message
  throw (.exited status)

/-! ## Input -/

/-- The ranges in which a file begins: those from the line zero. -/
def startRanges (s : Script) : Table Nat (Option Nat) :=
  s.commands.toList.zipIdx.filterMap fun (c, i) => match c.first, c.limit with
    | some (.line 0), some _ => some (i, none)
    | _, _ => none

/-- The name for the old version of a file. -/
def backupPath (path ending : Octets) : Octets :=
  let name := lastName path
  let dir := String.ofList (path.toList.take (path.length - name.length))
  if Octets.has '*' ending then
    let new := Octets.join name (Octets.pieces '*' ending)
    if Octets.has '/' new then new else dir ++ new
  else dir ++ name ++ ending

/-- Ends the work on a file: if it is edited itself, its new content is written. -/
def closeSource : Edit Unit := do
  let s ← get
  let some (path, feed) := s.source | return ()
  feed.close
  set { s with source := none }
  if let (some ending, .kept texts) := ((← read).ending, s.main.target) then
    if let .ok (place, .file mode old) ← Sh.node? true path then
      if ending ≠ "" then
        discard (writeOutput (backupPath path ending) (Octets.ofBytes old))
      let new := Octets.toBytes (String.join texts.reverse)
      discard (replace place (.file mode new))
    modify fun s => { s with main := { target := .descriptor 1 } }

/-- Opens the next file, if there is one. -/
def openNext : Edit Bool := do
  let s ← get
  let x ← read
  match s.paths with
  | [] => return false
  | path :: paths =>
    set { s with paths }
    match ← Feed.open? path x.hesitant with
    | .error e =>
      if path = "-" then stopWith ("read error on stdin: " ++ e.description) 4
      complain ("can't read " ++ path ++ ": " ++ e.description)
      modify fun s => { s with status := 2 }
    | .ok feed =>
      let refused ← refusal? feed.fd
      if x.ending.isSome then
        if refused.isSome || !(← isSeekable feed.fd) then
          stopWith ("couldn't edit " ++ path ++ ": not a regular file") 4
        modify fun s => { s with main := { target := .kept [] } }
      if let some e := refused then
        stopWith ("read error on " ++ (if path = "-" then "stdin" else path) ++ ": " ++ e.description) 4
      modify fun s => { s with source := some (path, feed) }
      if x.separate then
        modify fun s => { s with number := 0, hold := {}, ranges := startRanges x.script, sources := [] }
    return true

/-- There is a line in the file that is read. -/
def sourceHasMore : Edit Bool := do
  match (← get).source with
  | none => return false
  | some (path, feed) =>
    let (more, feed) ← feed.hasMore
    modify fun s => { s with source := some (path, feed) }
    return more

/-- There is a line in the file that is read, or in one of so many that follow, of which the first that has
one is opened. -/
def hasMoreWithin (onlyHere : Bool) : Nat → Edit Bool
  | 0 => return false
  | n + 1 => do
    if ← sourceHasMore then return true
    if onlyHere then return false
    closeSource
    if ← openNext then hasMoreWithin onlyHere n else return false

/-- The line is the last one. -/
def isLast : Edit Bool := do
  return !(← hasMoreWithin (← read).separate ((← get).paths.length + 2))

/-- Writes what follows the line. -/
def flushQueue : Edit Unit := do
  let queue := (← get).queue.reverse
  modify fun s => { s with queue := [] }
  for x in queue do
    match x with
    | .text s => putText none s
    | .file path =>
      match ← input path with
      | .ok s => putText none s
      | .error _ => putText none ""

/-- The next line, if there is one. -/
def nextLine? : Edit (Option Space) := do
  flushQueue
  modify fun s => { s with replaced := false }
  if !(← hasMoreWithin false ((← get).paths.length + 2)) then return none
  let x ← read
  let some (path, feed) := (← get).source | return none
  let (line?, feed) ← feed.take? (cutAt x.delimiter)
  modify fun s => { s with source := some (path, feed), number := s.number + 1 }
  let some line := line? | return none
  if line.getLast? = some x.delimiter then return some { text := x.charset.chars line.dropLast }
  return some { text := x.charset.chars line, complete := false }

/-- Takes the next line into the pattern space, if there is one. -/
def readSpace : Edit Bool := do
  match ← nextLine? with
  | none => return false
  | some space =>
    modify fun s => { s with space }
    return true

/-! ## Searching -/

/-- What to search for, if that is the same as the last time. -/
def searchOf (x : Option Search) : Edit Search := do
  match x with
  | some x =>
    modify fun s => { s with search := some x }
    return x
  | none =>
    match (← get).search with
    | some x => return x
    | none => stopWith "-e expression #1, char 0: no previous regular expression" 1

/-- An address means the line. -/
def isMeant (a : Address) : Edit Bool := do
  let s ← get
  match a with
  | .line n => return s.number = n
  | .step first size => return first ≤ s.number && (s.number - first) % size = 0
  | .last => isLast
  | .matching x =>
    let x ← searchOf x
    return (Regex.search? x.manner x.expression s.space.text 0).isSome

/-- The range of a command begins with the line: the last line of it, if that is known. -/
def startRange (i : Nat) (stop : Option Nat) : Edit Unit :=
  modify fun s => { s with ranges := Table.insert i stop s.ranges }

/-- The range of a command has ended. -/
def endRange (i : Nat) : Edit Unit := modify fun s => { s with ranges := Table.erase i s.ranges }

/-- The command with some index is for the line. -/
def isSelected (i : Nat) (c : Command) : Edit Bool := do
  let n := (← get).number
  match c.limit, Table.get? i (← get).ranges with
  | none, _ =>
    match c.first with
    | none => return true
    | some a => isMeant a
  | some _, some (some stop) =>
    if stop ≤ n then endRange i
    return n ≤ stop
  | some limit, some none =>
    if let .address a := limit then
      if ← isMeant a then endRange i
    return true
  | some limit, none =>
    let some first := c.first | return true
    if !(← isMeant first) then return false
    match limit with
    | .address (.line m) => if n < m then startRange i (some m)
    | .address _ => startRange i none
    | .later m => if m ≠ 0 then startRange i (some (n + m))
    | .multiple m => if m ≠ 0 then startRange i (some ((n / m + 1) * m))
    return true

/-! ## Substitutions -/

/-- A letter as it is written. -/
def Casing.apply (k : Charset) : Casing → Char → Char
  | .asIs, c => c
  | .upper, c => k.upper c
  | .lower, c => k.lower c

/-- How the letters that follow are written: all of them, and the next one. -/
structure Style where
  all : Casing := .asIs
  next : Casing := .asIs

/-- Letters as they are written, and how the following ones are. -/
def Style.write (k : Charset) (s : Style) : List Char → List Char × Style
  | [] => ([], s)
  | c :: cs =>
    let first := if s.next = .asIs then s.all.apply k c else s.next.apply k c
    (first :: cs.map (s.all.apply k), { s with next := .asIs })

/-- What is put in place of a match. -/
def replacementOf (k : Charset) (m : Regex.Match) (text : List Char) : Style → List Part → List Char
  | _, [] => []
  | s, p :: ps =>
    match p with
    | .text cs =>
      let (cs, s) := s.write k (k.chars cs)
      cs ++ replacementOf k m text s ps
    | .group n =>
      let (cs, s) := s.write k (m.groupText text n)
      cs ++ replacementOf k m text s ps
    | .casing c => replacementOf k m text { all := c } ps
    | .nextCasing c => replacementOf k m text { s with next := c } ps

/-- A text with matches replaced. -/
def replace (k : Charset) (parts : List Part) (text : List Char) (ms : List Regex.Match) : List Char :=
  go ms 0 text
where
  /-- The rest of the text after a position, with the matches in it replaced. -/
  go : List Regex.Match → Nat → List Char → List Char
    | [], _, rest => rest
    | m :: ms, position, rest =>
      let before := m.start - position
      rest.take before ++ replacementOf k m text {} parts ++
        go ms (m.start + m.length) (rest.drop (before + m.length))

/-- The matches that a substitution replaces. -/
def matchesOf (s : Substitution) (x : Search) (text : List Char) : List Regex.Match :=
  match s.global, s.number with
  | false, none => (Regex.search? x.manner x.expression text 0).toList
  | false, some n => ((Regex.allMatches x.manner x.expression text).drop (n - 1)).take 1
  | true, n => (Regex.allMatches x.manner x.expression text).drop (n.getD 1 - 1)

/-! ## Commands -/

/-- How a line goes on after a command. -/
inductive Turn where
  /-- With the command at an index. -/
  | goOn (i : Nat)
  /-- The work on the line is done, and the pattern space is written or not. -/
  | done (prints : Bool)
  /-- The commands are carried out again on what is left of the pattern space. -/
  | again
  | quit (prints : Bool) (status : Nat)

/-- Characters as the listing of a line shows them. -/
def listed (c : Char) : List Char :=
  if c = '\\' then ['\\', '\\']
  else if Quoting.isVisible c then [c]
  else
    match Quoting.controlLetter? c with
    | some l => if l = 'E' then "\\033".toList else ['\\', l]
    | none => '\\' :: Quoting.octal c.toNat

/-- The listing of a line, broken into lines of some width. -/
def listing (width : Nat) : List Char → Nat → List Char
  | [], _ => ['$']
  | c :: cs, column =>
    let shown := listed c
    if 0 < width && width < column + shown.length + 1 then
      '\\' :: '\n' :: shown ++ listing width cs shown.length
    else shown ++ listing width cs (column + shown.length)

variable (launch : Launch)

/-- What the commands in a text write. -/
def outputOf (command : List Char) : Edit Octets := do
  let (out, _) ← capture launch (String.ofList command)
  return out

/-- Replaces the pattern space by what it writes as a command. -/
def evaluateSpace : Edit Unit := do
  let k := (← read).charset
  let out ← outputOf launch (k.octets (← get).space.text)
  let feed := (← read).delimiter
  let text := if out.toList.getLast? = some feed then out.toList.dropLast else out.toList
  modify fun s => { s with space := { s.space with text := k.chars text } }

/-- Carries out a substitution. -/
def substitute (x : Substitution) : Edit Unit := do
  let target ← searchOf x.search
  let text := (← get).space.text
  match matchesOf x target text with
  | [] => return ()
  | ms =>
    let text := replace (← read).charset x.replacement text ms
    modify fun s => { s with replaced := true, space := { s.space with text } }
    if x.printsFirst then putSpace
    if x.evaluates then evaluateSpace launch
    if x.prints then putSpace
    if let some path := x.file then putSpace (some path)

/-- Takes a line of another file, if there is one. -/
def lineOf? (path : Octets) : Edit (Option (List Char)) := do
  let feed? ← match Table.get? path (← get).sources with
    | some feed => pure (some feed)
    | none =>
      match ← Feed.open? path with
      | .ok feed => pure (some feed)
      | .error _ => pure none
  let some feed := feed? | return none
  let (line?, feed) ← feed.take? (cutAt (← read).delimiter)
  modify fun s => { s with sources := Table.insert path feed s.sources }
  return line?

/-- Lets something follow the line. -/
def enqueue (x : Follower) : Edit Unit := modify fun s => { s with queue := x :: s.queue }

/-- The part of a text before its first line feed, and that after it, if there is one. -/
def firstLine (feed : Char) (cs : List Char) : List Char × Option (List Char) :=
  let before := cs.takeWhile (· ≠ feed)
  match cs.drop before.length with
  | [] => (before, none)
  | _ :: rest => (before, some rest)

/-- Carries out the action of the command with some index. -/
def perform (i : Nat) (a : Action) : Edit Turn := do
  let x ← read
  let s ← get
  let feed := x.delimiter
  let next : Turn := .goOn (i + 1)
  match a with
  | .block _ | .nothing => return next
  | .lineNumber =>
    putText none (Octets.ofNat s.number ++ "\n")
    return next
  | .append text =>
    enqueue (.text (String.ofList text))
    return next
  | .insert text =>
    putText none (String.ofList text)
    return next
  | .change text =>
    if !Table.has i s.ranges then putText none (String.ofList text)
    return .done false
  | .jump c label =>
    let jumps := match c with
      | .always => true
      | .replaced => s.replaced
      | .notReplaced => !s.replaced
    if c ≠ .always then set { s with replaced := false }
    if !jumps then return next
    return .goOn ((Table.get? label x.script.labels).getD x.script.commands.size)
  | .delete => return .done false
  | .deleteFirst =>
    match (firstLine feed s.space.text).2 with
    | none => return .done false
    | some rest =>
      set { s with space := { s.space with text := rest } }
      return .again
  | .evaluate =>
    evaluateSpace launch
    return next
  | .execute command =>
    putText none (← outputOf launch command)
    return next
  | .fileName =>
    putText none ((s.source.map (·.1)).getD "-" ++ "\n")
    return next
  | .get =>
    set { s with space := s.hold }
    return next
  | .getMore =>
    set { s with space := { s.hold with text := s.space.text ++ feed :: s.hold.text } }
    return next
  | .hold =>
    set { s with hold := s.space }
    return next
  | .holdMore =>
    set { s with hold := { s.space with text := s.hold.text ++ feed :: s.space.text } }
    return next
  | .exchange =>
    set { s with space := s.hold, hold := s.space }
    return next
  | .list width =>
    putText none (String.ofList (listing (width.getD x.width) (x.charset.octets s.space.text) 0) ++ "\n")
    return next
  | .nextLine =>
    if ← isLast then return .done true
    if !x.silent then putSpace
    if ← readSpace then return next else return .done false
  | .nextMore =>
    if ← isLast then return .done true
    match ← nextLine? with
    | none => return .done true
    | some line =>
      modify fun t =>
        { t with space := { line with text := s.space.text ++ feed :: line.text } }
      return next
  | .print =>
    putSpace
    return next
  | .printFirst =>
    putLine none (firstLine feed s.space.text).1
    return next
  | .quit prints status => return .quit prints status
  | .readFile path =>
    enqueue (.file path)
    return next
  | .readLine path =>
    if let some line := ← lineOf? path then enqueue (.text (String.ofList line))
    return next
  | .substitute y =>
    substitute launch y
    return next
  | .translate pairs =>
    let text := s.space.text.map fun c => (pairs.lookup c).getD c
    set { s with space := { s.space with text } }
    return next
  | .write path =>
    putSpace (some path)
    return next
  | .writeFirst path =>
    putLine (some path) (firstLine feed s.space.text).1
    return next
  | .clear =>
    set { s with space := { s.space with text := [] } }
    return next

/-- Carries out the commands from an index on; so many of them at most. -/
def runCommands : Nat → Nat → Edit Turn
  | 0, _ => throw .stopped
  | n + 1, i => do
    match (← read).script.commands[i]? with
    | none => return .done true
    | some c =>
      let applies := (← isSelected i c) != c.negated
      let turn ← match applies, c.action with
        | true, a => perform launch i a
        | false, .block stop => pure (.goOn stop)
        | false, _ => pure (.goOn (i + 1))
      match turn with
      | .goOn j => runCommands n j
      | t => return t

/-- The number of commands that are carried out for a line at most. -/
def maxSteps : Nat := 10000000

/-- Edits so many lines at most, and gives the status; the pattern space may hold a line already. -/
def runCycles : Nat → Bool → Edit Nat
  | 0, _ => throw .stopped
  | n + 1, hasLine => do
    let silent := (← read).silent
    let hasLine ← if hasLine then pure true else readSpace
    if !hasLine then
      closeSource
      return (← get).status
    match ← runCommands launch maxSteps 0 with
    | .goOn _ => throw .stopped
    | .again => runCycles n true
    | .done prints =>
      if prints && !silent then putSpace
      runCycles n false
    | .quit prints status =>
      if prints then
        if !silent then putSpace
        putText none ""
        flushQueue
      if let some (_, feed) := (← get).source then feed.giveBack
      closeSource
      let failure := (← get).status
      return if status = 0 then failure else status

end Editing

namespace Program

open Editing

/-- The texts of the script that options give, in order. -/
def scriptTexts : List (Octets × Octets) → Nat → Sh (List (Editing.Origin × Octets))
  | [], _ => return []
  | (key, value) :: os, n => do
    if key = "e" then return (.expression n, value) :: (← scriptTexts os (n + 1))
    if key ≠ "f" then return ← scriptTexts os n
    match ← input value with
    | .ok s => return (.file value, s) :: (← scriptTexts os n)
    | .error e =>
      complain ("couldn't open file " ++ value ++ ": " ++ e.description)
      throw (.exited 4)

/-- The outputs to the files of a script, which are made empty. -/
def scriptOutputs : List Octets → Sh (Table Octets Output)
  | [] => return []
  | path :: paths => do
    let output ← match path with
      | "/dev/stdout" => pure { target := .descriptor 1 }
      | "/dev/stderr" => pure { target := .descriptor 2 }
      | _ =>
        match ← Sh.openFile path (.writing true) with
        | .ok i => pure { target := .file i }
        | .error e =>
          complain ("couldn't open file " ++ path ++ ": " ++ e.description)
          throw (.exited 4)
    return (path, output) :: (← scriptOutputs paths)

/-- Says how the editor is called. -/
def editorUsage (status : Nat) : Sh Nat := do
  Sh.complain ("Usage: " ++ (← ownName) ++
    " [OPTION]... \x7bscript-only-if-no-other-script\x7d [input-file]...\n\n")
  return status

/-- The options of `sed`. -/
def editorOptions : Usage :=
  { letters := "bsnrzuEe:f:l:i::h"
    package := "GNU sed"
    release := "4.9"
    words := [("binary", "b"), ("regexp-extended", "r"), ("debug", "debug"), ("in-place", "i"),
      ("expression", "e"), ("file", "f"), ("line-length", "l"), ("null-data", "z"),
      ("zero-terminated", "z"), ("quiet", "n"), ("posix", "p"), ("silent", "n"), ("sandbox", "sandbox"),
      ("separate", "s"), ("unbuffered", "u"), ("follow-symlinks", "follow-symlinks")] }

/-- `sed` -/
def sed (launch : Launch) : Program := fun args => do
  if let .error e := editorOptions.parse args then
    complain e
    return ← editorUsage 1
  editorOptions.run args fun os rest => do
    let given := os.filter fun o => o.1 = "e" || o.1 = "f"
    if given = [] && rest = [] then return ← editorUsage 1
    let texts ← if given = [] then pure [(Editing.Origin.expression 1, rest.headD "")] else scriptTexts given 1
    let paths := if given = [] then rest.tail else rest
    let k ← Sh.charset
    match readScript k (os.has "E" || os.has "r") texts with
    | .error e =>
      complain e.message
      return e.status
    | .ok script =>
      let files ← scriptOutputs script.files
      let settings : Settings :=
        { script
          charset := k
          silent := os.has "n" || script.silent
          separate := os.has "s" || os.has "i"
          ending := os.value? "i"
          width := ((os.value? "l").bind Octets.natural?).getD 70
          delimiter := if os.has "z" then '\x00' else '\n'
          hesitant := os.has "u" }
      if settings.ending.isSome && paths = [] then
        complain "no input files"
        return 4
      let start : Editor := { paths := orStandard paths, files, ranges := startRanges script }
      let (status, _) ← ((runCycles launch Sh.maxReads false).run settings).run start
      return status

end Program

end ShellCoverage.Shell
