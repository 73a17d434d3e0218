import ShellCoverage.Shell.Program.Finding.Expression
import ShellCoverage.Shell.Program.Listing
import ShellCoverage.Shell.Program.Starting

/-!
# Finding files

`find` goes through the files below some directories, and tests each of them.

* `Finding.Candidate` : a file that is tested;
* `Finding.holds` : the value of an expression for a file;
* `Program.find` : finds files.
-/

namespace ShellCoverage.Shell.Finding

open Program

/-- A file that is tested. -/
structure Candidate where
  path : Octets
  /-- The path from which the search started. -/
  start : Octets
  depth : Nat
  place : List Name
  node : Node

/-- The state of a search. -/
structure Search where
  /-- Nothing below the file is looked at. -/
  prunes : Bool := false
  quits : Bool := false
  status : Nat := 0
  /-- The files for which commands are still to be run, the last first. -/
  waiting : Table Nat (List Octets) := []
  /-- The open files to which paths are written. -/
  files : Table Octets Nat := []

/-- An action of a search. -/
abbrev Seek := ReaderT Query (StateT Search Sh)

/-- Notes that something failed. -/
def fault : Seek Unit := modify fun s => { s with status := 1 }

/-- Complains about a path. -/
def complainAbout (path : Octets) (e : Errno) : Seek Unit := do
  complain (cited path ++ ": " ++ e.description)
  fault

/-- The last name in a path. -/
def baseName (path : Octets) : Octets :=
  let p := withoutSlashes path
  if p = "/" then "/" else lastName p

/-- The node to which a link leads, or the node itself if it leads nowhere. -/
def resolved (c : Candidate) : Sh Node := do
  match c.node with
  | .link _ =>
    match ← Sh.node? true c.path with
    | .ok (_, x) => return x
    | .error _ => return c.node
  | x => return x

/-- The letter for the kind of a file. -/
def kindLetter : Node → Char
  | .file _ _ => 'f'
  | .directory _ _ => 'd'
  | .link _ => 'l'
  | .device => 'c'
  | .fifo _ => 'p'

/-! ## Formats -/

/-- What a directive of a format stands for. -/
def directive (c : Candidate) (followed : Node) (e : Program.Entry) (letter : Char) : Option Octets :=
  let x := c.node
  let time := e.time
  let moment := Moment.ofSeconds (secondsOf time)
  match letter with
  | 'p' => some c.path
  | 'f' => some (baseName c.path)
  | 'h' =>
    let cs := (withoutSlashes c.path).toList
    some (if !cs.elem '/' then "." else
      String.ofList ((cs.reverse.dropWhile (· ≠ '/')).drop 1).reverse)
  | 'H' => some c.start
  | 'P' =>
    match Octets.dropHead? c.start c.path with
    | some r => some (if Octets.startsWith "/" r then String.ofList (r.toList.drop 1) else r)
    | none => some c.path
  | 's' => some (Octets.ofNat (Program.sizeOf x))
  | 'm' => some (Mode.octal 1 x.mode)
  | 'M' => some (modeLetters x)
  | 'y' => some (kindLetter x).toString
  | 'Y' => some (match followed with | .link _ => "N" | y => (kindLetter y).toString)
  | 'd' => some (Octets.ofNat c.depth)
  | 'l' => some (match x with | .link t => Octets.ofBytes t | _ => "")
  | 'n' => some (Octets.ofNat e.names)
  | 'u' | 'g' => some "root"
  | 'U' | 'G' => some "0"
  | 'i' => some (Octets.ofNat e.index)
  | 'k' => some (Octets.ofNat (blockCount x))
  | 'b' => some (Octets.ofNat (2 * blockCount x))
  | 't' | 'a' | 'c' => some (moment.format "%a %b %e %H:%M:%S.0000000000 %Y")
  | 'F' => some "overlay"
  | 'D' => some "0"
  | 'S' => some (if Program.sizeOf x = 0 then "1" else Octets.ofNat (blockCount x * 1024 / Program.sizeOf x))
  | '%' => some "%"
  | _ => none

/-- A format filled in for a file; the number bounds its length. -/
def filled (c : Candidate) (followed : Node) (e : Program.Entry) : Nat → List Char → Octets
  | 0, _ => ""
  | _, [] => ""
  | n + 1, '%' :: r =>
    let flags := r.takeWhile fun d => "-0 #+.".toList.elem d || d.isDigit
    let width := Octets.ofDigits (flags.filter Char.isDigit)
    let aligned (s : Octets) : Octets := if flags.elem '-' then Octets.padRight width s else Octets.padLeft width s
    match r.drop flags.length with
    | 'T' :: k :: r | 'A' :: k :: r | 'C' :: k :: r =>
      let moment := Moment.ofSeconds (secondsOf e.time)
      let text := if k = '@' then Octets.ofInt (secondsOf e.time) ++ ".0000000000"
        else if k = '+' then moment.format "%Y-%m-%d+%H:%M:%S.0000000000"
        else if k = 'S' then moment.format "%S.0000000000"
        else moment.format (String.ofList ['%', k])
      aligned text ++ filled c followed e n r
    | k :: r =>
      (match directive c followed e k with
        | some s => aligned s
        | none => String.ofList ('%' :: flags ++ [k])) ++ filled c followed e n r
    | [] => "%"
  | n + 1, '\\' :: r =>
    match r with
    | 'c' :: _ => ""
    | _ =>
      match Quoting.escapeAt .bytes .format r with
      | some (cs, rest) => String.ofList cs ++ filled c followed e n rest
      | none => "\\" ++ filled c followed e n r
  | n + 1, d :: r => d.toString ++ filled c followed e n r

/-! ## Commands -/

variable (launch : Launch)

/-- Runs a command in a process of its own, from a directory if one is given, and gives its status. -/
def runIn (dir : Option Octets) (command : List Octets) : Sh Nat := do
  let env ← environment
  let pid ← startWith [] do
    if let some d := dir then
      if let .ok (place, _) ← Sh.node? true d then
        Sh.change fun p => { p with cwd := place, cwdPath := Sh.placeText place }
    runCommandOr launch command env fun e =>
      complain (cited (command.headD "") ++ ": " ++ e.description)
  return (← Sh.awaitEnd pid).status

/-- The path of a file for a command: from its directory or not. -/
def pathFor (inside : Bool) (c : Candidate) : Octets :=
  if inside then "./" ++ baseName c.path else c.path

/-- The directory from which a command is run. -/
def directoryFor (inside : Bool) (c : Candidate) : Option Octets :=
  if inside then some (directoryName c.path) else none

/-- An argument with the path of a file in it. -/
def argumentFor (path argument : Octets) : Octets :=
  String.ofList (Program.substitute "\x7b\x7d".toList path.toList (argument.length + 1) argument.toList)

/-- Runs the commands for the files that wait for them. -/
def runWaiting (e : Expression) : Seek Unit := do
  for p in e.predicates do
    if let .runMany id _ command := p then
      let paths := (Table.get? id (← get).waiting).getD []
      modify fun s => { s with waiting := Table.erase id s.waiting }
      if paths ≠ [] then
        if (← runIn launch none (command ++ paths.reverse)) ≠ 0 then fault

/-! ## Tests -/

/-- Removes a file. -/
def remove (c : Candidate) : Seek Bool := do
  if c.path = "." || c.path = ".." then return true
  match (← Sh.fileSystem).tree.at? c.place with
  | none =>
    complain ("cannot delete " ++ cited c.path ++ ": No such file or directory")
    fault
    return false
  | some x =>
    let full : Bool := match x with
      | .directory _ es => !es.isEmpty
      | _ => false
    let e? ← if full then pure (some Errno.notEmpty) else put c.place none
    match e? with
    | some e =>
      complain ("cannot delete " ++ cited c.path ++ ": " ++ e.description)
      fault
      return false
    | none =>
      if x.isDirectory then noteMove c.place none
      return true

/-- The file to which paths are written is open. -/
def outputTo (path : Octets) : Seek (Option Nat) := do
  match Table.get? path (← get).files with
  | some i => return some i
  | none =>
    match ← Sh.openFile path (.writing true) with
    | .ok i =>
      modify fun s => { s with files := (path, i) :: s.files }
      return some i
    | .error e =>
      complainAbout path e
      return none

/-- A row of a long listing. -/
def row (c : Candidate) : Sh Octets := do
  let e ← Program.entryOf c.path c.place c.node
  let blocks := Octets.padLeft 6 (Octets.ofNat (blockCount c.node))
  let head := Octets.padLeft 9 (Octets.ofNat e.index) ++ " " ++ blocks ++ " " ++
    modeLetters c.node ++ " " ++ Octets.padLeft 3 (Octets.ofNat e.names) ++ " root     root     " ++
    Octets.padLeft 8 (Octets.ofNat (Program.sizeOf c.node)) ++ " " ++ listedTime [] (← presentTime) e.time ++ " "
  return head ++ nameWithTarget [] e

/-- The value of a predicate for a file. -/
def fits (c : Candidate) : Predicate → Seek Bool
  | .always b => return b
  | .name fold p => return Pattern.accepts fold p (baseName c.path).toList
  | .path fold p => return Pattern.accepts fold p c.path.toList
  | .target fold p =>
    return match c.node with
      | .link t => Pattern.accepts fold p (Octets.ofBytes t).toList
      | _ => false
  | .matching fold r =>
    return ((Regex.longestAt? { fold } c.path.toList r ⟨0, none, c.path.toList, []⟩).any fun q =>
      q.position = c.path.length)
  | .kind follows letters => do
    let x ← if follows then resolved c else pure c.node
    return letters.elem (kindLetter x)
  | .size b unit => return b.admits ((Program.sizeOf c.node + unit - 1) / unit)
  | .empty =>
    return match c.node with
      | .file _ content => content.isEmpty
      | .directory _ es => es.isEmpty
      | _ => false
  | .newer path => do
    match ← Sh.node? true path with
    | .ok (place, _) => return decide ((← changeTime place) < (← changeTime c.place))
    | .error _ => return false
  | .since moment => return decide (moment < secondsOf (← changeTime c.place))
  | .age b unit => do
    let age := ((← presentTime) - secondsOf (← changeTime c.place)).toNat
    if unit = 60 then
      return match b with
        | .exactly n => decide (n * 60 < age + 60 && age ≤ n * 60)
        | .above n => decide (n * 60 < age)
        | .below n => decide (age < n * 60)
    return b.admits (age / unit)
  | .mode how bits =>
    let m := c.node.mode
    return match how with
      | .equal => m = bits
      | .allOf => m &&& bits = bits
      | .anyOf => bits = 0 || m &&& bits ≠ 0
  | .access a => do
    let x ← resolved c
    return match a, x with
      | _, .link _ => false
      | .reading, x => x.isReadable
      | .writing, x => x.isWritable
      | .executing, x => x.isExecutable
  | .names b => return b.admits (← Program.entryOf c.path c.place c.node).names
  | .index b => return b.admits (← Program.entryOf c.path c.place c.node).index
  | .same path => do
    match ← Sh.node? false path with
    | .ok (place, _) => return ((← Sh.world).namesOf place).elem c.place
    | .error _ => return false
  | .prune => do
    modify fun s => { s with prunes := true }
    return true
  | .quit => do
    modify fun s => { s with quits := true }
    return true
  | .print ending => do
    Sh.write (c.path ++ ending)
    return true
  | .printTo path ending => do
    if let some i ← outputTo path then discard (Sh.writeFile i (c.path ++ ending))
    return true
  | .format f => do
    Sh.write (filled c (← resolved c) (← Program.entryOf c.path c.place c.node) (f.length + 1) f)
    return true
  | .list => do
    Sh.write ((← row c) ++ "\n")
    return true
  | .delete => remove c
  | .run inside command => do
    let argv := command.map (argumentFor (pathFor inside c))
    return (← runIn launch (directoryFor inside c) argv) = 0
  | .runMany id inside command => do
    if inside then
      if (← runIn launch (directoryFor inside c) (command ++ [pathFor inside c])) ≠ 0 then fault
      return true
    modify fun s =>
      { s with waiting := Table.insert id (c.path :: (Table.get? id s.waiting).getD []) s.waiting }
    return true
  | .ask inside command => do
    Sh.complain ("< " ++ command.headD "" ++ " ... " ++ c.path ++ " > ? ")
    match ← Sh.readLine? 0 '\n' with
    | some (d :: _) =>
      if d ≠ 'y' && d ≠ 'Y' then return false
      return (← runIn launch (directoryFor inside c) (command.map (argumentFor (pathFor inside c)))) = 0
    | _ => return false

/-- The value of an expression for a file. Nothing more is done once the search has ended. -/
def holds (c : Candidate) : Expression → Seek Bool
  | .test p => do if (← get).quits then return false else fits launch c p
  | .not e => return !(← holds c e)
  | .both a b => do if ← holds c a then holds c b else return false
  | .either a b => do if ← holds c a then return true else holds c b
  | .list a b => do
    discard (holds c a)
    holds c b

/-! ## Searching -/

/-- The number of directories that are within each other at most. -/
def maxDepth : Nat := 200

/-- Tests a file and those below it, which may be so deep. -/
def visit (e : Expression) : Nat → Candidate → Seek Unit
  | 0, _ => return ()
  | n + 1, c => do
    let q ← readThe Query
    if (← get).quits then return
    let tested := q.least ≤ c.depth
    if tested && !q.insideFirst then
      modify fun s => { s with prunes := false }
      discard (holds launch c e)
    let prunes := (← get).prunes && tested && !q.insideFirst
    if c.node.isDirectory && !prunes && !q.most.any (· ≤ c.depth) then
      match (← Sh.fileSystem).tree.at? c.place with
      | none => if !(← get).quits then complainAbout c.path .noEntry
      | some x =>
        if !x.isReadable then complainAbout c.path .accessDenied
        else if let .directory _ es := x then
          for (name, _) in es do
            let place := c.place ++ [name]
            match (← Sh.fileSystem).tree.at? place with
            | none => pure ()
            | some y =>
              let path := below c.path (Octets.ofBytes name)
              let y ← if q.follows then resolved ⟨path, c.start, 0, place, y⟩ else pure y
              visit e n ⟨path, c.start, c.depth + 1, place, y⟩
    if tested && q.insideFirst then discard (holds launch c e)

/-- Searches from the places from which a query starts, and gives the status. -/
def search (q : Query) : Sh Nat := do
  let go : Seek Unit := do
    for start in q.starts do
      if !(← get).quits then
        match ← Sh.node? (q.follows || q.followsStarts) start with
        | .ok (place, node) => visit launch q.expression maxDepth ⟨start, start, 0, place, node⟩
        | .error e => complainAbout start e
    runWaiting launch q.expression
  let ((), s) ← (go.run q).run {}
  return s.status

/-- The files with which others are compared have to be there. -/
def missing? (q : Query) : Sh (Option (Octets × Errno)) := do
  for p in q.expression.predicates do
    match p with
    | .newer path | .same path =>
      if let .error e ← Sh.node? true path then return some (path, e)
    | _ => pure ()
  return none

end Finding

namespace Program

/-- `find` -/
def find (launch : Launch) : Program := fun args => do
  if args.head? = some "--version" || args.head? = some "-version" then
    Sh.write "find (GNU findutils) 4.9.0\n"
    return 0
  match Finding.read (← presentTime) args with
  | .error e =>
    complain e
    return 1
  | .ok q =>
    match ← Finding.missing? q with
    | some (path, e) =>
      complain (cited path ++ ": " ++ e.description)
      return 1
    | none => Finding.search launch q

end Program

end ShellCoverage.Shell
