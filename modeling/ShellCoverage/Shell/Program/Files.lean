import ShellCoverage.Shell.Calendar.Phrase
import ShellCoverage.Shell.Parameters
import ShellCoverage.Shell.Program.Copying
import ShellCoverage.Shell.Program.Mode
import ShellCoverage.Shell.Program.Basic
import ShellCoverage.Shell.Testing

/-!
# Programs on files

Programs that make, copy, move, change and take away files: `mkdir`, `rmdir`, `rm`, `touch`, `cp`, `mv`, `ln`,
`install`, `chmod`, `chown`, `mkfifo`, `truncate`, `link` and `unlink`.

* `Program.spot?` : the place that a path names, which is not followed if there is a link.
-/

namespace ShellCoverage.Shell.Program

/-! ## Places -/

/-- A path without its last name. -/
def directoryName (path : Octets) : Octets :=
  let cs := path.toList.reverse.dropWhile (· = '/')
  let head := (cs.dropWhile (· ≠ '/')).dropWhile (· = '/')
  if cs = [] && path ≠ "" then "/"
  else if head = [] then
    if cs.elem '/' then "/" else "."
  else String.ofList head.reverse

/-- A name below a directory. -/
def below (dir name : Octets) : Octets :=
  if dir.toList.getLast? = some '/' then dir ++ name else dir ++ "/" ++ name

/-- A path without slashes at its end. -/
def withoutSlashes (path : Octets) : Octets :=
  match path.toList.reverse.dropWhile (· = '/') with
  | [] => if path = "" then "" else "/"
  | cs => String.ofList cs.reverse

/-- The place that a path names and what is there; a link at its end is not followed. -/
def spot? (path : Octets) : Sh (Except Errno (List Name × Option Node)) := do
  let name := lastName path
  if ["", "/", ".", ".."].elem name then
    return (← Sh.node? true path).map fun p => (p.1, some p.2)
  match ← Sh.node? true (directoryName path) with
  | .error e => return .error e
  | .ok (dir, x) =>
    if !x.isDirectory then return .error .notDirectory
    let n := Octets.toBytes name
    match x.child? n with
    | none => return .ok (dir ++ [n], none)
    | some y =>
      if path.toList.getLast? = some '/' then
        match ← Sh.node? true path with
        | .error e => return .error e
        | .ok (_, z) => if !z.isDirectory then return .error .notDirectory
      return .ok (dir ++ [n], some y)

/-- The mode that is masked when files are made. -/
def maskedMode : Sh Nat := return (← Sh.process).maskedMode

/-- A node with another mode. -/
def withMode (mode : Nat) : Node → Node
  | .file _ content => .file mode content
  | .directory _ es => .directory mode es
  | x => x

/-- Changes the mode of what is at a place. -/
def setMode (place : List Name) (mode : Nat) : Sh Unit :=
  Sh.changeWorld fun w =>
    match w.node? place with
    | some x => w.setNode place (withMode mode x)
    | none => w

/-- Reads an answer and tells whether it is yes. -/
def isAffirmed (question : Octets) : Sh Bool := do
  Sh.complain ((← ownName) ++ ": " ++ question ++ " ")
  match ← Sh.readLine? 0 '\n' with
  | some (c :: _) => return c = 'y' || c = 'Y'
  | _ => return false

/-! ## Directories -/

/-- The paths above a path, the shortest first, and the path itself. -/
def ancestors (path : Octets) : List Octets :=
  let absolute := Octets.startsWith "/" path
  let names := (Octets.pieces '/' path).filter (· ≠ "")
  (List.range names.length).map fun i =>
    (if absolute then "/" else "") ++ Octets.join "/" (names.take (i + 1))

/-- Makes a directory, or tells why there is none. -/
def makeDirectory (path : Octets) (mode : Nat) : Sh (Option Errno) := do
  match ← spot? path with
  | .error e => return some e
  | .ok (_, some _) => return some .alreadyExists
  | .ok (place, none) => put place (some (.directory mode []))

/-- `mkdir` -/
def mkdir : Program := fun args =>
  let u : Usage := { letters := "m:pvZ", words := [("mode", "m"), ("parents", "p"), ("verbose", "v")] }
  u.run args fun os paths => do
    if paths = [] then return ← missingOperand
    let mask ← maskedMode
    let usual := Mode.without 0o777 mask
    match os.value? "m" with
    | some m =>
      if (Mode.change? true mask 0o777 m).isNone then
        complain ("invalid mode " ++ cited m)
        return 1
    | none => pure ()
    let mode := ((os.value? "m").bind (Mode.change? true mask 0o777)).getD usual
    let make (path : Octets) (mode : Nat) : Sh Bool := do
      match ← makeDirectory path mode with
      | some e => refuse ("cannot create directory " ++ cited path ++ ": " ++ e.description)
      | none =>
        if os.has "v" then Sh.write ((← ownName) ++ ": created directory " ++ cited path ++ "\n")
        return true
    onEach paths fun path => do
      if !os.has "p" then make path mode
      else
        for p in (ancestors path).dropLast do
          match ← Sh.node? true p with
          | .ok (_, x) =>
            if !x.isDirectory then
              return ← refuse ("cannot create directory " ++ cited p ++ ": Not a directory")
          | .error _ => if !(← make p usual) then return false
        if ← Testing.onNode true path Node.isDirectory then return true else make path mode

/-- Removes a directory, and with `parents` the directories above it too. -/
def removeDirectory (os : Options) (isParent : Bool) : Nat → Octets → Sh Bool
  | 0, _ => return true
  | n + 1, path => do
    if os.has "v" then Sh.write ((← ownName) ++ ": removing directory, " ++ cited path ++ "\n")
    let problem ← match ← spot? path with
      | .error e => pure (some e)
      | .ok (_, none) => pure (some .noEntry)
      | .ok (place, some x) =>
        match x with
        | .directory _ [] => do
          let e ← put place none
          if e.isNone then noteMove place none
          pure e
        | .directory _ _ => pure (some .notEmpty)
        | _ => pure (some .notDirectory)
    match problem with
    | some e =>
      if e = .notEmpty && os.has "ignore-fail-on-non-empty" then return true
      refuse ("failed to remove " ++ (if isParent then "directory " else "") ++ cited path ++ ": " ++
        e.description)
    | none =>
      if os.has "p" && Octets.has '/' (withoutSlashes path) && directoryName path ≠ "/" then
        removeDirectory os true n (directoryName path)
      else return true

/-- `rmdir` -/
def rmdir : Program := fun args =>
  let u : Usage :=
    { letters := "pv"
      words := [("parents", "p"), ("verbose", "v"),
        ("ignore-fail-on-non-empty", "ignore-fail-on-non-empty")] }
  u.run args fun os paths => do
    if paths = [] then return ← missingOperand
    onEach paths fun path => removeDirectory os false (path.length + 1) path

/-! ## Removal -/

/-- What kind of file a node is. -/
def kindName : Node → Octets
  | .file _ [] => "regular empty file"
  | .file _ _ => "regular file"
  | .directory _ _ => "directory"
  | .link _ => "symbolic link"
  | .device => "character special file"
  | .fifo _ => "fifo"

/-- Removes what is at a place, with what is below; the number bounds the depth. -/
def removeAt (os : Options) : Nat → Octets → List Name → Node → Sh Bool
  | 0, _, _, _ => return false
  | n + 1, path, place, x => do
    let asks := os.last? ["f", "i", "I"] = some "i"
    let finish (what : Octets) : Sh Bool := do
      match ← put place none with
      | some e => refuse ("cannot remove " ++ cited path ++ ": " ++ e.description)
      | none =>
        if x.isDirectory then noteMove place none
        if os.has "v" then Sh.write ("removed " ++ what ++ cited path ++ "\n")
        return true
    match x with
    | .directory _ es =>
      if asks && es ≠ [] then
        if !(← isAffirmed ("descend into directory " ++ cited path ++ "?")) then return true
      let mut good := true
      for e in es do
        if !(← removeAt os n (below path (Octets.ofBytes e.1)) (place ++ [e.1]) e.2) then good := false
      if !good then return false
      if ((← Sh.fileSystem).tree.at? place).any fun x => match x with
          | .directory _ (_ :: _) => true | _ => false then return true
      if asks then
        if !(← isAffirmed ("remove directory " ++ cited path ++ "?")) then return true
      finish "directory "
    | _ =>
      if asks then
        if !(← isAffirmed ("remove " ++ kindName x ++ " " ++ cited path ++ "?")) then return true
      finish ""

/-- `rm` -/
def rm : Program := fun args =>
  let u : Usage :=
    { letters := "dfirvIR"
      words := [("dir", "d"), ("force", "f"), ("interactive", "interactive::"), ("recursive", "r"),
        ("verbose", "v"), ("one-file-system", "one-file-system"), ("no-preserve-root", "no-preserve-root"),
        ("preserve-root", "preserve-root::")] }
  u.run args fun os paths => do
    let recursive := os.has "r" || os.has "R"
    let forced := os.last? ["f", "i", "I"] = some "f"
    if paths = [] then return ← if forced then pure 0 else missingOperand
    onEach paths fun path => do
      let name := lastName path
      if recursive && (name = "." || name = "..") then
        return ← refuse ("refusing to remove '.' or '..' directory: skipping " ++ cited path)
      if recursive && name = "/" then
        complain "it is dangerous to operate recursively on '/'"
        return ← refuse "use --no-preserve-root to override this failsafe"
      match ← spot? path with
      | .error e =>
        if forced && (e = .noEntry || e = .notDirectory) then return true
        refuse ("cannot remove " ++ cited path ++ ": " ++ e.description)
      | .ok (_, none) =>
        if forced then return true
        refuse ("cannot remove " ++ cited path ++ ": No such file or directory")
      | .ok (place, some x) =>
        match x with
        | .directory _ es =>
          if !recursive && !(os.has "d" && es.isEmpty) then
            refuse ("cannot remove " ++ cited path ++ ": " ++
              (if os.has "d" then "Directory not empty" else "Is a directory"))
          else removeAt os 100 (withoutSlashes path) place x
        | _ => removeAt os 2 path place x

/-- `unlink` -/
def unlink : Program := fun args =>
  let u : Usage := {}
  u.run args fun _ paths => do
    match paths with
    | [] => missingOperand
    | [path] =>
      let problem ← match ← spot? path with
        | .error e => pure (some e)
        | .ok (_, none) => pure (some .noEntry)
        | .ok (place, some x) => if x.isDirectory then pure (some .isDirectory) else put place none
      match problem with
      | some e =>
        complain ("cannot unlink " ++ cited path ++ ": " ++ e.description)
        return 1
      | none => return 0
    | _ :: extra :: _ => extraOperand extra

/-! ## Times and sizes -/

/-- The present moment in seconds. -/
def presentTime : Sh Int := return (startOfTime + (← Sh.world).seconds : Nat)

/-- The time on the clock of a moment in seconds. -/
def clockOf (seconds : Int) : Int := (seconds - startOfTime) * 1000000

/-- The moment on the clock at which the file at a place was changed. -/
def changeTime (place : List Name) : Sh Int := return (Table.get? place (← Sh.world).times).getD 0

/-- The moment at which a file was changed, in seconds. -/
def secondsOf (time : Int) : Int := (startOfTime : Int) + time.fdiv 1000000

/-- `touch` -/
def touch : Program := fun args =>
  let u : Usage :=
    { letters := "acd:fhmr:t:"
      words := [("no-create", "c"), ("date", "d"), ("no-dereference", "h"), ("reference", "r"),
        ("time", "time:")] }
  u.run args fun os paths => do
    if paths = [] then return ← misuse "missing file operand"
    let now ← presentTime
    let clock := (((← Sh.world).clock : Nat) : Int) + 1
    let time ← match os.value? "t", os.value? "r", os.value? "d" with
      | some s, _, _ =>
        match Moment.ofStamp? now s with
        | some n => pure (clockOf n)
        | none =>
          complain ("invalid date format " ++ cited s)
          return 1
      | none, some path, _ =>
        match ← Sh.node? true path with
        | .ok (place, _) => changeTime place
        | .error e =>
          complain ("failed to get attributes of " ++ cited path ++ ": " ++ e.description)
          return 1
      | none, none, some s =>
        match Moment.ofPhrase? now s with
        | some n => pure (clockOf n)
        | none =>
          complain ("invalid date format " ++ cited s)
          return 1
      | none, none, none => pure clock
    onEach paths fun path => do
      let note (place : List Name) : Sh Unit :=
        Sh.changeWorld fun w => { w with times := Table.insert place time w.times }
      match ← Sh.node? (!os.has "h") path with
      | .ok (place, _) =>
        note place
        return true
      | .error e =>
        if e = .noEntry && (os.has "c" || os.has "h") then return true
        match ← Sh.openFile path (.writing false) with
        | .ok i =>
          Sh.release i
          match ← Sh.node? true path with
          | .ok (place, _) => note place
          | .error _ => pure ()
          return true
        | .error e => refuse ("cannot touch " ++ cited path ++ ": " ++ e.description)

/-- `truncate` -/
def truncate : Program := fun args =>
  let u : Usage :=
    { letters := "cor:s:", words := [("no-create", "c"), ("reference", "r"), ("size", "s")] }
  u.run args fun os paths => do
    if !os.has "s" && !os.has "r" then return ← misuse "you must specify either '--size' or '--reference'"
    if paths = [] then return ← misuse "missing file operand"
    let text := (os.value? "s").getD "0"
    let (sign, amount) : Char × Octets := match text.toList with
      | c :: r => if "+-<>/%".toList.elem c then (c, String.ofList r) else ('=', text)
      | [] => ('=', text)
    match amount? amount with
    | none =>
      complain ("Invalid number: " ++ cited text)
      return 1
    | some n =>
      let n ← match os.value? "r" with
        | none => pure n
        | some path => match ← Sh.node? true path with
          | .ok (_, .file _ content) => pure content.length
          | _ => pure 0
      onEach paths fun path => do
        if os.has "c" && !(← Testing.onNode true path fun _ => true) then return true
        match ← Sh.openFile path (.writing false) with
        | .error e => refuse ("cannot open " ++ cited path ++ " for writing: " ++ e.description)
        | .ok i =>
          Sh.release i
          match ← Sh.node? true path with
          | .ok (place, .file mode content) =>
            let old := content.length
            let size := match sign with
              | '+' => old + n
              | '-' => old - n
              | '<' => min old n
              | '>' => max old n
              | '/' => old / max n 1 * n
              | '%' => (old + n - 1) / max n 1 * n
              | _ => n
            let new := content.take size ++ List.replicate (size - old) 0
            return (← put place (some (.file mode new))).isNone
          | _ => return true

/-! ## Copies -/

/-- The path at which something is put when it is copied or moved to a path. -/
def destination (source path : Octets) (asDirectory : Bool) : Octets :=
  if asDirectory then below path (lastName source) else path

/-- The operands of a program that puts files somewhere: the sources, the target, and whether it is a
directory into which they go. -/
def withTarget (os : Options) (paths : List Octets) (act : List Octets → Octets → Bool → Sh Nat) :
    Sh Nat := do
  match os.value? "t" with
  | some dir =>
    if paths = [] then return ← misuse "missing file operand"
    match ← Sh.node? true dir with
    | .error e =>
      complain ("target directory " ++ cited dir ++ ": " ++ e.description)
      return 1
    | .ok (_, x) =>
      if !x.isDirectory then
        complain ("target directory " ++ cited dir ++ ": Not a directory")
        return 1
      act paths dir true
  | none =>
    match paths with
    | [] => misuse "missing file operand"
    | [a] => misuse ("missing destination file operand after " ++ cited a)
    | _ =>
      let path := paths.getLastD ""
      let sources := paths.dropLast
      let isDirectory ← Testing.onNode true path Node.isDirectory
      if os.has "T" then
        match sources with
        | [_] => act sources path false
        | _ => extraOperand ((paths[2]?).getD "")
      else if 1 < sources.length && !isDirectory then
        let e ← match ← Sh.node? true path with
          | .error e => pure e
          | .ok _ => pure .notDirectory
        complain ("target " ++ cited path ++ ": " ++ e.description)
        return 1
      else act sources path isDirectory

/-- How files are copied. -/
structure CopyManner where
  recursive : Bool
  follows : Bool
  preserves : Bool
  verbose : Bool
  mask : Nat

/-- A node as a copy of it is; the number bounds the depth. -/
def copyOf (m : CopyManner) : Nat → Node → Node
  | 0, x => x
  | n + 1, x =>
    let mode (old : Nat) : Nat := if m.preserves then old else Mode.without (old &&& 0o777) m.mask
    match x with
    | .file old content => .file (mode old) content
    | .directory old es => .directory (mode old) (es.map fun e => (e.1, copyOf m n e.2))
    | x => x

/-- The lines that tell what was copied, with all that is below. -/
def copyReport (source new : Octets) : Nat → Node → List Octets
  | 0, _ => []
  | n + 1, x =>
    (cited source ++ " -> " ++ cited new) ::
      (match x with
        | .directory _ es => es.flatMap fun e =>
          copyReport (below source (Octets.ofBytes e.1)) (below new (Octets.ofBytes e.1)) n e.2
        | _ => [])

/-- A node with the entries of another one put into it; the number bounds the depth. -/
def merged : Nat → Node → Node → Node
  | 0, _, new => new
  | n + 1, old, new =>
    match old, new with
    | .directory mode es, .directory _ news =>
      .directory mode (news.foldl (fun es e =>
        let y := match Node.named? e.1 es with
          | some x => merged n x e.2
          | none => e.2
        Node.setEntry e.1 (some y) es) es)
    | .file mode _, .file _ content => .file mode content
    | _, new => new

/-- Copies take their times from the moment at which they are made, or from the files that were copied. -/
def noteCopies (preserves : Bool) (source place : List Name) : Nat → Node → Sh Unit
  | 0, _ => return ()
  | n + 1, x => do
    if preserves then
      let time ← changeTime source
      Sh.changeWorld fun w => { w with times := Table.insert place time w.times }
    else Sh.noteChange place
    match x with
    | .directory _ es => for e in es do noteCopies preserves (source ++ [e.1]) (place ++ [e.1]) n e.2
    | _ => return ()

/-- `cp` -/
def cp : Program := fun args =>
  let u : Usage :=
    { letters := "abdfHilLnprst:uvxPRS:TZ"
      words := [("archive", "a"), ("force", "f"), ("interactive", "i"), ("link", "l"), ("dereference", "L"),
        ("no-clobber", "n"), ("no-dereference", "P"), ("preserve", "preserve::"), ("recursive", "R"),
        ("symbolic-link", "s"), ("target-directory", "t"), ("no-target-directory", "T"), ("update", "u"),
        ("verbose", "v"), ("parents", "parents"), ("backup", "b"),
        ("remove-destination", "remove-destination")] }
  u.run args fun os paths => withTarget os paths fun sources path asDirectory => do
    let recursive := ["r", "R", "a"].any os.has
    let m : CopyManner := {
      recursive
      follows := match os.last? ["L", "P", "d", "a", "H"] with
        | some "L" | some "H" => true
        | some _ => false
        | none => !recursive
      preserves := ["p", "a", "preserve"].any os.has
      verbose := os.has "v"
      mask := ← maskedMode }
    onEach sources fun source => do
      match ← Sh.node? m.follows source with
      | .error e => refuse ("cannot stat " ++ cited source ++ ": " ++ e.description)
      | .ok (from_, x) =>
        if x.isDirectory && !recursive then
          return ← refuse ("-r not specified; omitting directory " ++ cited source)
        let new := if os.has "parents" then below path source else destination source path asDirectory
        let what := if x.isDirectory then "directory " else "regular file "
        match ← spot? new with
        | .error e => refuse ("cannot create " ++ what ++ cited new ++ ": " ++ e.description)
        | .ok (spot, there) =>
          if there.isNone && new.toList.getLast? = some '/' && !x.isDirectory then
            return ← refuse ("cannot create regular file " ++ cited new ++ ": Not a directory")
          -- A link at the place is followed if there is a file behind it.
          let (place, there) ← match there with
            | some (.link _) => match ← Sh.node? true new with
              | .ok (p, y) => pure (p, some y)
              | .error _ => pure (spot, none)
            | _ => pure (spot, there)
          if ((← Sh.world).namesOf from_).elem place then
            return ← refuse (cited source ++ " and " ++ cited new ++ " are the same file")
          if x.isDirectory && from_.isPrefixOf place then
            return ← refuse ("cannot copy a directory, " ++ cited source ++ ", into itself, " ++ cited new)
          match there with
          | some y =>
            if os.has "n" then return true
            if os.has "u" && (← changeTime from_) ≤ (← changeTime place) then return true
            if x.isDirectory && !y.isDirectory then
              return ← refuse ("cannot overwrite non-directory " ++ cited new ++ " with directory " ++
                cited source)
            if !x.isDirectory && y.isDirectory then
              return ← refuse ("cannot overwrite directory " ++ cited new ++ " with non-directory")
            if os.last? ["i", "f", "n"] = some "i" then
              if !(← isAffirmed ("overwrite " ++ cited new ++ "?")) then return true
            if !y.isDirectory && !y.isWritable && !os.has "f" then
              return ← refuse ("cannot create regular file " ++ cited new ++ ": Permission denied")
          | none => pure ()
          let copy :=
            if os.has "s" then Node.link (Octets.toBytes source)
            else if os.has "l" then x
            else
              match x with
              | .file _ _ | .directory _ _ | .link _ => copyOf m 100 x
              | _ => Node.file (Mode.without 0o666 m.mask) []
          let copy := match there with | some y => merged 100 y copy | none => copy
          match ← put place (some copy) with
          | some e => refuse ("cannot create " ++ what ++ cited new ++ ": " ++ e.description)
          | none =>
            if os.has "l" && !x.isDirectory then Sh.changeWorld (·.addName from_ place)
            noteCopies (m.preserves || os.has "l") from_ place 100 x
            if m.verbose then
              for l in copyReport (if x.isDirectory then withoutSlashes source else source) new 100 x do
                Sh.write (l ++ "\n")
            return true

/-- The time at which a file was changed goes with it. -/
def moveTime (old new : List Name) : Sh Unit :=
  Sh.changeWorld fun w =>
    { w with times := w.times.filterMap fun t =>
        if old.isPrefixOf t.1 then some (new ++ t.1.drop old.length, t.2)
        else if new.isPrefixOf t.1 then none else some t }

/-- `mv` -/
def mv : Program := fun args =>
  let u : Usage :=
    { letters := "bfint:uvS:TZ"
      words := [("force", "f"), ("interactive", "i"), ("no-clobber", "n"), ("target-directory", "t"),
        ("no-target-directory", "T"), ("update", "u"), ("verbose", "v"), ("backup", "b"),
        ("strip-trailing-slashes", "strip-trailing-slashes")] }
  u.run args fun os paths => withTarget os paths fun sources path asDirectory =>
    onEach sources fun source => do
      match ← spot? source with
      | .error e => refuse ("cannot stat " ++ cited source ++ ": " ++ e.description)
      | .ok (_, none) => refuse ("cannot stat " ++ cited source ++ ": No such file or directory")
      | .ok (old, some x) =>
        let new := destination source path asDirectory
        let moving := "cannot move " ++ cited source ++ " to " ++ cited new
        match ← spot? new with
        | .error e => refuse (moving ++ ": " ++ e.description)
        | .ok (place, there) =>
          if ((← Sh.world).namesOf old).elem place then
            return ← refuse (cited source ++ " and " ++ cited new ++ " are the same file")
          if x.isDirectory && old.isPrefixOf place then
            return ← refuse ("cannot move " ++ cited source ++ " to a subdirectory of itself, " ++ cited new)
          if there.isNone && new.toList.getLast? = some '/' && !x.isDirectory then
            return ← refuse (moving ++ ": Not a directory")
          match there with
          | some y =>
            if os.last? ["n", "f", "i"] = some "n" then return true
            if os.has "u" && (← changeTime old) ≤ (← changeTime place) then return true
            match x, y with
            | .directory _ _, .directory _ (_ :: _) => return ← refuse (moving ++ ": Directory not empty")
            | .directory _ _, .directory _ [] => pure ()
            | .directory _ _, _ =>
              return ← refuse ("cannot overwrite non-directory " ++ cited new ++ " with directory " ++
                cited source)
            | _, .directory _ _ =>
              return ← refuse ("cannot overwrite directory " ++ cited new ++ " with non-directory")
            | _, _ => pure ()
            if os.last? ["n", "f", "i"] = some "i" then
              if !(← isAffirmed ("overwrite " ++ cited new ++ "?")) then return true
          | none => pure ()
          let obstacleAtNew ← obstacle? place
          if let some e := (← obstacle? old).orElse fun _ => obstacleAtNew then
            return ← refuse (moving ++ ": " ++ e.description)
          Sh.changeWorld (·.dropName place)
          Sh.setTree (((← Sh.fileSystem).adjust old fun _ => none).adjust place fun _ => some x)
          Sh.changeWorld (·.moveNames old place)
          if x.isDirectory then noteMove old (some place)
          moveTime old place
          if os.has "v" then Sh.write ("renamed " ++ cited source ++ " -> " ++ cited new ++ "\n")
          return true

/-- The path that leads from a directory to a place. -/
def relativePath (dir place : List Name) : Octets :=
  let common := ((dir.zip place).takeWhile fun p => p.1 = p.2).length
  let names := List.replicate (dir.length - common) ".." ++ (place.drop common).map Octets.ofBytes
  if names = [] then "." else Octets.join "/" names

/-- `ln` -/
def ln : Program := fun args =>
  let u : Usage :=
    { letters := "bdfFilLnPrsSt:Tv"
      words := [("force", "f"), ("interactive", "i"), ("logical", "L"), ("no-dereference", "n"),
        ("physical", "P"), ("relative", "r"), ("symbolic", "s"), ("target-directory", "t"),
        ("no-target-directory", "T"), ("verbose", "v"), ("backup", "b")] }
  u.run args fun os paths => do
    if paths = [] then return ← misuse "missing file operand"
    let symbolic := os.has "s"
    let kind : Octets := if symbolic then "symbolic link " else "hard link "
    let make (targets : List Octets) (path : Octets) (asDirectory : Bool) : Sh Nat :=
      onEach targets fun target => do
        let new := destination target path asDirectory
        let source ← if symbolic then pure none else
          match ← Sh.node? false target with
          | .error e => return ← refuse ("failed to access " ++ cited target ++ ": " ++ e.description)
          | .ok (old, x) =>
            if x.isDirectory then
              return ← refuse (named target ++ ": hard link not allowed for directory")
            pure (some (old, x))
        let failed := "failed to create " ++ kind ++ cited new ++
          (if symbolic then "" else "")
        match ← spot? new with
        | .error e => refuse (failed ++ ": " ++ e.description)
        | .ok (place, there) =>
          match there with
          | some y =>
            if !os.has "f" then return ← refuse (failed ++ ": File exists")
            if y.isDirectory then return ← refuse (named new ++ ": cannot overwrite directory")
          | none => pure ()
          let text ← if !os.has "r" then pure target else
            match ← Sh.node? true target with
            | .ok (p, _) => pure (relativePath place.dropLast p)
            | .error _ => pure target
          if source.any fun s => s.1 = place then
            return ← refuse (cited target ++ " and " ++ cited new ++ " are the same file")
          match ← replace place ((source.map (·.2)).getD (.link (Octets.toBytes text))) with
          | some e => refuse (failed ++ ": " ++ e.description)
          | none =>
            if let some (old, _) := source then Sh.changeWorld (·.addName old place)
            if os.has "v" then
              Sh.write (cited new ++ (if symbolic then " -> " else " => ") ++ cited text ++ "\n")
            return true
    match os.value? "t", paths with
    | some dir, _ => make paths dir true
    | none, [target] => make [target] "." true
    | none, _ =>
      let path := paths.getLastD ""
      let isDirectory ← Testing.onNode (!os.has "n") path Node.isDirectory
      let isDirectory := isDirectory && !os.has "T"
      if 2 < paths.length && !isDirectory then
        let e ← match ← Sh.node? true path with
          | .error e => pure e
          | .ok _ => pure .notDirectory
        complain ("target " ++ cited path ++ ": " ++ e.description)
        return 1
      make paths.dropLast path isDirectory

/-- `link` -/
def link : Program := fun args => do
  match args with
  | [_, _] => ln ("-T" :: args)
  | [] => missingOperand
  | [a] => misuse ("missing operand after " ++ cited a)
  | _ :: _ :: c :: _ => extraOperand c

/-- `install` -/
def install : Program := fun args =>
  let u : Usage :=
    { letters := "bcCdDg:m:o:pst:Tv"
      words := [("directory", "d"), ("group", "g"), ("mode", "m"), ("owner", "o"), ("target-directory", "t"),
        ("no-target-directory", "T"), ("verbose", "v"), ("preserve-timestamps", "p")] }
  u.run args fun os paths => do
    let mode := ((os.value? "m").bind (Mode.change? false 0 0)).getD 0o755
    let makeAll (path : Octets) : Sh Bool := do
      let mut good := true
      for p in ancestors path do
        if good && !(← Testing.onNode true p Node.isDirectory) then
          match ← makeDirectory p 0o755 with
          | some e => good ← refuse ("cannot create directory " ++ cited p ++ ": " ++ e.description)
          | none =>
            if os.has "v" then Sh.write ((← ownName) ++ ": creating directory " ++ cited p ++ "\n")
      return good
    if os.has "d" then
      if paths = [] then return ← misuse "missing file operand"
      onEach paths fun path => do
        if !(← makeAll path) then return false
        match ← Sh.node? true path with
        | .ok (place, _) => setMode place mode
        | .error _ => pure ()
        return true
    else
      if os.has "D" then
        match os.value? "t" with
        | some dir => discard (makeAll dir)
        | none => discard (makeAll (directoryName (paths.getLastD "")))
      withTarget os paths fun sources path asDirectory =>
        onEach sources fun source => do
          match ← Sh.node? true source with
          | .error e => refuse ("cannot stat " ++ cited source ++ ": " ++ e.description)
          | .ok (_, x) =>
            match x with
            | .file _ content =>
              let new := destination source path asDirectory
              match ← spot? new with
              | .error e => refuse ("cannot create regular file " ++ cited new ++ ": " ++ e.description)
              | .ok (place, _) =>
                match ← replace place (.file mode content) with
                | some e => refuse ("cannot create regular file " ++ cited new ++ ": " ++ e.description)
                | none =>
                  if os.has "v" then Sh.write (cited source ++ " -> " ++ cited new ++ "\n")
                  return true
            | _ => refuse ("omitting directory " ++ cited source)

/-! ## Modes and owners -/

/-- Runs an action on what is at a place, and with `recursive` on all that is below it. -/
def throughout (recursive : Bool) (act : Octets → List Name → Node → Sh Bool) :
    Nat → Octets → List Name → Node → Sh Bool
  | 0, _, _, _ => return true
  | n + 1, path, place, x => do
    let mut good ← act path place x
    if recursive then
      match x with
      | .directory _ es =>
        for e in es do
          if !(← throughout recursive act n (below path (Octets.ofBytes e.1)) (place ++ [e.1]) e.2) then
            good := false
      | _ => pure ()
    return good

/-- Arguments of which those that are modes although they look like options come after a mark. -/
def protectMode (args : List Octets) : List Octets :=
  args.map fun a => match a.toList with
    | '-' :: c :: r => if "rwxXst".toList.elem c && r.all "rwxXst,+-=ugoa".toList.elem then "a" ++ a else a
    | _ => a

/-- `chmod` -/
def chmod : Program := fun args =>
  let u : Usage :=
    { letters := "cfvR"
      words := [("changes", "c"), ("silent", "f"), ("quiet", "f"), ("verbose", "v"), ("recursive", "R"),
        ("reference", "reference:"), ("no-preserve-root", "no-preserve-root")] }
  u.run (protectMode args) fun os operands => do
    let mask ← maskedMode
    let (mode, paths) : Option Octets × List Octets ← match os.value? "reference" with
      | some path => match ← Sh.node? true path with
        | .ok (_, x) => pure (some (Mode.octal 4 x.mode), operands)
        | .error e =>
          complain ("failed to get attributes of " ++ cited path ++ ": " ++ e.description)
          return 1
      | none => pure (operands.head?, operands.tail)
    match mode with
    | none => missingOperand
    | some mode =>
      if paths = [] then return ← misuse ("missing operand after " ++ cited mode)
      if (Mode.change? false mask 0 mode).isNone then return ← misuse ("invalid mode: " ++ cited mode)
      onEach paths fun path => do
        match ← Sh.node? true path with
        | .error e =>
          if os.has "f" then return false
          refuse ("cannot access " ++ cited path ++ ": " ++ e.description)
        | .ok (place, x) =>
          throughout (os.has "R") (fun path place x => do
            match x with
            | .file old _ | .directory old _ =>
              let new := (Mode.change? x.isDirectory mask old mode).getD old
              setMode place new
              let shown (m : Nat) : Octets := Mode.octal 4 m ++ " (" ++ Mode.letters m ++ ")"
              if new ≠ old && (os.has "v" || os.has "c") then
                Sh.write ("mode of " ++ cited path ++ " changed from " ++ shown old ++ " to " ++ shown new ++
                  "\n")
              else if os.has "v" then
                Sh.write ("mode of " ++ cited path ++ " retained as " ++ shown old ++ "\n")
              return true
            | _ => return true) 100 path place x

/-- The name or number means the one user, or group, that there is for sure. -/
def isKnownOwner (s : Octets) : Bool :=
  (Octets.pieces ':' s).all fun p => p = "" || p = "root" || (Octets.natural? p).isSome

/-- `chown` and `chgrp` -/
def changeOwner (what : Octets) : Program := fun args =>
  let u : Usage :=
    { letters := "cfhvRHLP"
      words := [("changes", "c"), ("silent", "f"), ("quiet", "f"), ("no-dereference", "h"), ("verbose", "v"),
        ("recursive", "R"), ("reference", "reference:"), ("from", "from:")] }
  u.run args fun os operands => do
    match operands with
    | [] => missingOperand
    | [a] => misuse ("missing operand after " ++ cited a)
    | owner :: paths =>
      if !isKnownOwner owner then
        complain ("invalid " ++ what ++ ": " ++ cited owner)
        return 1
      onEach paths fun path => do
        match ← Sh.node? true path with
        | .error e =>
          if os.has "f" then return false
          refuse ("cannot access " ++ cited path ++ ": " ++ e.description)
        | .ok _ => return true

/-- Makes a pipe with a path, or complains. -/
def makePipe (what path : Octets) : Sh Bool := do
  let failed := what ++ cited path
  match ← spot? path with
  | .error e => refuse (failed ++ ": " ++ e.description)
  | .ok (_, some _) => refuse (failed ++ ": File exists")
  | .ok (place, none) =>
    let n := (← Sh.world).pipes.size
    Sh.changeWorld fun w => { w with pipes := w.pipes.push {} }
    match ← put place (some (.fifo n)) with
    | some e => refuse (failed ++ ": " ++ e.description)
    | none => return true

/-- `mkfifo` -/
def mkfifo : Program := fun args =>
  let u : Usage := { letters := "m:Z", words := [("mode", "m")] }
  u.run args fun _ paths => do
    if paths = [] then return ← missingOperand
    onEach paths (makePipe "cannot create fifo ")

/-- `mknod` -/
def mknod : Program := fun args =>
  let u : Usage := { letters := "m:Z", words := [("mode", "m")] }
  u.run args fun _ operands => do
    match operands with
    | [] => missingOperand
    | path :: more =>
      match more with
      | [] => misuse ("missing operand after " ++ cited path)
      | kind :: numbers =>
        if Octets.startsWith "p" kind then
          match numbers with
          | [] => return status (← makePipe "" path)
          | extra :: _ =>
            complain ("extra operand " ++ cited extra)
            if numbers.length = 2 then Sh.complain "Fifos do not have major and minor device numbers.\n"
            referToHelp
            return 1
        else if numbers.length < 2 then
          complain ("missing operand after " ++ cited ((kind :: numbers).getLastD kind))
          if numbers = [] then Sh.complain "Special files require major and minor device numbers.\n"
          referToHelp
          return 1
        else if !(["b", "c", "u"].any fun k => Octets.startsWith k kind) then
          misuse ("invalid device type " ++ cited kind)
        else
          complain (named path ++ ": Operation not permitted")
          return 1

end ShellCoverage.Shell.Program
