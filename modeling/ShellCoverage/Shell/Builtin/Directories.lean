import ShellCoverage.Shell.Builtin.Basic

/-!
# Directories

The shell remembers the path by which it reached the current directory, links included, and a stack of
directories to go back to: `cd`, `pwd`, `pushd`, `popd`, `dirs`.

* `Sh.goTo` : makes a directory the current one.
-/

namespace ShellCoverage.Shell

namespace Sh

/-- The names of a path without `.` and with `..` taken back. -/
def plainNames (path : Octets) : List Octets :=
  (Octets.pieces '/' path).foldl (fun acc n =>
    if n = "" || n = "." then acc else if n = ".." then acc.dropLast else acc ++ [n]) []

/-- What an absolute path begins with. Two slashes, and not more, may mean something else than one, and are kept. -/
def rootText (path : Octets) : Octets :=
  if Octets.startsWith "//" path && !Octets.startsWith "///" path then "//" else "/"

/-- The path of a path from the directory at another path. -/
def absolutePath (from_ path : Octets) : Octets :=
  if Octets.startsWith "/" path then rootText path ++ Octets.join "/" (plainNames path)
  else rootText from_ ++ Octets.join "/" (plainNames (from_ ++ "/" ++ path))

/-- Makes the directory at a path the current one; `physical` asks for its path without links. -/
def goTo (path : Octets) (physical : Bool) : Sh (Option Errno) := do
  let p ← process
  if p.cwdPath = "" then complainUnreachable "chdir"
  let joined := if p.cwdPath = "" || Octets.startsWith "/" path then path else p.cwdPath ++ "/" ++ path
  let logical := if p.cwdPath = "" then path else absolutePath p.cwdPath path
  let path := if path = "" then p.cwdPath else path
  let found (target : Octets) : Sh (Except Errno (List Name)) := do
    match ← node? true target with
    | .ok (place, .directory _ _) => return .ok place
    | .ok _ => return .error .notDirectory
    | .error e => return .error e
  let first ← found (if physical then path else logical)
  let (result, byPath) ← match first with
    | .ok place => pure (Except.ok place, !physical)
    | .error _ => do pure (← found path, false)
  match result with
  | .error e => return some e
  | .ok place =>
    let isUnreachable := FileSystem.isRemoved place
    if isUnreachable && !byPath then complainUnreachable "cd"
    let cwdPath := if byPath then logical else if isUnreachable then joined else placeText place
    let old ← scalar? "PWD"
    change fun p => { p with cwd := place, cwdPath }
    match old with
    | some s => store "OLDPWD" s
    | none => pure ()
    store "PWD" cwdPath
    return none

end Sh

namespace Builtin

/-- The directories in which `cd` looks for a path. -/
def searchedDirectories (path : Octets) : Sh (List Octets) := do
  let isLocal := Octets.startsWith "/" path || path = "." || path = ".." ||
    Octets.startsWith "./" path || Octets.startsWith "../" path
  if isLocal then return []
  match ← Sh.scalar? "CDPATH" with
  | some s => return if s = "" then [] else Octets.pieces ':' s
  | none => return []

/-- Goes to a directory by the search path for directories: the one of it in which it was found. -/
def goBySearch (path : Octets) (physical : Bool) : List Octets → Sh (Option Octets)
  | [] => return none
  | dir :: dirs => do
    let joins : Bool := (← Sh.process).dialect = .plain || dir.toList.getLast? ≠ some '/'
    let target := (if dir = "" then "." else dir) ++ (if joins then "/" else "") ++ path
    match ← Sh.goTo target physical with
    | none => return some dir
    | some _ => goBySearch path physical dirs

/-- Goes to the directory that is the value of a variable, if the shell is asked to look there. -/
def goByVariable (name : Octets) (physical : Bool) : Sh Bool := do
  if !(← Sh.hasFeature "cdable_vars") then return false
  match ← Sh.scalar? name with
  | none => return false
  | some path =>
    match ← Sh.goTo path physical with
    | some _ => return false
    | none =>
      Sh.write (path ++ "\n")
      return true

/-- `cd` -/
def cd : Builtin := fun args => do
  let plain := (← Sh.process).dialect = .plain
  match ← options? "cd" (if (← Sh.process).dialect = .plain then "LP" else "LPe") "" args with
  | none => return 2
  | some (os, rest) =>
    let byOption ← Sh.hasOption "physical"
    let physical : Bool := match (os.filter fun o => o.1 = 'L' || o.1 = 'P').getLast? with
      | some o => o.1 = 'P'
      | none => byOption
    let go (path : Octets) (shows : Bool) : Sh Nat := do
      let dirs ← searchedDirectories path
      match ← goBySearch path physical dirs with
      | some dir =>
        if dir ≠ "" then Sh.write ((← Sh.process).cwdPath ++ "\n")
        return 0
      | none =>
        match ← Sh.goTo path physical with
        | none =>
          if shows then Sh.write (path ++ "\n")
          return 0
        | some e =>
          if plain then
            complain "cd" ("can't cd to " ++ path)
            return 2
          else if ← goByVariable path physical then return 0
          else refuse 1 "cd" (path ++ ": " ++ e.description)
    if ← isRestricted then return ← refuse 1 "cd" "restricted"
    match rest with
    | [] =>
      match ← Sh.scalar? "HOME" with
      | some home => go home false
      | none => if plain then return 0 else refuse 1 "cd" "HOME not set"
    | ["-"] =>
      match ← Sh.scalar? "OLDPWD" with
      | some old => go old true
      | none => if plain then go (← Sh.process).cwdPath true else refuse 1 "cd" "OLDPWD not set"
    | [path] => go path false
    | path :: _ => if plain then go path false else refuse 1 "cd" "too many arguments"

/-- `pwd` -/
def pwd : Builtin := fun args => do
  match ← options? "pwd" "LP" "" args with
  | none => return 2
  | some (os, _) =>
    let p ← Sh.process
    let physical : Bool := match os.getLast? with
      | some o => o.1 = 'P'
      | none => p.options.elem "physical"
    if p.cwdPath = "" || (physical && FileSystem.isRemoved p.cwd) then
      Sh.complainUnreachable "pwd"
      Sh.change fun p => { p with cwdPath := "" }
      return 1
    let extra := if p.dialect = .full && Sh.rootText p.cwdPath = "//" then "/" else ""
    let physicalPath := extra ++ Sh.placeText p.cwd
    Sh.write ((if physical then physicalPath else p.cwdPath) ++ "\n")
    return 0

/-- A place in the stack, such as `+1` or `-0`, for a stack of some size. -/
def stackIndex? (a : Octets) (size : Nat) : Option (Option Nat) :=
  match a.toList with
  | '+' :: ds => (Octets.natural? (String.ofList ds)).map fun n => if n < size then some n else none
  | '-' :: ds =>
    (Octets.natural? (String.ofList ds)).map fun n => if n < size then some (size - 1 - n) else none
  | _ => none

/-- Writes the stack on one line. -/
def showStack : Sh Unit := do
  Sh.write (Octets.join " " (Sh.directoryStack (← Sh.process)) ++ "\n")

/-- Refuses a place in the stack. -/
def refuseIndex (name arg : Octets) : Sh Nat := do
  if (← Sh.process).directories = [] then refuse 1 name "directory stack empty"
  else refuse 1 name (arg ++ ": directory stack index out of range")

/-- Refuses an argument that begins like a place in the stack. -/
def refusePlace (name arg : Octets) : Sh Nat := do
  complain name (Octets.noNumber arg)
  usage name

/-- The argument begins like a place in the stack. -/
def isPlace (arg : Octets) : Bool := Octets.startsWith "+" arg || Octets.startsWith "-" arg

/-- Goes to a directory, or complains. -/
def goOr (name path : Octets) (act : Sh Unit) : Sh Nat := do
  match ← Sh.goTo path false with
  | some e => refuse 1 name (path ++ ": " ++ e.description)
  | none =>
    act
    showStack
    return 0

/-- What the arguments of `pushd` and `popd` ask for. -/
structure StackRequest where
  /-- The current directory stays. -/
  stays : Bool := false
  /-- A place in the stack, as it is written and as a number, if there is such a place. -/
  place : Option (Octets × Option Nat) := none
  /-- The arguments after the places and options. -/
  rest : List Octets := []

/-- What arguments ask for, or the one that is no place though it begins like one. The last place counts. -/
def readRequest (size : Nat) : List Octets → Except Octets StackRequest
  | [] => .ok {}
  | "--" :: r => .ok { rest := r }
  | a :: r =>
    if a = "-n" then (readRequest size r).map fun q => { q with stays := true }
    else if isPlace a && a ≠ "-" then
      match stackIndex? a size with
      | none => .error a
      | some n => (readRequest size r).map fun q => { q with place := q.place <|> some (a, n) }
    else .ok { rest := a :: r }

/-- Replaces the directories below the current one. -/
def setStack (ds : List Octets) : Sh Unit := Sh.change fun p => { p with directories := ds }

/-- Puts a directory on the stack and goes there, unless the current one stays. -/
def pushDirectory (stays : Bool) (path : Octets) : Sh Nat := do
  let p ← Sh.process
  if stays then
    setStack (path :: p.directories)
    showStack
    return 0
  else if path = "-" then
    match ← Sh.scalar? "OLDPWD" with
    | some d => goOr "pushd" d (setStack (p.cwdPath :: p.directories))
    | none => refuse 1 "pushd" "OLDPWD not set"
  else goOr "pushd" path (setStack (p.cwdPath :: p.directories))

/-- `pushd` -/
def pushd : Builtin := fun args => do
  let p ← Sh.process
  let stack := p.cwdPath :: p.directories
  if args = [] then
    match p.directories with
    | [] => return ← refuse 1 "pushd" "no other directory"
    | d :: ds => return ← goOr "pushd" d (setStack (p.cwdPath :: ds))
  match readRequest stack.length args with
  | .error a => refusePlace "pushd" a
  | .ok q =>
    match q.place, q.rest with
    | some (a, none), _ => refuseIndex "pushd" a
    | some (_, some n), _ =>
      let turned := stack.drop n ++ stack.take n
      if q.stays then
        setStack turned.tail
        showStack
        return 0
      else goOr "pushd" (turned.headD "") (setStack turned.tail)
    | none, [] => return 0
    | none, [path] => pushDirectory q.stays path
    | none, _ => refuse 1 "pushd" "too many arguments"

/-- Takes a place off the stack. -/
def popPlace (stays : Bool) (n : Nat) : Sh Nat := do
  let p ← Sh.process
  let stack := p.cwdPath :: p.directories
  if n = 0 && !stays then goOr "popd" (stack.tail.headD "") (setStack (stack.drop 2))
  else
    setStack (stack.eraseIdx (max n 1)).tail
    showStack
    return 0

/-- `popd` -/
def popd : Builtin := fun args => do
  let p ← Sh.process
  match readRequest (p.directories.length + 1) args with
  | .error a => refusePlace "popd" a
  | .ok q =>
    match if args.elem "--" then [] else q.rest, q.place with
    | a :: _, _ =>
      complain "popd" (a ++ ": invalid argument")
      usage "popd"
    | [], some (a, none) => refuseIndex "popd" a
    | [], place =>
      if p.directories = [] then refuse 1 "popd" "directory stack empty"
      else popPlace q.stays ((place.bind (·.2)).getD 0)

/-- What `dirs` is asked for. -/
structure StackView where
  letters : List Char := []
  /-- A place in the stack, as it is written and as a number, if there is such a place. -/
  place : Option (Octets × Option Nat) := none

/-- What the arguments of `dirs` ask for; an argument that is wrong, and whether it should be a number. -/
def readView (size : Nat) : List Octets → Except (Octets × Bool) StackView
  | [] => .ok {}
  | "--" :: _ => .ok {}
  | a :: r =>
    if ["-l", "-c", "-v", "-p"].elem a then
      (readView size r).map fun v => { v with letters := a.toList.drop 1 ++ v.letters }
    else if isPlace a then
      match stackIndex? a size with
      | none => .error (a, true)
      | some n => (readView size r).map fun v =>
        { v with place := v.place <|> some (String.ofList (a.toList.drop 1), n) }
    else .error (a, false)

/-- `dirs` -/
def dirs : Builtin := fun args => do
  let p ← Sh.process
  let stack := p.cwdPath :: p.directories
  match readView stack.length args with
  | .error (a, true) => refusePlace "dirs" a
  | .error (a, false) => refuseOption "dirs" a
  | .ok v =>
    let shown := if v.letters.elem 'l' then stack else Sh.directoryStack p
    let row (d : Octets × Nat) : Octets :=
      (if d.2 < 10 then " " else "") ++ Octets.ofNat d.2 ++ "  " ++ d.1 ++ "\n"
    if v.letters.elem 'c' then
      Sh.change fun p => { p with directories := [] }
      return 0
    match v.place with
    | some (a, none) => refuseIndex "dirs" a
    | some (_, some n) =>
      let d := (shown[n]?).getD ""
      Sh.write (if v.letters.elem 'v' then row (d, n) else d ++ "\n")
      return 0
    | none =>
      if v.letters.elem 'v' then Sh.write (String.join (shown.zipIdx.map row))
      else Sh.write (Octets.join (if v.letters.elem 'p' then "\n" else " ") shown ++ "\n")
      return 0

end Builtin

end ShellCoverage.Shell
