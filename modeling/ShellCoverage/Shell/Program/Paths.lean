import ShellCoverage.Shell.Program.Files

/-!
# Programs on paths

`basename`, `dirname`, `pwd`, `readlink`, `realpath`, `mktemp` and `pathchk`.

* `Program.canonical?` : the path of a file without links.
-/

namespace ShellCoverage.Shell.Program

/-! ## Names -/

/-- A name without an ending, unless nothing would be left. -/
def withoutEnding (ending name : Octets) : Octets :=
  if name ≠ ending && ending.toList.isSuffixOf name.toList then
    String.ofList (name.toList.take (name.length - ending.length))
  else name

/-- `basename` -/
def basename : Program := fun args =>
  let u : Usage :=
    { letters := "as:z", leading := true, words := [("multiple", "a"), ("suffix", "s"), ("zero", "z")] }
  u.run args fun os operands => do
    let feed := if os.has "z" then "\x00" else "\n"
    match operands with
    | [] => missingOperand
    | path :: more =>
      if os.has "a" || os.has "s" then
        for p in operands do
          Sh.write (withoutEnding ((os.value? "s").getD "") (lastName p) ++ feed)
        return 0
      else
        match more with
        | _ :: extra :: _ => extraOperand extra
        | _ =>
          Sh.write (withoutEnding (more.headD "") (lastName path) ++ feed)
          return 0

/-- `dirname` -/
def dirname : Program := fun args =>
  let u : Usage := { letters := "z", leading := true, words := [("zero", "z")] }
  u.run args fun os paths => do
    if paths = [] then return ← missingOperand
    for p in paths do
      Sh.write (directoryName p ++ (if os.has "z" then "\x00" else "\n"))
    return 0

/-- `pwd` -/
def pwd : Program := fun args =>
  let u : Usage := { letters := "LP", words := [("logical", "L"), ("physical", "P")] }
  u.run args fun _ _ => do
    let place := (← Sh.process).cwd
    if FileSystem.isRemoved place then
      complain "couldn't find directory entry in '..' with matching i-node"
      return 1
    Sh.write (Sh.placeText place ++ "\n")
    return 0

/-! ## Links -/

/-- How much of a path has to be there. -/
inductive Presence where
  | whole
  /-- All but the last name. -/
  | directory
  | nothing
  deriving DecidableEq

/-- The place that names lead to from a place, where those that are missing are taken as they are. -/
def placeWithout (place : List Name) (names : List Octets) : List Name :=
  names.foldl (fun place n =>
    if n = "." || n = "" then place
    else if n = ".." then place.dropLast else place ++ [Octets.toBytes n]) place

/-- The place of a path of which not all needs to be there; the number bounds the names. -/
def loosePlace : Nat → Octets → List Octets → Sh (List Name)
  | 0, _, _ => return []
  | n + 1, head, rest => do
    match ← Sh.node? true head with
    | .ok (place, _) => return placeWithout place rest
    | .error _ =>
      if head = "." || head = "/" then return placeWithout [] rest
      else loosePlace n (directoryName head) (lastName head :: rest)

/-- The path of a file without links. -/
def canonical? (presence : Presence) (path : Octets) : Sh (Except Errno Octets) := do
  if path = "" then return .error .noEntry
  match presence with
  | .whole => return (← Sh.node? true path).map fun p => Sh.placeText p.1
  | .directory => return ((← Sh.fileSystem).target (Octets.toBytes path)).map fun p => Sh.placeText p.1
  | .nothing => return .ok (Sh.placeText (← loosePlace (path.length + 2) path []))

/-- How much of a path has to be there, by the options. -/
def presenceOf (os : Options) (usual : Presence) : Presence :=
  match os.last? ["f", "e", "m"] with
  | some "f" => .directory
  | some "e" => .whole
  | some "m" => .nothing
  | _ => usual

/-- `readlink` -/
def readlink : Program := fun args =>
  let u : Usage :=
    { letters := "efmnqsvz"
      words := [("canonicalize", "f"), ("canonicalize-existing", "e"), ("canonicalize-missing", "m"),
        ("no-newline", "n"), ("quiet", "q"), ("silent", "s"), ("verbose", "v"), ("zero", "z")] }
  u.run args fun os paths => do
    if paths = [] then return ← missingOperand
    let feed := if os.has "n" && paths.length = 1 then "" else if os.has "z" then "\x00" else "\n"
    let failed (path : Octets) (e : Errno) : Sh Bool := do
      if os.has "v" then complainOf path e
      return false
    onEach paths fun path => do
      if ["f", "e", "m"].any os.has then
        match ← canonical? (presenceOf os .directory) path with
        | .ok p =>
          Sh.write (p ++ feed)
          return true
        | .error e => failed path e
      else
        match ← Sh.node? false path with
        | .ok (_, .link t) =>
          Sh.write (Octets.ofBytes t ++ feed)
          return true
        | .ok _ => failed path .invalidArgument
        | .error e => failed path e

/-- `realpath` -/
def realpath : Program := fun args =>
  let u : Usage :=
    { letters := "eLmPqsz"
      words := [("canonicalize-existing", "e"), ("canonicalize-missing", "m"), ("logical", "L"),
        ("physical", "P"), ("quiet", "q"), ("strip", "s"), ("no-symlinks", "s"), ("zero", "z"),
        ("relative-to", "relative-to:"), ("relative-base", "relative-base:")] }
  u.run args fun os paths => do
    if paths = [] then return ← missingOperand
    let resolve (path : Octets) : Sh (Except Errno Octets) := do
      if os.has "s" then
        let cwd := (← Sh.process).cwd
        let start := if Octets.startsWith "/" path then [] else cwd
        return .ok (Sh.placeText (placeWithout start (Octets.pieces '/' path)))
      else canonical? (presenceOf os .directory) path
    let places (p : Octets) : List Name := ((Octets.pieces '/' p).filter (· ≠ "")).map Octets.toBytes
    let base ← match os.value? "relative-to" with
      | none => pure none
      | some dir => match ← resolve dir with
        | .ok p => pure (some (places p))
        | .error _ => pure none
    onEach paths fun path => do
      match ← resolve path with
      | .ok p =>
        let shown := match base with
          | some dir => relativePath dir (places p)
          | none => p
        Sh.write (shown ++ (if os.has "z" then "\x00" else "\n"))
        return true
      | .error e =>
        if !os.has "q" then complainOf path e
        return false

/-! ## Names that are new -/

/-- The letters of which new names consist. -/
def nameLetters : Array Char :=
  "ABCDEFGHIJKLMNOPQRSTUVWXYZabcdefghijklmnopqrstuvwxyz0123456789".toList.toArray

/-- So many letters that a number stands for. -/
def lettersFor (count n : Nat) : List Char :=
  (List.range count).map fun i => (nameLetters[(n / 62 ^ i + 7 * i * n) % 62]?).getD 'x'

/-- `mktemp` -/
def mktemp : Program := fun args =>
  let u : Usage :=
    { letters := "dp:qtuV"
      words := [("directory", "d"), ("tmpdir", "tmpdir::"), ("quiet", "q"), ("dry-run", "u"),
        ("suffix", "suffix:")] }
  u.run args fun os operands => do
    match operands with
    | _ :: _ :: _ => misuse "too many templates"
    | _ =>
      let given := operands.headD "tmp.XXXXXXXXXX"
      let directory ← match os.value? "p", os.value? "tmpdir" with
        | some d, _ => pure (some d)
        | none, some d => pure (some (if d = "" then "/tmp" else d))
        | none, none =>
          if operands = [] || os.has "t" then
            let d := (Table.get? "TMPDIR" (← environment)).getD ""
            pure (some (if d = "" then "/tmp" else d))
          else pure none
      let stem := given.toList
      let ending := match os.value? "suffix" with
        | some s => s.toList
        | none => (stem.reverse.takeWhile (· ≠ 'X')).reverse
      let ending := if stem.elem 'X' || os.has "suffix" then ending else []
      let body := if os.has "suffix" then stem else stem.take (stem.length - ending.length)
      let count := (body.reverse.takeWhile (· = 'X')).length
      if count < 3 then
        complain ("too few X's in template " ++ cited given)
        return 1
      let n ← Sh.newPid
      let name := String.ofList (body.take (body.length - count) ++ lettersFor count (n * 7919) ++ ending)
      let shownAs := match directory with | some d => below d given | none => given
      let path := match directory with | some d => below d name | none => name
      if os.has "u" then
        Sh.write (path ++ "\n")
        return 0
      let problem ← match ← spot? path with
        | .error e => pure (some e)
        | .ok (place, _) => put place (some (if os.has "d" then .directory 0o700 [] else .file 0o600 []))
      match problem with
      | none =>
        Sh.write (path ++ "\n")
        return 0
      | some e =>
        if !os.has "q" then
          complain ("failed to create " ++ (if os.has "d" then "directory" else "file") ++ " via template " ++
            cited shownAs ++ ": " ++ e.description)
        return 1

/-! ## Portable names -/

/-- The character may be in a name on every system. -/
def isPortable (c : Char) : Bool := c.isAlphanum || c = '.' || c = '_' || c = '-' || c = '/'

/-- How `pathchk` looks at names. -/
structure PathCheck where
  /-- The limits of all systems count, and not those of this one. -/
  everywhere : Bool
  /-- A name is not empty, and none of its parts begins with a minus sign. -/
  strict : Bool

/-- What is wrong with the form of a path, if there is something. -/
def PathCheck.formFault? (k : PathCheck) (path : Octets) : Option Octets :=
  if k.strict && (Octets.pieces '/' path).any (Octets.startsWith "-") then
    some ("leading '-' in a component of file name " ++ cited path)
  else if (k.strict || k.everywhere) && path = "" then some "empty file name"
  else
    (path.toList.find? fun c => k.everywhere && !isPortable c).map fun c =>
      "nonportable character " ++ quoted c.toString ++ " in file name " ++ cited path

/-- The limit that a path exceeds, if there is one. -/
def PathCheck.sizeFault? (k : PathCheck) (path : Octets) : Option Octets :=
  let exceeded (most : Nat) (kind s : Octets) : Octets :=
    "limit " ++ Octets.ofNat most ++ " exceeded by length " ++ Octets.ofNat s.length ++ " of " ++ kind ++ " " ++ cited s
  let longest := if k.everywhere then 255 else FileSystem.maxPath - 1
  let longestPart := if k.everywhere then 14 else FileSystem.maxName
  if longest < path.length then some (exceeded longest "file name" path)
  else
    ((Octets.pieces '/' path).find? fun p => longestPart < p.length).map
      (exceeded longestPart "file name component")

/-- `pathchk` -/
def pathchk : Program := fun args =>
  let u : Usage := { letters := "pP", words := [("portability", "portability")] }
  u.run args fun os paths => do
    if paths = [] then return ← missingOperand
    let k : PathCheck :=
      { everywhere := os.has "p" || os.has "portability", strict := os.has "P" || os.has "portability" }
    onEach paths fun p => do
      match k.formFault? p with
      | some e => refuse e
      | none =>
        let found ← if k.everywhere then pure (.error Errno.noEntry) else Sh.node? false p
        match found with
        | .ok _ => return true
        | .error e =>
          if e ≠ .noEntry || (p = "" && !k.everywhere) then
            complainOf p e
            return false
          match k.sizeFault? p with
          | some e => refuse e
          | none => return true

end ShellCoverage.Shell.Program
