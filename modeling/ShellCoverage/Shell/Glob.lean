import ShellCoverage.Shell.Field
import ShellCoverage.Shell.Machine

/-!
# Path names from patterns

A field with a pattern stands for the paths that match it, in ascending order.

* `Sh.glob?` : the paths for a field; none if the field is no pattern or nothing matches.
-/

namespace ShellCoverage.Shell

namespace Glob

/-- The parts of a field between slashes. -/
def parts : List Quotable → List (List Quotable)
  | [] => [[]]
  | q :: r =>
    if q.1 = '/' then [] :: parts r
    else
      match parts r with
      | [] => [[q]]
      | p :: ps => (q :: p) :: ps

/-- How patterns for paths are read. -/
structure Settings where
  charset : Charset
  extended : Bool
  /-- Names that begin with a dot match. -/
  dots : Bool
  fold : Bool
  /-- Two asterisks stand for any number of directories. -/
  deep : Bool

/-- The names of the directory at a path. -/
def names (fs : FileSystem) (path : Octets) : List Octets :=
  match fs.find true (Octets.toBytes (if path = "" then "." else path)) with
  | .ok (_, .directory _ es) => es.map fun e => Octets.ofBytes e.1
  | _ => []

/-- The path names a directory. -/
def isDirectory (fs : FileSystem) (path : Octets) : Bool :=
  match fs.find true (Octets.toBytes path) with
  | .ok (_, .directory _ _) => true
  | _ => false

/-- The path names something. -/
def isThere (fs : FileSystem) (path : Octets) : Bool :=
  match fs.find false (Octets.toBytes path) with
  | .ok _ => true
  | .error _ => false

/-- The directories below a path, as deep as given. -/
def below (fs : FileSystem) : Nat → Octets → List Octets
  | 0, _ => []
  | n + 1, path =>
    let subs := (names fs path).filter fun d => !(Octets.startsWith "." d)
    let subs := (subs.map fun d => path ++ d).filter fun d =>
      match fs.find false (Octets.toBytes d) with
      | .ok (_, .directory _ _) => true
      | _ => false
    subs.flatMap fun d => (d ++ "/") :: below fs n (d ++ "/")

/-- The paths that extend a path, which is empty or ends in a slash, by parts of a pattern. Slashes in a row
stay as they are, but for those after a part that was found. -/
def extend (fs : FileSystem) (s : Settings) (isFound : Bool) (path : Octets) :
    List (List Quotable) → List Octets
  | [] => [path]
  | [] :: ps => extend fs s isFound (if isFound && path ≠ "" then path else path ++ "/") ps
  | p :: ps =>
    let last := ps.isEmpty
    let all := String.ofList (p.map (·.1))
    if s.deep && all = "**" && !(p.any (·.2)) then
      let dirs := path :: below fs 64 path
      if last then
        dirs.flatMap fun d =>
          (if d = path then (if path = "" then [] else [path]) else [String.ofList d.toList.dropLast]) ++
            ((names fs d).filter fun n => !(Octets.startsWith "." n) &&
              !(isDirectory fs (d ++ n))).map (d ++ ·)
      else dirs.flatMap fun d => if d = "" && ps = [[]] then [] else extend fs s true d ps
    else if Pattern.isMagic s.extended p then
      let pattern := s.charset.pattern s.extended p
      let startsWithDot := (p.head?.map (·.1)) = some '.'
      let found := (names fs path).filter fun n =>
        (startsWithDot || s.dots || !(Octets.startsWith "." n)) &&
          s.charset.accepts s.fold pattern n
      if last then found.map (path ++ ·)
      else
        (found.filter fun n => isDirectory fs (path ++ n)).flatMap fun n =>
          extend fs s true (path ++ n ++ "/") ps
    else if last then
      if isThere fs (path ++ all) then [path ++ all] else []
    else if isDirectory fs (path ++ all) then extend fs s isFound (path ++ all ++ "/") ps
    else []

end Glob

namespace Sh

/-- The order of strings by bytes. -/
def bytesLe (a b : Octets) : Bool := decide (a.toList ≤ b.toList)

/-- The paths for a field; none if the field is no pattern or nothing matches. -/
def glob? (field : List Quotable) : Sh (Option (List Octets)) := do
  let features := (← process).features
  let extended := features.elem "extglob"
  if (← hasOption "noglob") || !(Pattern.isMagic extended field) then return none
  let fs ← fileSystem
  let s : Glob.Settings :=
    ⟨← charset, extended, features.elem "dotglob", features.elem "nocaseglob", features.elem "globstar"⟩
  match ((Glob.extend fs s false "" (Glob.parts field)).mergeSort bytesLe).eraseDups with
  | [] => return none
  | paths => return some paths

end Sh

end ShellCoverage.Shell
