import ShellCoverage.FileSystem.Node
import ShellCoverage.FileSystem.Path
import ShellCoverage.Text.Quoted

/-!
# Looking up paths

A file system is a tree and a current directory. A lookup goes through the names of a path one by one
and replaces symbolic links by their targets, at most `maxLinks` times.

* `Errno`, `FileError` : why an operation on a path fails;
* `FileSystem.find` : the place and the node of a path;
* `FileSystem.isFile`, `isDirectory`, `exists?`, `isFile?` : tests on a path;
* `FileSystem.canonical` : the path without links, of missing files too;
* `FileSystem.read` : the content of a file.
-/

namespace ShellCoverage

/-- Why the system refuses an operation on a path. -/
inductive Errno where
  | noEntry
  | isDirectory
  | notDirectory
  | tooManyLinks
  | alreadyExists
  | nameTooLong
  | notExecutable
  | accessDenied
  | notEmpty
  | badDescriptor
  | brokenPipe
  | invalidArgument
  deriving DecidableEq, Repr

namespace Errno

/-- The number of an error. -/
def number : Errno → Nat
  | .noEntry => 2
  | .notExecutable => 8
  | .badDescriptor => 9
  | .accessDenied => 13
  | .alreadyExists => 17
  | .notDirectory => 20
  | .isDirectory => 21
  | .invalidArgument => 22
  | .brokenPipe => 32
  | .nameTooLong => 36
  | .notEmpty => 39
  | .tooManyLinks => 40

/-- The description of an error. -/
def description : Errno → String
  | .noEntry => "No such file or directory"
  | .notExecutable => "Exec format error"
  | .accessDenied => "Permission denied"
  | .alreadyExists => "File exists"
  | .notDirectory => "Not a directory"
  | .isDirectory => "Is a directory"
  | .nameTooLong => "File name too long"
  | .notEmpty => "Directory not empty"
  | .tooManyLinks => "Too many levels of symbolic links"
  | .badDescriptor => "Bad file descriptor"
  | .brokenPipe => "Broken pipe"
  | .invalidArgument => "Invalid argument"

end Errno

/-- Why an operation on a path fails. -/
inductive FileError where
  /-- The system refuses it. -/
  | system (e : Errno) (path : Text)
  /-- The path holds a null byte. -/
  | nullByte
  /-- The text has no bytes: from `position` on, `count` surrogates stand for none; `c` is the first. -/
  | unencodable (c : CodePoint) (position count : Nat)
  /-- The path goes around in a circle of symbolic links. -/
  | circle (path : Text)

/-- The message of a failure. -/
def FileError.message : FileError → Text
  | .system e path =>
    ("[Errno " : Text) ++ Text.ofNat e.number ++ "] " ++ e.description ++ ": " ++ path.quoted
  | .nullByte => "embedded null byte"
  | .unencodable c position count =>
    ("'utf-8' codec can't encode " : Text) ++
      (if count ≤ 1 then
        ("character '" : Text) ++ Text.quotedPoint 39 c ++ "' in position " ++ Text.ofNat position
      else
        ("characters in position " : Text) ++ Text.ofNat position ++ "-" ++
          Text.ofNat (position + count - 1)) ++
      ": surrogates not allowed"
  | .circle path => ("Symlink loop from " : Text) ++ path.quoted

/-- A file tree with a current directory. -/
structure FileSystem where
  tree : Node
  cwd : List Name

namespace FileSystem

/-- The number of symbolic links that one lookup follows. -/
def maxLinks : Nat := 40

/-- The length that no name exceeds. -/
def maxName : Nat := 255

/-- The length that every path stays below. -/
def maxPath : Nat := 4096

/-- The names between the slashes of a path; a slash at its end asks for a directory, as `.` does. -/
def steps (path : Bytes) : List Name :=
  let names := (split path).filter (· ≠ [])
  if path.getLast? = some 47 && path.any (· ≠ 47) then names ++ [[46]] else names
where
  /-- The pieces between slashes. -/
  split : Bytes → List Bytes
    | [] => [[]]
    | b :: r =>
      if b = 47 then [] :: split r
      else
        match split r with
        | [] => [[b]]
        | p :: ps => (b :: p) :: ps

/-- The name for what was removed as the `n`th; no path has it. -/
def removedName (n : Nat) : Name := 0 :: (toString n).toUTF8.toList

/-- The place is that of something that was removed. -/
def isRemoved (place : List Name) : Bool := place.getLast?.any fun n => n.head? = some 0

/-- The node at a place. A directory that was removed while it was the current one is there, and empty. -/
def nodeAt? (fs : FileSystem) (place : List Name) : Option Node :=
  if isRemoved place then some (.directory Node.directoryMode []) else fs.tree.at? place

/-- Where the names `names` lead from the directory `place`; a link at the end is followed if `follow`
is set. Every name consumed shortens the list, and every link followed uses up one of `links`. -/
def walk (fs : FileSystem) (follow : Bool) (links : Nat) (place : List Name) :
    List Name → Except Errno (List Name × Node)
  | [] =>
    match fs.nodeAt? place with
    | some x => .ok (place, x)
    | none => .error .noEntry
  | n :: ns =>
    match fs.nodeAt? place with
    | none => .error .noEntry
    | some x =>
      if !x.isDirectory then .error .notDirectory
      else if n = [46] then walk fs follow links place ns
      else if n = [46, 46] then walk fs follow links place.dropLast ns
      else if maxName < n.length then .error .nameTooLong
      else
        match x.child? n with
        | none => .error .noEntry
        | some (.link target) =>
          if ns = [] && !follow then .ok (place ++ [n], .link target)
          else
            match links with
            | 0 => .error .tooManyLinks
            | links + 1 =>
              walk fs follow links (if target.head? = some 47 then [] else place)
                (steps target ++ ns)
        | some _ => walk fs follow links (place ++ [n]) ns
termination_by names => (links, names.length)

/-- The place and the node of a path given in bytes. -/
def find (fs : FileSystem) (follow : Bool) (path : Bytes) : Except Errno (List Name × Node) :=
  if path = [] then .error .noEntry
  else if maxPath ≤ path.length then .error .nameTooLong
  else walk fs follow maxLinks (if path.head? = some 47 then [] else fs.cwd) (steps path)

/-- The error for the first run of code points in `t` that satisfy `bad`, if there is one. -/
def unencodable? (bad : CodePoint → Bool) (t : Text) : Option FileError :=
  match t.dropWhile fun c => !bad c with
  | [] => none
  | c :: r => some (.unencodable c (t.length - r.length - 1) (1 + (r.takeWhile bad).length))

/-- A surrogate that stands for no byte. -/
def hasNoByte (c : CodePoint) : Bool := c.isSurrogate && (Utf8.unescape? c).isNone

/-- The bytes of a path. -/
def encodePath (path : Text) : Except FileError Bytes :=
  match path.toBytes? with
  | none => .error ((unencodable? hasNoByte path).getD .nullByte)
  | some bs => if bs.elem 0 then .error .nullByte else .ok bs

/-- The place and the node of a path. -/
def locate (fs : FileSystem) (follow : Bool) (path : Text) :
    Except FileError (List Name × Node) := do
  let bs ← encodePath path
  match fs.find follow bs with
  | .ok r => .ok r
  | .error e => .error (.system e path)

/-- The text of a place. -/
def placeText (place : List Name) : Text :=
  Path.slash :: Text.join [Path.slash] (place.map Text.ofBytes)

/-- A failure that means that the path names nothing. -/
def isAbsence : FileError → Bool
  | .system .noEntry _ | .system .notDirectory _ | .system .tooManyLinks _ => true
  | .nullByte | .unencodable _ _ _ => true
  | _ => false

/-- A test on the node of a path. A path that names nothing fails the test; other failures, such as
a name that is too long, are failures of the test. -/
def test (fs : FileSystem) (p : Node → Bool) (path : Text) : Except FileError Bool :=
  match fs.locate true path with
  | .ok (_, x) => .ok (p x)
  | .error e => if isAbsence e then .ok false else .error e

/-- The path names a regular file. -/
def isFile? (fs : FileSystem) (path : Text) : Except FileError Bool := fs.test Node.isFile path

/-- The path names something. -/
def exists? (fs : FileSystem) (path : Text) : Except FileError Bool := fs.test (fun _ => true) path

/-- The path names a directory. -/
def isDirectory? (fs : FileSystem) (path : Text) : Except FileError Bool :=
  fs.test Node.isDirectory path

/-- The path names a regular file; any failure counts as no. -/
def isFile (fs : FileSystem) (path : Text) : Bool :=
  match fs.locate true path with
  | .ok (_, x) => x.isFile
  | .error _ => false

/-- The path names a file that may be executed. -/
def isExecutable (fs : FileSystem) (path : Text) : Bool :=
  match fs.locate true path with
  | .ok (_, x) => x.isExecutable
  | .error _ => false

/-! ## Canonical paths -/

/-- The target of the symbolic link at a place. -/
def linkAt? (fs : FileSystem) (place : List Text) : Option Text := do
  let names ← place.mapM Text.toBytes?
  match fs.nodeAt? names with
  | some (.link target) => some (Text.ofBytes target)
  | _ => none

/-- The names of a text between slashes, `.` and empty ones left out. -/
abbrev names (t : Text) : List Text := Path.components t

/-- What is known of the links on the way: their targets, or nothing while they are being resolved. -/
abbrev Seen := List (List Text × Option (List Text))

/-- The canonical place reached from `place` by some names. The flag is false when a circle of links
was met; the names after it are then kept as they are. Links nest at most `nesting` deep. -/
def resolveNames (fs : FileSystem) (nesting : Nat) (seen : Seen) (place : List Text) :
    List Text → List Text × Bool × Seen
  | [] => (place, true, seen)
  | n :: ns =>
    if n = Path.up then resolveNames fs nesting seen place.dropLast ns
    else
      let next := place ++ [n]
      match fs.linkAt? next with
      | none => resolveNames fs nesting seen next ns
      | some target =>
        match seen.find? (·.1 = next) with
        | some (_, some known) => resolveNames fs nesting seen known ns
        | some (_, none) => (next ++ ns, false, seen)
        | none =>
          match nesting with
          | 0 => (next ++ ns, false, seen)
          | nesting + 1 =>
            let start := if Path.isAbsolute target then [] else place
            match resolveNames fs nesting ((next, none) :: seen) start (names target) with
            | (reached, false, seen) => (reached ++ ns, false, seen)
            | (reached, true, seen) =>
              resolveNames fs (nesting + 1) ((next, some reached) :: seen) reached ns
termination_by ns => (nesting, ns.length)

/-- Names without `..`, each of which takes away the name before it. -/
def collapse (place : List Text) : List Text :=
  place.foldl (fun acc n => if n = Path.up then acc.dropLast else acc ++ [n]) []

/-- The text of the absolute path with these names. -/
def absoluteText (place : List Text) : Text := Path.slash :: Text.join [Path.slash] place

/-- The names of the canonical path: links are replaced by their targets as far as they exist. -/
def canonicalNames (fs : FileSystem) (path : Text) : List Text :=
  let start := if Path.isAbsolute path then [] else fs.cwd.map Text.ofBytes
  collapse (fs.resolveNames (fs.tree.linkCount + 1) [] start (names path)).1

/-- The names of `place` as they are seen from the current directory. -/
def relativeNames (fs : FileSystem) (place : List Text) : List Text :=
  let here := fs.cwd.map Text.ofBytes
  let shared := ((here.zip place).takeWhile fun p => p.1 = p.2).length
  List.replicate (here.length - shared) Path.up ++ place.drop shared

/-- The path that the names before a faulty one lead to, as the lookup names it: seen from the current
directory until a link leads to an absolute path. -/
def reachedText (fs : FileSystem) (isAbsolute : Bool) (place : List Text) : List Text → Text
  | [] =>
    if isAbsolute then absoluteText place ++ (if place = [] then [] else [Path.slash])
    else (fs.relativeNames place).flatMap fun n => n ++ [Path.slash]
  | n :: ns =>
    let leaves := (fs.linkAt? (place ++ [n])).any Path.isAbsolute
    let (next, _) := fs.resolveNames (fs.tree.linkCount + 1) [] place [n]
    reachedText fs (isAbsolute || leaves) next ns

/-- The failure of a path that has no bytes: the lookup stops at the first name without any. -/
def faultyName (fs : FileSystem) (path : Text) : FileError :=
  let good (n : Text) : Bool := (encodePath n).toOption.isSome
  let ns := names path
  let start := if Path.isAbsolute path then [] else fs.cwd.map Text.ofBytes
  let before := fs.reachedText (Path.isAbsolute path) start (ns.takeWhile good)
  match encodePath (before ++ ((ns.dropWhile good).head?).getD []) with
  | .error e => e
  | .ok _ => .nullByte

/-- The canonical path; a circle of links is an error. -/
def canonical (fs : FileSystem) (path : Text) : Except FileError Text :=
  match encodePath path with
  | .error _ => .error (fs.faultyName path)
  | .ok _ =>
    let t := absoluteText (fs.canonicalNames path)
    match fs.locate true t with
    | .error (.system .tooManyLinks _) => .error (.circle t)
    | _ => .ok t

/-! ## Reading -/

/-- The content of a file; a device has none. -/
def read (fs : FileSystem) (path : Text) : Except FileError Bytes := do
  match ← fs.locate true path with
  | (_, .file mode content) =>
    if Node.isReadable (.file mode content) then .ok content else .error (.system .accessDenied path)
  | (_, .directory _ _) => .error (.system .isDirectory path)
  | _ => .ok []

/-- The text of the current directory; an error if it is gone. -/
def workingDirectory (fs : FileSystem) : Except FileError Text :=
  match fs.tree.at? fs.cwd with
  | some _ => .ok (placeText fs.cwd)
  | none => .error (.system .noEntry [])

end FileSystem

end ShellCoverage
