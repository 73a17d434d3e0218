import ShellCoverage.FileSystem.Lookup

/-!
# Changing a file system

* `FileSystem.reach`, `FileSystem.target` : the place of a path whose last name may be missing;
* `FileSystem.write` : gives a file new content, and makes the file if it is missing;
* `FileSystem.makeDirectory`, `FileSystem.makeDirectories` : new directories;
* `FileSystem.place` : puts a node at a path, with the directories above it;
* `FileSystem.remove` : takes away what a path names;
* `FileSystem.change` : goes to another directory.
-/

namespace ShellCoverage.FileSystem

/-- The file system with the node at a place replaced. -/
def adjust (fs : FileSystem) (place : List Name) (f : Option Node → Option Node) : FileSystem :=
  { fs with tree := fs.tree.adjust f place }

/-- Where some names lead from a directory when the last of them may be missing: as `walk` goes, but to
the place for a new node too. Nothing is made in a directory that was removed, or under a name that no
path has. -/
def reach (fs : FileSystem) (links : Nat) (place : List Name) :
    List Name → Except Errno (List Name × Option Node)
  | [] =>
    match fs.nodeAt? place with
    | some x => .ok (place, some x)
    | none => .error .noEntry
  | n :: ns =>
    match fs.nodeAt? place with
    | none => .error .noEntry
    | some x =>
      if !x.isDirectory then .error .notDirectory
      else if n = [46] then reach fs links place ns
      else if n = [46, 46] then reach fs links place.dropLast ns
      else if maxName < n.length then .error .nameTooLong
      else
        match x.child? n with
        | none =>
          if ns = [] && !isRemoved place && !n.elem 0 then .ok (place ++ [n], none) else .error .noEntry
        | some (.link target) =>
          match links with
          | 0 => .error .tooManyLinks
          | links + 1 =>
            reach fs links (if target.head? = some 47 then [] else place) (steps target ++ ns)
        | some _ => reach fs links (place ++ [n]) ns
termination_by names => (links, names.length)

/-- The place where a path leads when its last name may be missing: links are followed, a dangling
one to the place where it points. -/
def target (fs : FileSystem) (path : Bytes) : Except Errno (List Name × Option Node) :=
  if path = [] then .error .noEntry
  else if maxPath ≤ path.length then .error .nameTooLong
  else reach fs maxLinks (if path.head? = some 47 then [] else fs.cwd) (steps path)

/-- The mode of a new file. -/
def defaultMode : Nat := 0o644

/-- Gives the file at a path new content, computed from the old one. -/
def writeBytes (fs : FileSystem) (path : Bytes) (f : Bytes → Bytes) : Except Errno FileSystem :=
  match fs.target path with
  | .error e => .error e
  | .ok (_, some (.directory _ _)) => .error .isDirectory
  | .ok (place, some (.file mode content)) =>
    .ok (fs.adjust place fun _ => some (.file mode (f content)))
  | .ok (_, some _) => .ok fs
  | .ok (place, none) => .ok (fs.adjust place fun _ => some (.file defaultMode (f [])))

/-- Gives the file at a path new content. -/
def write (fs : FileSystem) (path : Text) (content : Bytes) : Except FileError FileSystem := do
  let bs ← encodePath path
  match fs.writeBytes bs fun _ => content with
  | .ok fs => .ok fs
  | .error e => .error (.system e path)

/-- Makes a directory in an existing one. -/
def makeDirectoryBytes (fs : FileSystem) (path : Bytes) : Except Errno FileSystem :=
  if path = [] then .error .noEntry
  else if maxPath ≤ path.length then .error .nameTooLong
  else
    let start := if path.head? = some 47 then [] else fs.cwd
    let ns := (steps.split path).filter (· ≠ [])
    match ns.getLast? with
    | none => .error .alreadyExists
    | some n =>
      match fs.walk true maxLinks start ns.dropLast with
      | .error e => .error e
      | .ok (dir, x) =>
        if !x.isDirectory then .error .notDirectory
        else if n = [46] || n = [46, 46] then .error .alreadyExists
        else if maxName < n.length then .error .nameTooLong
        else
          match x.child? n with
          | some _ => .error .alreadyExists
          | none =>
            if isRemoved dir then .error .noEntry
            else .ok (fs.adjust (dir ++ [n]) fun _ => some (.directory Node.directoryMode []))

/-- Makes a directory in an existing one. -/
def makeDirectory (fs : FileSystem) (path : Text) : Except FileError FileSystem := do
  let bs ← encodePath path
  match fs.makeDirectoryBytes bs with
  | .ok fs => .ok fs
  | .error e => .error (.system e path)

/-- Makes a directory unless it is there. -/
def ensureDirectory (fs : FileSystem) (path : Path) : FileSystem × Except FileError Unit :=
  match fs.makeDirectory path.toText with
  | .ok fs => (fs, .ok ())
  | .error (.system .noEntry t) => (fs, .error (.system .noEntry t))
  | .error (.system e t) =>
    match fs.isDirectory? path.toText with
    | .ok true => (fs, .ok ())
    | .ok false => (fs, .error (.system e t))
    | .error e => (fs, .error e)
  | .error e => (fs, .error e)

/-- Makes the directory whose names, last one first, are given, and those above it that are
missing. -/
def makeUpwards (fs : FileSystem) (root : PathRoot) : List Text → FileSystem × Except FileError Unit
  | [] => fs.ensureDirectory ⟨root, []⟩
  | n :: above =>
    let p : Path := ⟨root, (n :: above).reverse⟩
    match fs.makeDirectory p.toText with
    | .ok fs => (fs, .ok ())
    | .error (.system .noEntry _) =>
      match makeUpwards fs root above with
      | (fs, .ok ()) => fs.ensureDirectory p
      | (fs, .error e) => (fs, .error e)
    | .error _ => fs.ensureDirectory p

/-- Makes a directory, and those above it that are missing, unless it is there. Where one of them cannot
be made, those above it stay. -/
def makeDirectories (fs : FileSystem) (p : Path) : FileSystem × Except FileError Unit :=
  fs.makeUpwards p.root p.parts.reverse

/-- Goes to another directory. -/
def change (fs : FileSystem) (path : Text) : Except FileError FileSystem := do
  match ← fs.locate true path with
  | (place, .directory _ _) => .ok { fs with cwd := place }
  | _ => .error (.system .notDirectory path)

/-- Takes away what a path names: a link itself, a file, or a directory with all below it. -/
def remove (fs : FileSystem) (path : Text) : Except FileError FileSystem := do
  let (place, _) ← fs.locate false path
  .ok (fs.adjust place fun _ => none)

end ShellCoverage.FileSystem
