import ShellCoverage.FileSystem.Lookup

/-!
# Finding scripts

A file is a shell script if its name says so or if its first line names a shell. Scripts are looked for
in all directories below a root except hidden ones. Links to files are followed, links to directories
are not. The walk looks each directory up by the text that it has for it; one that is too long is passed over.

* `Script.namesShell` : a first line that names `sh` or `bash`;
* `Script.isScript` : the test on a file;
* `Script.discover` : the scripts below a directory, the files of a directory before its
  subdirectories, both in ascending order of names.
-/

namespace ShellCoverage.Script

/-- The suffixes of shell scripts. -/
def suffixes : List Text := [".sh", ".bash"]

/-- The names of shells. -/
def shellNames : List Text := ["bash", "sh"]

/-- The number of bytes in which the first line is looked for. -/
def headLimit : Nat := 256

/-- One of the shells' names stands at the head, and no word goes on after it. -/
def shellAt (t : Text) : Bool :=
  shellNames.any fun n =>
    match Text.dropHead? n t with
    | none => false
    | some [] => true
    | some (c :: _) => !c.isWord

/-- The name of a shell stands somewhere as a word of its own; `inWord` says that a word goes on before
the text. -/
def mentionsShell (inWord : Bool) : Text → Bool
  | [] => false
  | c :: t => (!inWord && shellAt (c :: t)) || mentionsShell c.isWord t

/-- The first line that names an interpreter names a shell. -/
def namesShell (t : Text) : Bool :=
  match t with
  | 35 :: 33 :: r => mentionsShell false (r.takeWhile (· ≠ 10))
  | _ => false

/-- The first line of some bytes, or as much of it as is looked at. -/
def headLine (content : Bytes) : Text :=
  Text.ofBytesLossy ((content.take headLimit).takeWhile (· ≠ 10))

/-- The path names a shell script. A file that cannot be read is none. -/
def isScript (fs : FileSystem) (path : Text) : Except FileError Bool :=
  if suffixes.elem (Path.ofText path).suffix then .ok true
  else
    match fs.read path with
    | .ok content => .ok (namesShell (headLine content))
    | .error (.system _ _) => .ok false
    | .error e => .error e

/-- The canonical path of an entry that is a script, if it is one. -/
def scriptAt? (fs : FileSystem) (path : Text) : Except FileError (Option Text) := do
  if ← fs.isFile? path then
    if ← isScript fs path then pure (some (← fs.canonical path)) else pure none
  else pure none

/-- The text that the walk has for an entry: that of the directory, a slash, and the name. -/
def entryText (top name : Text) : Text :=
  if top.getLast? = some Path.slash then top ++ name else top ++ Path.slash :: name

/-- The path leads to a directory, perhaps through links. -/
def leadsToDirectory (fs : FileSystem) (path : Text) : Bool :=
  match fs.locate true path with
  | .ok (_, x) => x.isDirectory
  | .error _ => false

/-- The entry with a path counts as a directory: it is one, or a link that leads to one. -/
def isFolder (fs : FileSystem) (path : Text) (x : Node) : Bool := x.isDirectory || leadsToDirectory fs path

/-- The name of a hidden entry. -/
def isHidden (n : Text) : Bool := n.head? = some (CodePoint.ofChar '.')

/-- The order of the names in a directory. -/
def byName {α : Type} (a b : Text × α) : Bool := Text.le a.1 b.1

/-- The scripts among the files of a directory, in ascending order of names. -/
def scriptsOf (fs : FileSystem) (dir : Path) (top : Text) (es : List (Name × Node)) :
    Except FileError (List Text) := do
  let files := es.filter fun e => !isFolder fs (entryText top (Text.ofBytes e.1)) e.2
  let names := (files.map fun e => Text.ofBytes e.1).mergeSort Text.le
  let found ← names.mapM fun n => scriptAt? fs (dir.entry n).toText
  pure (found.filterMap id)

/-- The walk goes into the entry: it is a directory that is not hidden, and its path is not too long. -/
def entersAt (fs : FileSystem) (top : Text) (n : Name) (x : Node) : Bool :=
  x.isDirectory && !isHidden (Text.ofBytes n) && leadsToDirectory fs (entryText top (Text.ofBytes n))

mutual

/-- The scripts at and below the node of a directory, which has a path, and a text that the walk has for it. -/
def discoverAt (fs : FileSystem) (dir : Path) (top : Text) : Node → Except FileError (List Text)
  | .directory _ es => do
    let here ← scriptsOf fs dir top es
    let below := (discoverBelow fs dir top es).mergeSort byName
    let below ← below.mapM (·.2)
    pure (here ++ below.flatten)
  | _ => pure []

/-- The scripts below each directory that the walk goes into, with its name. -/
def discoverBelow (fs : FileSystem) (dir : Path) (top : Text) :
    List (Name × Node) → List (Text × Except FileError (List Text))
  | [] => []
  | (n, x) :: es =>
    let name := Text.ofBytes n
    if entersAt fs top n x then
      (name, discoverAt fs (dir.entry name) (entryText top name) x) :: discoverBelow fs dir top es
    else discoverBelow fs dir top es

end

/-- The scripts below a root, in canonical form. A root that is no directory has none. -/
def discover (fs : FileSystem) (root : Text) : Except FileError (List Text) :=
  match fs.locate true root with
  | .ok (_, x) => discoverAt fs (Path.ofText root) root x
  | .error (.system _ _) => pure []
  | .error e => .error e

end ShellCoverage.Script
