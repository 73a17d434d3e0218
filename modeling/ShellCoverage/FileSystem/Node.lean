import ShellCoverage.Text.Utf8

/-!
# File trees

* `Node` : a file with its mode and content, a symbolic link, a device, or a directory of named nodes;
* `Node.child?`, `Node.at?` : the node below a node;
* `Node.adjust` : a tree with the node at some place replaced, added or removed;
* `Node.linkCount` : the number of symbolic links.
-/

namespace ShellCoverage

/-- The name of a directory entry. -/
abbrev Name := Bytes

/-- A node of a file tree. -/
inductive Node where
  | file (mode : Nat) (content : Bytes)
  | link (target : Bytes)
  /-- A device; reading it gives nothing. -/
  | device
  /-- A pipe with a name, which is known by a number. -/
  | fifo (number : Nat)
  | directory (mode : Nat) (entries : List (Name × Node))

namespace Node

/-- The mode of a directory, unless it is changed. -/
def directoryMode : Nat := 0o755

instance : Inhabited Node := ⟨.directory directoryMode []⟩

/-- The entry of some name in a list of entries. -/
def named? (n : Name) : List (Name × Node) → Option Node
  | [] => none
  | (m, x) :: es => if m = n then some x else named? n es

/-- The node of some name in a directory. -/
def child? (x : Node) (n : Name) : Option Node :=
  match x with
  | .directory _ es => named? n es
  | _ => none

/-- The node at a place below a node, without following links. -/
def at? (x : Node) : List Name → Option Node
  | [] => some x
  | n :: ns => (x.child? n).bind fun y => y.at? ns

/-- A list of entries in which one name has the given node, or none. -/
def setEntry (n : Name) (y : Option Node) : List (Name × Node) → List (Name × Node)
  | [] =>
    match y with
    | some y => [(n, y)]
    | none => []
  | (m, x) :: es =>
    if m = n then
      match y with
      | some y => (m, y) :: es
      | none => es
    else (m, x) :: setEntry n y es

/-- The tree in which the node at a place is `f` of the node that was there. Where a directory on the
way is missing nothing changes. -/
def adjust (f : Option Node → Option Node) (x : Node) : List Name → Node
  | [] => (f (some x)).getD x
  | [n] =>
    match x with
    | .directory mode es => .directory mode (setEntry n (f (named? n es)) es)
    | y => y
  | n :: ns =>
    match x with
    | .directory mode es =>
      match named? n es with
      | some y => .directory mode (setEntry n (some (y.adjust f ns)) es)
      | none => .directory mode es
    | y => y

mutual

/-- The number of symbolic links in a tree. -/
def linkCount : Node → Nat
  | .link _ => 1
  | .directory _ es => linkCountEntries es
  | _ => 0

/-- The number of symbolic links below some entries. -/
def linkCountEntries : List (Name × Node) → Nat
  | [] => 0
  | (_, x) :: es => linkCount x + linkCountEntries es

end

/-- The node is a directory. -/
def isDirectory : Node → Bool
  | .directory _ _ => true
  | _ => false

/-- The node is a regular file. -/
def isFile : Node → Bool
  | .file _ _ => true
  | _ => false

/-- The mode of a node. -/
def mode : Node → Nat
  | .file m _ => m
  | .directory m _ => m
  | .link _ => 0o777
  | .device => 0o666
  | .fifo _ => 0o644

/-- The owner may read the node. -/
def isReadable (x : Node) : Bool := x.mode / 256 % 2 = 1

/-- The owner may write the node. -/
def isWritable (x : Node) : Bool := x.mode / 128 % 2 = 1

/-- The owner may execute the node; of a directory, may go through it. -/
def isExecutable (x : Node) : Bool := x.mode / 64 % 2 = 1

/-- The directories on the way to a place may be gone through. -/
def isReachable (x : Node) : List Name → Bool
  | [] => true
  | n :: ns => (!x.isDirectory || x.isExecutable) && (x.child? n).all fun y => y.isReachable ns

end Node

end ShellCoverage
