import ShellCoverage.CommandLine.Answer
import ShellCoverage.FileSystem.Update
import ShellCoverage.Shell.Launch

/-!
# The command line

Reads the files below the current directory and the variables that matter, does what the arguments ask
for, and writes back the files that were changed. Everything else is decided by `Answer.toArguments`.
-/

namespace ShellCoverage.CommandLine

/-- How deep the directories are that are read. -/
def deepest : Nat := 64

/-- A file that names an interpreter may be run. -/
def modeOf (content : Bytes) : Nat := if [0x23, 0x21].isPrefixOf content then 0o755 else 0o644

/-- The node for an entry of a directory. -/
def readNode : Nat → IO.FS.DirEntry → IO (Name × Node)
  | 0, e => return (e.fileName, .directory Node.directoryMode [])
  | n + 1, e => do
    if ← e.path.isDir then
      let entries ← (← e.path.readDir).toList.mapM (readNode n)
      return (e.fileName, .directory Node.directoryMode entries)
    let content := (← IO.FS.readBinFile e.path).toList
    return (e.fileName, .file (modeOf content) content)

/-- The files that a script finds: those below the current directory, and those of the machine. -/
def readFiles : IO FileSystem := do
  let here ← IO.currentDir
  let path : Text := here.toString
  let entries ← (← here.readDir).toList.mapM (readNode deepest)
  let machine : FileSystem := ⟨Shell.Installation.tree, []⟩
  let (machine, made) := machine.makeDirectories (Path.ofText path)
  match made.bind fun _ => machine.change path with
  | .ok fs => return fs.adjust fs.cwd fun _ => some (.directory Node.directoryMode entries)
  | .error e => throw (IO.userError (String.ofList (e.message.map fun c => Char.ofNat c.val)))

/-- The entries of a node. -/
def entriesOf : Option Node → List (Name × Node)
  | some (.directory _ es) => es
  | _ => []

/-- Writes the files in which a directory differs from what it was. -/
def saveEntries : Nat → String → List (Name × Node) → List (Name × Node) → IO Unit
  | 0, _, _, _ => return
  | n + 1, directory, old, new => do
    let pathOf (name : Name) : String :=
      directory ++ "/" ++ (String.fromUTF8? (ByteArray.mk name.toArray)).getD ""
    for e in new do
      match e.2, Node.named? e.1 old with
      | .directory _ es, before => do
        IO.FS.createDirAll (pathOf e.1)
        saveEntries n (pathOf e.1) (entriesOf before) es
      | .file _ content, some (.file _ before) =>
        if content ≠ before then IO.FS.writeBinFile (pathOf e.1) (ByteArray.mk content.toArray)
      | .file _ content, _ => IO.FS.writeBinFile (pathOf e.1) (ByteArray.mk content.toArray)
      | _, _ => pure ()
    for e in old do
      if (Node.named? e.1 new).isNone then
        if e.2.isDirectory then IO.FS.removeDirAll (pathOf e.1) else IO.FS.removeFile (pathOf e.1)

/-- The variables that matter to a command line and to the scripts that it traces. -/
def readEnvironment : IO Environment := do
  let names := ["PATH", "HOME", "PWD", "LANG", "LC_ALL", "LC_CTYPE", "TERM", "USER", "BASH_ENV", "SHCOV_ROOT",
    "SHCOV_OUTPUT", "SHCOV_BASH_PATH", "SHCOV_COMMAND_NAME"]
  names.filterMapM fun name => do
    return (← IO.getEnv name).map fun value => (Text.ofString name, Text.ofString value)

/-- The time in seconds, which is that of a file that was just made. -/
def readClock : IO Int := do
  let (_, path) ← IO.FS.createTempFile
  let made ← path.metadata
  IO.FS.removeFile path
  return made.modified.sec

/-- A delimiter that no text is likely to hold. -/
def makeDelimiter : IO Text := return Text.hex 8 (← IO.rand 0 (2 ^ 32 - 1))

/-- Writes a text to a stream. -/
def writeText (stream : IO.FS.Stream) (t : Text) : IO Unit := do
  stream.write (ByteArray.mk (t.toBytes?.getD t.toWideBytes).toArray)
  stream.flush

/-- Shows an answer, keeps the files that it changed, and gives its status. -/
def conclude (before : FileSystem) (a : Answer) : IO UInt32 := do
  let here ← IO.currentDir
  let entries (fs : FileSystem) : List (Name × Node) := entriesOf (fs.nodeAt? before.cwd)
  saveEntries deepest here.toString (entries before) (entries a.fileSystem)
  writeText (← IO.getStdout) (a.output ++ a.console.flatMap fun i => line i.plain)
  writeText (← IO.getStderr) a.errors
  match a.exit with
  | .ok status => return (status % 256).toNat.toUInt32
  | .error f =>
    writeText (← IO.getStderr) (errorLine f.message)
    return failureStatus.toNat.toUInt32

end ShellCoverage.CommandLine

open ShellCoverage ShellCoverage.CommandLine in
/-- Does what the arguments ask for. -/
def main (args : List String) : IO UInt32 := do
  let fileSystem ← readFiles
  let context : Context :=
    { fileSystem, environment := ← readEnvironment, clock := ← readClock, delimiter := ← makeDelimiter }
  match Answer.toArguments context (args.map Text.ofString) with
  | .ok a => conclude fileSystem a
  | .error _ =>
    writeText (← IO.getStderr) Answer.helpText
    return usageStatus.toNat.toUInt32
