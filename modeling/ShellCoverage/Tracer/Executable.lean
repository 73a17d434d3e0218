import ShellCoverage.Failure
import ShellCoverage.Tracer.Environment

/-!
# Finding executables

A name without a slash is looked up in the directories of the search path. Directories are never
executable files.

* `Executable.searchPath` : the directories that are searched;
* `Executable.lookup?` : the first executable file of some name;
* `Executable.find` : the path of an interpreter;
* `Executable.checkCommand` : a command whose interpreter and script exist.
-/

namespace ShellCoverage.Executable

/-- The search path of an environment without one. -/
def defaultPath : Text := "/bin:/usr/bin"

/-- The variable with the search path. -/
def pathName : Text := "PATH"

/-- The directories that are searched. An empty path has none. -/
def searchPath (env : Environment) : List Text :=
  match (Table.get? pathName env).getD defaultPath with
  | [] => []
  | p => Text.splitAt Environment.colon p

/-- A name in a directory; the empty directory is the current one. -/
def inDirectory (dir name : Text) : Text :=
  if dir = [] || dir.getLast? = some Path.slash then dir ++ name else dir ++ [Path.slash] ++ name

/-- The path names something that is executable and no directory. -/
def isCandidate (fs : FileSystem) (path : Text) : Bool :=
  match fs.locate true path with
  | .ok (_, x) => !x.isDirectory && x.isExecutable
  | .error _ => false

/-- The first executable file of some name in the search path. -/
def lookup? (fs : FileSystem) (env : Environment) (name : Text) : Option Text :=
  ((searchPath env).map fun dir => inDirectory dir name).find? (isCandidate fs)

/-- The path of an interpreter, given by a path or by a name. -/
def find (fs : FileSystem) (env : Environment) (path : Text) : Except Failure Text :=
  let path := if path.elem Path.slash then path else (lookup? fs env path).getD path
  if fs.isFile path && fs.isExecutable path then .ok path else .error (.notExecutable path)

/-- A command, interpreter first, whose interpreter is found and whose script exists. -/
def checkCommand (fs : FileSystem) (env : Environment) : List Text → Except Failure (List Text)
  | [] => .error .emptyCommand
  | shell :: args => do
    let shell ← find fs env shell
    match args with
    | [] => pure [shell]
    | script :: rest =>
      if fs.isFile script then pure (shell :: script :: rest) else .error (.noScript script)

end ShellCoverage.Executable
