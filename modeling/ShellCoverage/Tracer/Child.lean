import ShellCoverage.Shell.Interpreter
import ShellCoverage.Shell.Launch
import ShellCoverage.Shell.Machine
import ShellCoverage.Tracer.Executable

/-!
# Children

A child is a process that is given a command and an environment, reads nothing, and writes into pipes.
One more pipe may be passed on to it, under a descriptor that it knows.

* `Child` : what a child is started with;
* `Child.candidates` : the paths that are tried for its program;
* `Child.run` : the child's status and what it wrote, when it has ended.
-/

namespace ShellCoverage

open Shell (Octets Sh World Process)

/-- What a child is started with. -/
structure Child where
  /-- The program and its arguments. -/
  command : List Text
  environment : Environment
  /-- The descriptor of a further pipe. -/
  further : Option Nat := none

namespace Child

/-- What a child has written. -/
structure Pipes where
  output : Bytes
  errors : Bytes
  /-- What came through the further pipe. -/
  further : Bytes

/-- A child that has ended. -/
structure Ended where
  /-- The status, or the negative number of the signal that killed it. -/
  status : Int
  pipes : Pipes
  /-- The file system that it has left behind. -/
  fileSystem : FileSystem
  /-- The numbers of bytes that had come through the watched pipe at some times, in order, with the file
  systems at these times. -/
  looks : List (Nat × FileSystem)

/-- The paths that are tried for a program: its own if it has a slash, or else that name in every
directory of the search path. -/
def candidates (env : Environment) (program : Text) : List Text :=
  if program.elem Path.slash then [program]
  else
    let path := (Table.get? Executable.pathName env).getD Executable.defaultPath
    (Text.splitAt Environment.colon path).map fun dir => Executable.inDirectory dir program

/-- A text without what follows a null byte. -/
def uptoNull (s : Octets) : Octets := String.ofList (s.toList.takeWhile fun c => c.toNat ≠ 0)

/-- The environment as bytes. A null byte ends a value. -/
def vars (env : Environment) : Table Octets Octets :=
  env.map fun v => (Octets.ofText v.1, uptoNull (Octets.ofText v.2))

/-- The arguments as bytes. -/
def arguments (command : List Text) : Except FileError (List Octets) :=
  command.mapM fun t => (FileSystem.encodePath t).map Octets.ofBytes

/-- Becomes the first program of some that can be started. If there is none, the reason is the first one
other than that a file is missing. -/
def become (argv : List Octets) (env : Table Octets Octets) (reason : Errno) :
    List Octets → Sh (Except Errno Shell.Ending)
  | [] => return .error reason
  | path :: paths => do
    match ← Sh.launch Shell.Interpreter.run path argv env with
    | .ok e => return .ok e
    | .error e =>
      let isAbsence : Bool := reason = .noEntry || reason = .notDirectory
      become argv env (if isAbsence then e else reason) paths

/-- What the first process does: it becomes a program, or tells why it cannot. -/
def body (argv : List Octets) (env : Table Octets Octets) (paths : List Octets) : Sh Shell.Ending := do
  match ← become argv env .noEntry paths with
  | .ok e => return e
  | .error e =>
    Sh.changeWorld fun w => { w with refusal := some e }
    return .exited 127

/-- The number of the first process. -/
def firstPid : Nat := 4712

/-- The pipe for output. -/
def outputPipe : Nat := 0

/-- The pipe for errors. -/
def errorPipe : Nat := 1

/-- The further pipe. -/
def furtherPipe : Nat := 2

/-- The shared state when a child starts. Someone may watch one of the pipes. -/
def world (fs : FileSystem) (watched : Option (Nat × (Octets → Bool))) : World where
  tree := fs.tree
  files := #[{ channel := .null }] ++ (#[outputPipe, errorPipe, furtherPipe].map fun n =>
    { channel := .pipe n, readable := false })
  pipes := Array.replicate 3 { capacity := none, readers := 1 }
  nextPid := firstPid + 1
  observer := watched.map fun w => { pid := firstPid, pipe := w.1, enough := w.2 }

/-- The first process: it reads nothing and writes into the pipes. -/
def process (fs : FileSystem) (c : Child) : Process where
  pid := firstPid
  name := ""
  cwd := fs.cwd
  descriptors := [(0, 0), (1, outputPipe + 1), (2, errorPipe + 1)] ++
    c.further.toList.map fun fd => (fd, furtherPipe + 1)

/-- The status of an ending: that of the exit, or the negative number of the signal. -/
def statusOf : Shell.Ending → Int
  | .exited n => (n % 256 : Nat)
  | .killed n => -n

/-- The signal that ends a child whose work is without end. -/
def lastSignal : Nat := 9

/-- A child that has ended, on a machine on which nothing goes on any more. -/
def ended (fs : FileSystem) (w : World) (e : Shell.Ending) : Ended :=
  let written (n : Nat) : Bytes := Octets.toBytes (String.ofList (w.pipe n).content)
  let at_ (tree : Node) (moves : Nat) : FileSystem := ⟨tree, World.follow fs.cwd (w.moves.take moves)⟩
  { status := statusOf e
    pipes := ⟨written outputPipe, written errorPipe, written furtherPipe⟩
    fileSystem := at_ w.tree w.moves.length
    looks := ((w.observer.map (·.looks)).getD []).reverse.map fun l => (l.size, at_ l.tree l.moves) }

/-- Runs a child up to its end, and all processes that it leaves behind. -/
def run (fs : FileSystem) (c : Child) (watched : Option (Nat × (Octets → Bool)) := none) :
    Except Failure Ended := do
  let argv ← (arguments c.command).mapError .file
  let program := c.command.headD []
  let paths := (candidates c.environment program).map Octets.ofText
  let p := process fs c
  let w := (world fs watched).begin p.pid { parent := 0 } p.descriptors
  let t := Sh.thread (body argv (vars c.environment) paths { world := w, process := p })
  let (w, isDone) := Shell.Schedule.run Shell.Schedule.maxSteps t []
  match w.refusal with
  | some e => .error (.file (.system e program))
  | none =>
    let e := (w.endOf? p.pid).getD (.killed lastSignal)
    .ok (ended fs w (if isDone then e else .killed lastSignal))

end Child

end ShellCoverage
