import ShellCoverage.Text.Numeral
import ShellCoverage.Trace.Collector
import ShellCoverage.Tracer.Child
import ShellCoverage.Tracer.StartupFile
import ShellCoverage.Tracer.Stream

/-!
# Traced runs

A command is run by a shell that traces it. The trace comes through a pipe of its own if the shell's
version has such a thing; otherwise it comes with the errors, from which it is told by the delimiter.

* `Version.ofOutput` : the version that a shell has written; `Version.ask` : the version of the shell at a path;
* `Route` : the way that a trace takes;
* `Run` : what is run, and how;
* `Run.perform` : the outcome of a run;
* `Run.exitStatus` : the status that a run ends with.
-/

namespace ShellCoverage

/-! ## Versions of shells -/

/-- The major and the minor number of a shell's version. -/
structure Version where
  major : Int
  minor : Int
  deriving DecidableEq, Repr

namespace Version

/-- The command by which a shell writes its version. -/
def command : Text := "echo -n $\x7bBASH_VERSINFO[0]\x7d.$\x7bBASH_VERSINFO[1]\x7d"

/-- The first version that can write its trace to a descriptor of its own. -/
def firstDedicated : Version := ⟨4, 1⟩

/-- One version is the same as another, or comes before it. -/
def le (v w : Version) : Bool := v.major < w.major || (v.major = w.major && v.minor ≤ w.minor)

/-- The text of a version. -/
def toText (v : Version) : Text := Text.ofInt v.major ++ "." ++ Text.ofInt v.minor

/-- The version that is written in some bytes: two numbers with a dot between them. -/
def ofOutput (output : Bytes) : Except Failure Version := do
  let t ← (Text.ofBytes? output).mapError .encoding
  let t := Text.trim t
  let (major, minor) := (Text.cutFirst? "." t).getD (t, [])
  let major ← (Numeral.readInt major).mapError .numeral
  let minor ← (Numeral.readInt minor).mapError .numeral
  pure ⟨major, minor⟩

/-- The version of the shell at a path, which is asked for it. The file system is what the shell has
made of it. -/
def ask (fs : FileSystem) (env : Environment) (path : Text) : FileSystem × Except Failure Version :=
  let started : Except Failure Child.Ended := do
    let shell ← Executable.find fs env path
    Child.run fs { command := [shell, "-c", command], environment := env }
  match started with
  | .error e => (fs, .error e)
  | .ok c =>
    (c.fileSystem, if c.status = 0 then ofOutput c.pipes.output else .error (.exitStatus c.status))

end Version

/-! ## Runs -/

/-- The way that a trace takes. -/
inductive Route where
  /-- A pipe of its own. -/
  | dedicated
  /-- Together with the errors. -/
  | shared
  deriving DecidableEq, Repr

namespace Route

/-- The way that the trace of a shell of some version takes. -/
def ofVersion (v : Version) : Route := if Version.firstDedicated.le v then .dedicated else .shared

/-- The descriptor of a trace with a pipe of its own. -/
def descriptor : Nat := 20

/-- The descriptor that a shell gets for its trace. -/
def descriptor? : Route → Option Nat
  | dedicated => some descriptor
  | shared => none

/-- The pipe that a trace is written to. -/
def pipe : Route → Nat
  | dedicated => Child.furtherPipe
  | shared => Child.errorPipe

/-- The trace among what a child has written. -/
def trace (p : Child.Pipes) : Route → Bytes
  | dedicated => p.further
  | shared => p.errors

end Route

/-- What is run, and how. -/
structure Run where
  /-- The shell, the script and its arguments. -/
  command : List Text
  mute : Bool := false
  delimiter : Text
  /-- The version of the shell; it is asked if none is given. -/
  version : Option Version := none

namespace Run

/-- The status that the caller of a run ends with: a death by signal `n` counts as `128 + n`. -/
def exitStatus (status : Int) : Int := if status < 0 then 128 - status else status

/-- The outcome of a run. -/
structure Outcome where
  exitStatus : Int
  counts : Counts
  /-- The line at which the trace could no longer be trusted. -/
  collision : Option Text
  /-- What was passed on of the output. -/
  output : Bytes
  /-- What was passed on of the errors. -/
  errors : Bytes

/-- The outcome is that of a part of the run only. -/
def Outcome.isPartial (o : Outcome) : Bool := o.collision.isSome

/-- Why the run ended early. -/
def Outcome.abort (o : Outcome) : Option Failure := o.collision.map .collision

/-- The path of the startup file while a shell runs. -/
def startupPath : Text := ("/tmp/" : Text) ++ StartupFile.namePrefix ++ "7r4c3r00" ++ StartupFile.nameSuffix

/-- What the collector is told. -/
def settings (r : Run) (route : Route) : Trace.Settings where
  delimiter := r.delimiter
  startupFile := startupPath
  relaysOthers := route = .shared && !r.mute

/-- The whole lines at the beginning of some bytes. -/
def wholeLines (content : Bytes) : List Bytes :=
  (Stream.lines content).filter fun l => l.getLast? = some 10

/-- The trace so far makes the collector stop. -/
def hasCollided (fs : FileSystem) (s : Trace.Settings) (content : Shell.Octets) : Bool :=
  match (Trace.collect fs s (wholeLines (Shell.Octets.toBytes content))).ending with
  | .collided _ => true
  | _ => false

/-- What a run leaves behind. -/
structure Performed where
  fileSystem : FileSystem
  outcome : Except Failure Outcome
  log : List Log.Entry := []

/-- The outcome of a run, given what was collected from its trace. -/
def outcome (r : Run) (route : Route) (c : Child.Ended) (raws : List Bytes) (t : Trace.Collected) :
    Except Failure Outcome :=
  let made (collision : Option Text) : Outcome :=
    { exitStatus := exitStatus c.status
      counts := t.collector.counts
      collision
      output := if r.mute then [] else c.pipes.output
      errors :=
        match route with
        | .dedicated => if r.mute then [] else c.pipes.errors
        | .shared => (t.relayed raws).flatten }
  match t.ending with
  | .finished => .ok (made none)
  | .collided line => .ok (made (some line))
  | .failed f => .error f

/-- Lines with the file systems at the times when they came; `before` bytes came before them. The lines
that came after the last look are taken with the file system `last`. -/
def stages (looks : List (Nat × FileSystem)) (last : FileSystem) (before : Nat) (raws : List Bytes) :
    List (FileSystem × List Bytes) :=
  match looks with
  | [] => [(last, raws)]
  | (size, fs) :: looks =>
    let (here, size) := upTo size before raws
    (fs, here) :: stages looks last size (raws.drop here.length)
where
  /-- The lines that end before or at a number of bytes, and the number of bytes at their end. -/
  upTo (size before : Nat) : List Bytes → List Bytes × Nat
    | [] => ([], before)
    | raw :: raws =>
      let next := before + raw.length
      if next ≤ size && raw.getLast? = some 10 then
        let (here, n) := upTo size next raws
        (raw :: here, n)
      else ([], before)

/-- What a run leaves behind, given the child when it has ended. -/
def finish (r : Run) (route : Route) (c : Child.Ended) : Performed :=
  let fs := c.fileSystem
  let raws := Stream.taken (Stream.queued (route.trace c.pipes))
  let settings := r.settings route
  let t := Trace.collectStages settings (stages c.looks fs 0 raws)
  { fileSystem := (fs.remove startupPath).toOption.getD fs
    outcome := r.outcome route c raws t
    log := t.log settings raws }

/-- Runs the command with the startup file in place, which is gone afterwards. -/
def trace (r : Run) (fs : FileSystem) (env : Environment) (command : List Text) (route : Route) :
    Performed :=
  let prepared : Except Failure FileSystem := do
    let content ← (StartupFile.write r.delimiter (Table.get? Environment.startupName env)).mapError .file
    (fs.write startupPath content).mapError .file
  match prepared with
  | .error e => ⟨fs, .error e, []⟩
  | .ok ready =>
    let env := env.traced r.delimiter (route.descriptor?.map Int.ofNat) startupPath
    let watched := (route.pipe, hasCollided fs (r.settings route))
    match Child.run ready { command, environment := env, further := route.descriptor? } (some watched) with
    | .error e => ⟨fs, .error e, []⟩
    | .ok c => r.finish route c

/-- What an operator is told about the way that the trace of a command takes. -/
def routeLog (v : Version) (command : List Text) (route : Route) : List Log.Entry :=
  let known : Log.Entry := ⟨.debug, .tracer, ("bash " : Text) ++ v.toText ++ ": " ++ Text.quotedList command⟩
  match route with
  | .dedicated => [known]
  | .shared =>
    [known, ⟨.warning, .tracer, ("bash " : Text) ++ v.toText ++ " has no BASH_XTRACEFD, tracing through stderr"⟩]

/-- Runs a command. -/
def perform (r : Run) (fs : FileSystem) (env : Environment) : Performed :=
  match Executable.checkCommand fs env r.command with
  | .error e => ⟨fs, .error e, []⟩
  | .ok command =>
    let (fs, version) : FileSystem × Except Failure Version :=
      match r.version with
      | some v => (fs, .ok v)
      | none => Version.ask fs env (command.headD [])
    match version with
    | .error e => ⟨fs, .error e, []⟩
    | .ok v =>
      let route := Route.ofVersion v
      let p := r.trace fs env command route
      { p with log := routeLog v command route ++ p.log }

end Run

end ShellCoverage
