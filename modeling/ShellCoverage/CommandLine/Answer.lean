import ShellCoverage.CommandLine.Request
import ShellCoverage.Report.Console
import ShellCoverage.Tracer.Run

/-!
# Answers

What the command line does for a request: it writes to the output, to the errors and to the terminal,
changes files, and ends with a status. A traced script's own status is passed on.

* `Context` : where a command line is used;
* `Answer` : what a command line has done;
* `Answer.ofOutcome` : what is done with the outcome of a traced script;
* `Answer.toStats`, `Answer.toUnion` : what is done with resultsets;
* `Answer.toArguments` : what is done for some arguments.
-/

namespace ShellCoverage.CommandLine
open Report

/-- Where a command line is used. -/
structure Context where
  fileSystem : FileSystem
  environment : Environment
  /-- The time in seconds. -/
  clock : Int
  /-- The delimiter for traces. -/
  delimiter : Text

/-- What a command line has done. -/
structure Answer where
  /-- The status, or the failure that it did not expect. -/
  exit : Except Failure Int := .ok 0
  output : Text := []
  errors : Text := []
  /-- What was shown on the terminal. -/
  console : List Console.Item := []
  fileSystem : FileSystem

/-- The status for a script or a shell that is missing. -/
def notFoundStatus : Int := 127

/-- The status for other failures. -/
def failureStatus : Int := 1

/-- The status for arguments that are refused. -/
def usageStatus : Int := 2

/-- The version of the program. -/
def programVersion : Text := "0.1.0"

/-- The name of the program and the versions of what it works with. -/
def fullName (c : Context) (shell : Text) : Except Failure Text :=
  let named (version : Text) : Text :=
    ("shcov " : Text) ++ programVersion ++ " with Bash " ++ version ++ " and Python 3.11.2"
  match (Version.ask c.fileSystem c.environment shell).2 with
  | .ok v => .ok (named v.toText)
  | .error (.exitStatus n) => .error (.exitStatus n)
  | .error _ => .ok (named "unknown")

/-- The line of a message. -/
def line (t : Text) : Text := t ++ [10]

/-- How many files a result has, and where it went. -/
def wroteLine (r : Result) (path : Text) : Text :=
  line (("wrote coverage for " : Text) ++ Text.ofNat r.length ++ " files to " ++ path)

/-- The message for a failure that was expected. -/
def errorLine (message : Text) : Text := line (("error: " : Text) ++ message)

namespace Answer

/-- What is told about a trace that could not be followed to its end. -/
def partialLine (o : Run.Outcome) : Text :=
  match o.abort with
  | some f => line (("warning: tracing aborted, coverage is partial: " : Text) ++ f.message)
  | none => []

/-- What is done with the outcome of a traced script, for a project's root: the result is added to the
resultset, and the script's status is passed on. -/
def ofHandoff (c : Context) (verbose : Bool) (o : Options) (summary : Bool) (outcome : Run.Outcome)
    (h : Handoff) : Answer :=
  let output := Text.ofBytes outcome.output
  let errors := Text.ofBytes outcome.errors ++ partialLine outcome
  let w := h.write c.fileSystem c.clock outcome.counts (Path.ofText o.output)
  match w.outcome with
  | .ok r =>
    { exit := .ok outcome.exitStatus
      output := if verbose then output ++ wroteLine r o.output else output
      errors
      console := if summary then Console.ofSummary (summarize r) h.name (some h.root) else []
      fileSystem := w.fs }
  | .error (.resultSet e) =>
    { exit := .ok (if outcome.exitStatus = 0 then failureStatus else outcome.exitStatus)
      output
      errors := errors ++ errorLine e.message
      fileSystem := w.fs }
  | .error f => { exit := .error f, output, errors, fileSystem := w.fs }

/-- What is done with the outcome of a traced script, for a project's root as it was given. -/
def ofOutcome (c : Context) (verbose : Bool) (o : Options) (summary : Bool) (outcome : Run.Outcome)
    (root : Text) : Answer :=
  match Handoff.ofRoot c.fileSystem root (o.name?.getD []) o.skipsUncovered with
  | .ok h => ofHandoff c verbose o summary outcome h
  | .error e =>
    { exit := .error (.file e)
      output := Text.ofBytes outcome.output
      errors := Text.ofBytes outcome.errors ++ partialLine outcome
      fileSystem := c.fileSystem }

/-- Traces a script. -/
def toRun (c : Context) (verbose : Bool) (o : Options) (summary : Bool) : Answer :=
  match o.root.elim c.fileSystem.workingDirectory .ok with
  | .error e => { exit := .error (.file e), fileSystem := c.fileSystem }
  | .ok root =>
    let r : Run := { command := o.fullCommand, mute := o.mute, delimiter := c.delimiter }
    let p := r.perform c.fileSystem c.environment
    match p.outcome with
    | .ok outcome => ofOutcome { c with fileSystem := p.fileSystem } verbose o summary outcome root
    | .error f =>
      match f with
      | .notExecutable _ | .noScript _ =>
        { exit := .ok notFoundStatus, errors := errorLine f.message, fileSystem := p.fileSystem }
      | _ => { exit := .error f, fileSystem := p.fileSystem }

/-- The sum of the arrays of a resultset. -/
def combinedOf (fs : FileSystem) (path : Path) : Except Failure Result := do
  let s ← ResultSet.load fs path
  s.combined.mapError .data

/-- Shows the summary of a resultset. -/
def toStats (c : Context) (file : Path) (asJson : Bool) : Answer :=
  let fs := c.fileSystem
  let path := file.toText
  match fs.exists? path with
  | .error e => { exit := .error (.file e), fileSystem := fs }
  | .ok false =>
    { exit := .ok failureStatus, errors := errorLine (("no such resultset: " : Text) ++ path), fileSystem := fs }
  | .ok true =>
    match combinedOf fs file with
    | .ok r =>
      let s := summarize r
      if asJson then { output := s.render, fileSystem := fs }
      else { console := Console.ofSummary s path none, fileSystem := fs }
    | .error (.resultSet e) =>
      { exit := .ok failureStatus, errors := errorLine e.message, fileSystem := fs }
    | .error f => { exit := .error f, fileSystem := fs }

/-- The sums of the resultsets that can be read, and the messages for the others. Any other failure ends
the reading; the messages up to there are kept. -/
def loadAll (fs : FileSystem) : List Path → Text × Except Failure (List Result)
  | [] => ([], .ok [])
  | path :: paths =>
    match combinedOf fs path with
    | .ok r =>
      let (errors, results) := loadAll fs paths
      (errors, results.map (r :: ·))
    | .error (.resultSet e) =>
      let (errors, results) := loadAll fs paths
      (line (("error loading " : Text) ++ path.toText ++ ": " ++ e.message) ++ errors, results)
    | .error f => ([], .error f)

/-- Writes the sum of some results to a file, as the only command. -/
def writeUnion (c : Context) (results : List Result) (output : Path) (name : Text) :
    FileSystem × Except Failure Result :=
  match combineResults results with
  | .error e => (c.fileSystem, .error (.data e))
  | .ok r =>
    let s := ResultSet.store [] name (r.map fun p => (p.1, .list p.2)) c.clock
    let (fs, saved) := s.save c.fileSystem output
    (fs, saved.map fun _ => r)

/-- Adds up resultsets. -/
def toUnion (c : Context) (verbose : Bool) (files : List Path) (output : Path) (name : Text) : Answer :=
  match loadAll c.fileSystem files with
  | (errors, .error f) => { exit := .error f, errors, fileSystem := c.fileSystem }
  | (errors, .ok []) =>
    { exit := .ok failureStatus
      errors := errors ++ line "no valid resultsets loaded"
      fileSystem := c.fileSystem }
  | (errors, .ok results) =>
    match writeUnion c results output name with
    | (fileSystem, .error f) => { exit := .error f, errors, fileSystem }
    | (fileSystem, .ok r) =>
      let head := if verbose then line (("union of " : Text) ++ Text.ofNat files.length ++ " files:") else []
      { output := head ++ wroteLine r output.toText
        errors
        console := if verbose then Console.ofSummary (summarize r) name none else []
        fileSystem }

/-- Tells the name of the program and the versions of what it works with. -/
def toVersion (c : Context) : Answer :=
  let defaults : Options := {}
  match fullName c defaults.shell with
  | .ok t => { output := line t, fileSystem := c.fileSystem }
  | .error f => { exit := .error f, fileSystem := c.fileSystem }

/-- The text that tells how the program is used. -/
def helpText : Text :=
  ["Usage: shcov [-v] [--version] [-h] COMMAND [ARGS]...", "", "line coverage for bash scripts", "",
    "Commands:", "  run    trace a bash script and record which lines ran",
    "  stats  display coverage statistics for a resultset",
    "  union  combine resultsets into one (hit counts are added)"].flatMap fun l : String => line l

/-- What is done for a request. -/
def toRequest (c : Context) (a : Asked) : Answer :=
  match a.request with
  | .version => toVersion c
  | .help => { output := helpText, fileSystem := c.fileSystem }
  | .run o summary => toRun c a.verbose o summary
  | .stats file asJson => toStats c file asJson
  | .union files output name => toUnion c a.verbose files output name

/-- What is done for some arguments, unless they are refused. -/
def toArguments (c : Context) (args : List Text) : Except Arguments.Fault Answer :=
  (Request.read c.fileSystem c.environment args).map (toRequest c)

end Answer

end ShellCoverage.CommandLine
