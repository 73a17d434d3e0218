import ShellCoverage.Json.Arithmetic
import ShellCoverage.Report.Handoff

/-!
# Options of a run

* `Options` : what is needed to trace a command and to keep its result;
* `Options.fullCommand`, `Options.name?` : the command that is run, and the name that it is kept under;
* `Options.firstGiven?` : the first of some values that is given and not empty;
* `LogSetup` : the log's level and the levels of its handlers.
-/

namespace ShellCoverage

/-- What is needed to trace a command and to keep its result. -/
structure Options where
  skipsUncovered : Bool := false
  mute : Bool := false
  shell : Text := "/bin/bash"
  /-- The project's root; the current directory if none is given. -/
  root : Option Text := none
  command : List Text := []
  commandName : Option Text := none
  output : Text := Report.defaultFile.toText

namespace Options

/-- The first of some values that is neither absent nor an empty text. -/
def firstGiven? (vs : List Json.Value) : Option Json.Value :=
  vs.find? fun v =>
    match v with
    | .null | .text [] => false
    | _ => true

/-- The command that is run: the shell and the script with its arguments. -/
def fullCommand (o : Options) : List Text := o.shell :: o.command

/-- The name that a result is kept under: the one that is given, or else the command. -/
def name? (o : Options) : Option Text :=
  [o.commandName.getD [], Text.join [CodePoint.ofChar ' '] o.fullCommand].find? (· ≠ [])

end Options

/-- The level of a log, and those of its handlers. -/
structure LogSetup where
  level : Log.Level := .warning
  handlers : List Log.Level := []

/-- The setup after a call for verbose or terse output. There is one handler, however often the log is
set up. -/
def LogSetup.configure (s : LogSetup) (verbose : Bool) : LogSetup :=
  let level := if verbose then .debug else .warning
  let handlers := if s.handlers = [] then [level] else s.handlers
  ⟨level, handlers.map fun _ => level⟩

end ShellCoverage
