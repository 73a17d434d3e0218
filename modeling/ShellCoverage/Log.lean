import ShellCoverage.Text.CodePoint

/-!
# Log entries

Operations say what happened through their own result types. `Log.Entry` is the shape in which such
results are shown to an operator: a level, the part of the library that speaks, and a message.
-/

namespace ShellCoverage.Log

/-- How urgent an entry is. -/
inductive Level where
  | debug
  | warning
  | error
  deriving DecidableEq, Repr

/-- The part of the library that speaks. -/
inductive Channel where
  /-- The reader of trace lines. -/
  | trace
  /-- The resolver of script names. -/
  | resolver
  /-- The tracer. -/
  | tracer
  /-- The reports. -/
  | report
  deriving DecidableEq, Repr

/-- The name of a level. -/
def Level.name : Level → String
  | .debug => "DEBUG"
  | .warning => "WARNING"
  | .error => "ERROR"

/-- The name of a channel. -/
def Channel.name : Channel → String
  | .trace => "shcov.xtrace"
  | .resolver => "shcov.resolver"
  | .tracer => "shcov.runner"
  | .report => "shcov.report"

/-- One entry of a log. -/
structure Entry where
  level : Level
  channel : Channel
  message : Text

end ShellCoverage.Log
