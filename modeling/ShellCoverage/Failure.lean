import ShellCoverage.FileSystem.Lookup
import ShellCoverage.Json.Arithmetic
import ShellCoverage.Text.Numeral

/-!
# Failures

`Failure` is the sum of the causes for which operations of the library fail. Parts of the library that
can fail in one way only have an error type of their own, which is embedded here.

* `ResultSetError` : a file is no resultset;
* `Failure`, `Failure.message` : any cause, and its wording.
-/

namespace ShellCoverage

/-- Why a file is no resultset. -/
inductive ResultSetError where
  /-- The file cannot be read as JSON. -/
  | unreadable (path cause : Text)
  /-- The value is no object. -/
  | notObject (path : Text)
  /-- An entry has no counts. -/
  | badEntry (name path : Text)
  deriving DecidableEq

/-- The message of an error. -/
def ResultSetError.message : ResultSetError → Text
  | .unreadable path cause => ("cannot read " : Text) ++ path ++ ": " ++ cause
  | .notObject path => ("malformed resultset " : Text) ++ path ++ ": expected an object"
  | .badEntry name path => ("malformed resultset entry " : Text) ++ name.quoted ++ " in " ++ path

/-- Why an operation fails. -/
inductive Failure where
  /-- A numeral is refused. -/
  | numeral (e : Numeral.Error)
  /-- An operation on a path is refused. -/
  | file (e : FileError)
  /-- A value does not allow an operation. -/
  | data (e : Json.DataError)
  /-- Bytes are no text. -/
  | encoding (f : Utf8.Fault)
  /-- A file is no resultset. -/
  | resultSet (e : ResultSetError)
  /-- A count would become smaller. -/
  | decreasingCount
  /-- A delimiter has no characters. -/
  | emptyDelimiter
  /-- A command has no words. -/
  | emptyCommand
  /-- A path names no executable file. -/
  | notExecutable (path : Text)
  /-- A path names no script. -/
  | noScript (path : Text)
  /-- The delimiter occurs in the data of this trace line. -/
  | collision (line : Text)
  /-- A command ended with this status, negative for a signal. -/
  | exitStatus (status : Int)

namespace Failure

/-- The wording of a failure. -/
def message : Failure → Text
  | .numeral e => e.message
  | .file e => e.message
  | .data e => e.message
  | .encoding f => f.message
  | .resultSet e => e.message
  | .decreasingCount => "hit counts cannot decrease"
  | .emptyDelimiter => "delimiter must not be empty"
  | .emptyCommand => "command must name the bash executable"
  | .notExecutable path => ("not an executable file: " : Text) ++ path
  | .noScript path => ("no such script: " : Text) ++ path
  | .collision _ =>
    "trace delimiter found inside traced data; field boundaries can no longer be trusted"
  | .exitStatus status => Text.ofInt status

end Failure

end ShellCoverage
