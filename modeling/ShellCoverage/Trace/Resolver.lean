import ShellCoverage.FileSystem.Lookup
import ShellCoverage.Text.CodePoint
import ShellCoverage.Trace.Record

/-!
# Resolving the files of records

A shell names the file of a command as it was opened: an absolute path, or a path relative to the
directory that was current then. That directory may be long gone when a command of the file runs.
Looking for the file in every directory of the history, newest first, finds it in the common cases; of
several files the one in the newest directory wins.

The history has the working directories of a run, and the previous working directories, in the order in which they were
seen. A value equal to the one before it adds nothing, so that the histories grow with the number of directory changes
and not with the number of commands.

* `Trace.History.see` : the history after a record;
* `Trace.candidates` : the paths that a name may mean;
* `Trace.findScript` : the first candidate that is a regular file, in canonical form;
* `Trace.Resolver.resolve` : one record, with the history brought up to date.
-/

namespace ShellCoverage.Trace

/-! ## Directories -/

/-- A list of values, newest first, without empty ones. -/
abbrev Visits := List Text

/-- The visits after a value was seen: empty values and repetitions of the last one are skipped. -/
def Visits.see (v : Text) (vs : Visits) : Visits :=
  if v = [] || vs.head? = some v then vs else v :: vs

/-- The directories seen in a run. -/
structure History where
  /-- Working directories, newest first. -/
  pwds : Visits := []
  /-- Previous working directories, newest first. -/
  oldpwds : Visits := []
  deriving DecidableEq

namespace History

/-- The history after the directories of one record. -/
def update (h : History) (pwd oldpwd : Text) : History :=
  ⟨Visits.see pwd h.pwds, Visits.see oldpwd h.oldpwds⟩

/-- The record brought a new working directory. -/
def grows (h : History) (pwd oldpwd : Text) : Bool :=
  h.pwds.length < (h.update pwd oldpwd).pwds.length

end History

/-! ## Files -/

/-- A line of a file. -/
abbrev Location := Text × Nat

/-- The paths that a name may mean, the preferred one first. -/
def candidates (h : History) (source : Text) : List Text :=
  if source = [] then []
  else if Path.isAbsolute source then [(Path.ofText source).toText]
  else h.pwds.map fun pwd => ((Path.ofText pwd).join (Path.ofText source)).toText

/-- The first of some paths that is a regular file, in canonical form. -/
def firstFile (fs : FileSystem) : List Text → Except FileError (Option Text)
  | [] => .ok none
  | p :: ps =>
    match fs.isFile? p with
    | .error e => .error e
    | .ok true => (fs.canonical p).map some
    | .ok false => firstFile fs ps

/-- The file that a name means. -/
def findScript (fs : FileSystem) (h : History) (source : Text) : Except FileError (Option Text) :=
  firstFile fs (candidates h source)

/-- The state of a resolver: the directories seen, and the number of records without a file. -/
structure Resolver where
  history : History := {}
  unresolved : Nat := 0

namespace Resolver

/-- The location of a record. The history counts its directories even if the search fails. -/
def resolve (fs : FileSystem) (r : Resolver) (rec : Record) :
    Resolver × Except FileError (Option Location) :=
  let h := r.history.update rec.pwd rec.oldpwd
  match findScript fs h rec.source with
  | .error e => (⟨h, r.unresolved⟩, .error e)
  | .ok none => (⟨h, r.unresolved + 1⟩, .ok none)
  | .ok (some p) => (⟨h, r.unresolved⟩, .ok (some (p, rec.line)))

end Resolver

/-- What an operator is told about a record without a file. -/
def unresolvedEntry (rec : Record) : Log.Entry :=
  ⟨.debug, .resolver,
    ("unresolved trace record " : Text) ++
      (if rec.source = [] then ("<empty>" : Text) else rec.source) ++ ":" ++
      Text.ofNat rec.line ++ " (pwd=" ++ rec.pwd ++ ", dirstack=" ++
      Text.join [CodePoint.ofChar ':'] rec.dirstack ++ ")"⟩

end ShellCoverage.Trace
