import ShellCoverage.Coverage.Counts
import ShellCoverage.Log
import ShellCoverage.Report.ResultSet
import ShellCoverage.Script.Discovery
import ShellCoverage.Script.Relevance

/-!
# Handing counts over

The counts of a finished run become a result for reports. Files outside the project's root are left
out. A line that ran has its count; a relevant line that did not run has zero; any other line has null.
Unless only covered files are wanted, scripts below the root that never ran are added with zeros.

* `Report.isUnder` : a path is the root or below it;
* `Report.lineArray`, `Report.fileArray?` : the array of a file;
* `Report.Handoff.decisions` : what is done with each file, in order;
* `Report.Handoff.result` : the result, by ascending path;
* `Report.Handoff.write` : adds the result to a resultset file.
-/

namespace ShellCoverage.Report

/-- The path is the root or below it. -/
def isUnder (root path : Text) : Bool := Path.commonText? root path = some root

/-- An array in which relevant lines without a count have zero. -/
def lineArray (lines : List Text) (counts : List (Option Nat)) : LineArray :=
  let flags := Script.relevance lines
  counts.zipIdx.map fun p =>
    match p.1 with
    | some n => .int n
    | none => if flags[p.2]?.getD false then .int 0 else .null

/-- The array of a file, or why the file cannot be read. -/
def fileArray? (fs : FileSystem) (c : Counts) (path : Text) : Except FileError LineArray :=
  (Script.readLines fs path).map fun lines => lineArray lines (c.toList path lines.length)

/-- A project's root, the name of a command, and whether scripts that never ran are left out. -/
structure Handoff where
  root : Text
  name : Text
  skipsUncovered : Bool

/-- What is done with a file. -/
inductive Decision where
  /-- It ran and is reported. -/
  | reported (path : Text) (lines : LineArray)
  /-- It ran, but is outside the root or gone. -/
  | outside (path : Text)
  /-- It cannot be read. -/
  | unreadable (path : Text) (e : FileError)
  /-- It never ran and is reported. -/
  | added (path : Text) (lines : LineArray)

namespace Decision

/-- The path and the array of a file that is reported. -/
def row? : Decision → Option (Text × LineArray)
  | reported path lines | added path lines => some (path, lines)
  | _ => none

/-- What an operator is told about a file. -/
def log (root : Text) : Decision → List Log.Entry
  | reported _ _ => []
  | outside path =>
    [⟨.debug, .report, ("not reporting " : Text) ++ path ++ ": outside " ++ root ++ " or gone"⟩]
  | unreadable path e =>
    [⟨.debug, .report, ("skipping unreadable file " : Text) ++ path ++ ": " ++ e.message⟩]
  | added path _ => [⟨.debug, .report, ("adding uncovered script " : Text) ++ path⟩]

end Decision

namespace Handoff

/-- The handoff for a root given by any path to it. -/
def ofRoot (fs : FileSystem) (root name : Text) (skipsUncovered : Bool) :
    Except FileError Handoff :=
  (fs.canonical (Path.ofText root).toText).map fun r => ⟨r, name, skipsUncovered⟩

/-- What is done with a file that ran. -/
def decide (h : Handoff) (fs : FileSystem) (c : Counts) (path : Text) : Decision :=
  if !(isUnder h.root path && fs.isFile path) then .outside path
  else
    match fileArray? fs c path with
    | .ok lines => .reported path lines
    | .error e => .unreadable path e

/-- What is done with scripts that were found below the root, given the files that are reported
already. -/
def decideFound (fs : FileSystem) (c : Counts) (known : List Text) : List Text → List Decision
  | [] => []
  | path :: rest =>
    if known.elem path then decideFound fs c known rest
    else
      match fileArray? fs c path with
      | .ok lines => .added path lines :: decideFound fs c (path :: known) rest
      | .error e => .unreadable path e :: decideFound fs c known rest

/-- What is done with each file: those that ran first, by ascending path, then those found. -/
def decisions (h : Handoff) (fs : FileSystem) (c : Counts) : Except FileError (List Decision) :=
  let ran := c.files.map (h.decide fs c)
  if h.skipsUncovered then .ok ran
  else do
    let known := ran.filterMap fun d => d.row?.map (·.1)
    let found ← Script.discover fs h.root
    pure (ran ++ decideFound fs c known found)

/-- The result of some decisions, by ascending path. -/
def resultOf (ds : List Decision) : Result := sortByPath (ds.filterMap Decision.row?)

/-- The result of a run, by ascending path. -/
def result (h : Handoff) (fs : FileSystem) (c : Counts) : Except FileError Result :=
  (h.decisions fs c).map resultOf

/-- What an operator is told. -/
def log (h : Handoff) (ds : List Decision) : List Log.Entry := ds.flatMap (Decision.log h.root)

/-- The outcome of adding a result to a resultset file. -/
structure Written where
  fs : FileSystem
  decisions : List Decision
  outcome : Except Failure Result

/-- Adds the result of a run to the resultset in a file. -/
def write (h : Handoff) (fs : FileSystem) (clock : Int) (c : Counts) (path : Path) : Written :=
  match ResultSet.load fs path with
  | .error e => ⟨fs, [], .error e⟩
  | .ok s =>
    match h.decisions fs c with
    | .error e => ⟨fs, [], .error (.file e)⟩
    | .ok ds =>
      let r := resultOf ds
      let lines := r.map fun p => (p.1, Json.Value.list p.2)
      match (ResultSet.store s h.name lines clock).save fs path with
      | (fs, .ok ()) => ⟨fs, ds, .ok r⟩
      | (fs, .error e) => ⟨fs, ds, .error e⟩

end Handoff

/-- The file in which results are kept unless another one is given. -/
def defaultFile : Path := ⟨.relative, ["coverage", ".resultset.json"]⟩

end ShellCoverage.Report
