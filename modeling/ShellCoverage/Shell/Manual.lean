import ShellCoverage.Shell.Manual.Control
import ShellCoverage.Shell.Manual.Keywords
import ShellCoverage.Shell.Manual.Names
import ShellCoverage.Shell.Manual.Settings

/-!
# Help: the manual

* `Manual.topics` : all topics, in order;
* `Manual.usage?` : how a command is written;
* `Manual.overview` : the list of all topics in two columns.
-/

namespace ShellCoverage.Shell.Manual

/-- All topics, ordered by their names. -/
def topics : List Topic :=
  (keywords ++ control ++ names ++ settings).mergeSort fun a b => decide (a.name.toList ≤ b.name.toList)

/-- How a command is written. -/
def usage? (name : Octets) : Option Octets := (topics.find? (·.name = name)).map (·.synopsis)

/-- A text that is shorter than some width, or the beginning of that width of a longer one, with a mark. -/
def cell (width : Nat) (s : Octets) : Octets :=
  if s.length < width then s else String.ofList (s.toList.take width) ++ ">"

/-- The lines of the list of all topics, on a screen of some width; a star marks those for which `isOff` holds. -/
def overview (isOff : Octets → Bool) (screen : Nat) : List Octets :=
  let column := screen / 2
  let column := if column ≤ 3 then 40 else column
  let height := (topics.length + 1) / 2
  let shown (width : Nat) (t : Topic) : Octets := (if isOff t.name then "*" else " ") ++ cell width t.synopsis
  (List.range height).map fun i =>
    let left := ((topics[i]?).map (shown (column - 3))).getD ""
    match topics[i + height]? with
    | none => left ++ "\n"
    | some t => Octets.padRight column left ++ shown (column - 4) t ++ "\n"

end ShellCoverage.Shell.Manual
