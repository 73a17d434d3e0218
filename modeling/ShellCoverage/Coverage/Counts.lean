import ShellCoverage.Table
import ShellCoverage.Text.CodePoint

/-!
# Hit counts

`Counts` says how often each line of each file ran. Counts only grow. A line without an entry was never
seen: it did not run, or it is not a line that can run.

* `Counts.hit` : adds to the count of a line;
* `Counts.hits` : the count of a line, the view through which the other observations are stated;
* `Counts.files`, `Counts.lines`, `Counts.has` : what has entries;
* `Counts.toList`, `Counts.arrays` : the counts as arrays, item `i` for line `i + 1`.
-/

namespace ShellCoverage

/-- The counts of the lines of one file. -/
abbrev LineCounts := Table Int Nat

/-- The counts of the lines of all files. -/
structure Counts where
  table : Table Text LineCounts := []

namespace Counts

/-- The counts of the lines of a file. -/
def lines (c : Counts) (path : Text) : LineCounts := (Table.get? path c.table).getD []

/-- How often a line ran. -/
def hits (c : Counts) (path : Text) (line : Int) : Nat :=
  (Table.get? line (c.lines path)).getD 0

/-- The counts after `count` more executions of a line. -/
def add (c : Counts) (path : Text) (line : Int) (count : Nat) : Counts :=
  ⟨Table.insert path (Table.insert line (c.hits path line + count) (c.lines path)) c.table⟩

/-- The message for a negative count. -/
def decreaseMessage : Text := "hit counts cannot decrease"

/-- The counts after `count` more executions of a line; nothing for a negative count. -/
def hit (c : Counts) (path : Text) (line : Int) (count : Int) : Option Counts :=
  if count < 0 then none else some (c.add path line count.toNat)

/-- The files with entries, in ascending order. -/
def files (c : Counts) : List Text := (Table.keys c.table).mergeSort Text.le

/-- The file has entries. -/
def has (c : Counts) (path : Text) : Bool := Table.has path c.table

/-- The number of files with entries. -/
def size (c : Counts) : Nat := c.table.length

/-- The counts of a file's lines, by ascending number. -/
def sortedLines (c : Counts) (path : Text) : List (Int × Nat) :=
  (c.lines path).mergeSort fun a b => a.1 ≤ b.1

/-- The largest of `length` and the numbers of a file's lines. -/
def extent (c : Counts) (path : Text) (length : Int) : Int :=
  (Table.keys (c.lines path)).foldl max length

/-- The counts of the lines from 1 up to the last one with an entry, and up to `length` at least. A
line that never ran has none. -/
def toList (c : Counts) (path : Text) (length : Int) : List (Option Nat) :=
  (List.range (c.extent path length).toNat).map fun (i : Nat) =>
    let n := c.hits path ((i : Int) + 1)
    if n = 0 then none else some n

/-- The array of every file, in ascending order of files. -/
def arrays (c : Counts) : List (Text × List (Option Nat)) :=
  c.files.map fun p => (p, c.toList p 0)

/-- All entries, by ascending file and line. -/
def entries (c : Counts) : List (Text × List (Int × Nat)) :=
  c.files.map fun p => (p, c.sortedLines p)

end Counts

end ShellCoverage
