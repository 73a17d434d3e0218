import ShellCoverage.Json.Arithmetic

/-!
# Combining results

A result gives each file an array: item `i` is the count of line `i + 1`, or null for a line that cannot
run. Combining adds counts line by line. A null stays only where every array has one, or ends.

Arrays that other tools wrote may hold any JSON value; those add up as far as `Json.Value.add` goes.

* `Report.combineItems` : one line;
* `Report.combineLists`, `Report.combineLines` : two arrays;
* `Report.combineResults` : several results, by ascending path.
-/

namespace ShellCoverage.Report
open Json

/-- The counts of a file, line by line. -/
abbrev LineArray := List Value

/-- The arrays of several files. -/
abbrev Result := Table Text LineArray

/-- The sum of the counts of one line. -/
def combineItems (a b : Value) : Except DataError Value :=
  if a.isNull && b.isNull then .ok .null else a.orZero.add b.orZero

/-- The sum of two arrays; the shorter one counts as ending in nulls. -/
def combineLists : List Value → List Value → Except DataError (List Value)
  | [], [] => .ok []
  | a :: as, [] => do
    let c ← combineItems a .null
    pure (c :: (← combineLists as []))
  | [], b :: bs => do
    let c ← combineItems .null b
    pure (c :: (← combineLists [] bs))
  | a :: as, b :: bs => do
    let c ← combineItems a b
    pure (c :: (← combineLists as bs))
termination_by as bs => as.length + bs.length

/-- The numbers, from `i` on, of `n` items of a value. -/
def itemsFrom (v : Value) (i : Nat) : Nat → Except DataError (List Value)
  | 0 => .ok []
  | n + 1 => do
    let x ← v.item i
    pure (x :: (← itemsFrom v (i + 1) n))

/-- The sum of two values that should be arrays. Both are measured first, and then read item by
item. -/
def combineLines (first second : Value) : Except DataError (List Value) := do
  let m ← first.length
  let n ← second.length
  let as ← itemsFrom first 0 m
  let bs ← itemsFrom second 0 n
  combineLists as bs

/-- A result with the array of one more file added to it. -/
def addFile (acc : Result) (path : Text) (lines : Value) : Except DataError Result :=
  match Table.get? path acc with
  | some old => (combineLines (.list old) lines).map fun ls => Table.insert path ls acc
  | none => lines.items.map fun ls => Table.insert path ls acc

/-- A result with all files of another added to it. -/
def addFiles (acc : Result) : List (Text × Value) → Except DataError Result
  | [] => .ok acc
  | (path, lines) :: r => do addFiles (← addFile acc path lines) r

/-- A table in ascending order of its keys. -/
def sortByPath {α : Type} (t : Table Text α) : Table Text α :=
  t.mergeSort fun a b => Text.le a.1 b.1

/-- The sum of several results, whose arrays may be any values, by ascending path. -/
def combineValues (results : List (List (Text × Value))) : Except DataError Result :=
  (results.foldlM addFiles []).map sortByPath

/-- The sum of several results, by ascending path. -/
def combineResults (results : List Result) : Except DataError Result :=
  combineValues (results.map fun r => r.map fun p => (p.1, .list p.2))

end ShellCoverage.Report
