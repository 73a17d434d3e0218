import ShellCoverage.Shell.Program.Input

/-!
# Reading step by step

A program that takes its input in steps of its own keeps what it has read and not yet taken.

* `Feed` : a descriptor with what was read from it;
* `Feed.hasMore` : whether there is more to take;
* `Feed.take?` : takes a part, such as a line (`cutAt`);
* `Feed.giveBack` : what was not taken can be read again.
-/

namespace ShellCoverage.Shell.Program

/-- A descriptor, the characters that were read from it and not taken, and whether it has ended. -/
structure Feed where
  fd : Nat
  left : List Char := []
  ended : Bool := false
  /-- No more than a line is read at once. -/
  hesitant : Bool := false

/-- What has been taken off a text and what is left; nothing if more has to be read first. -/
abbrev Cut (α : Type) := Bool → List Char → Option (α × List Char)

/-- The part of a text up to a delimiter and with it, or up to the end. -/
def cutAt (delimiter : Char) : Cut (List Char) := fun ended cs =>
  let before := cs.takeWhile (· ≠ delimiter)
  match cs.drop before.length with
  | d :: rest => some (before ++ [d], rest)
  | [] => if ended && cs ≠ [] then some (cs, []) else none

namespace Feed

/-- The next piece that can be read, of no more than a line; nothing at the end. -/
def linePiece? (fd : Nat) : Sh (Option Octets) := do
  let piece ← Sh.takeFrom fd false none fun cs isLast =>
    if cs = [] && !isLast then none
    else
      let before := cs.takeWhile (· ≠ '\n')
      let size := min cs.length (before.length + 1)
      some (String.ofList (cs.take size), size)
  return piece.filter (· ≠ "")

/-- Reads another piece. -/
def fill (f : Feed) : Sh Feed := do
  match ← if f.hesitant then linePiece? f.fd else piece? f.fd with
  | some piece => return { f with left := f.left ++ piece.toList }
  | none => return { f with ended := true }

/-- Whether there is something to take. -/
def hasMore (f : Feed) : Sh (Bool × Feed) := do
  if f.left ≠ [] then return (true, f)
  if f.ended then return (false, f)
  let f ← f.fill
  return (f.left ≠ [], f)

/-- Takes the next part; so many pieces are read for it at most. -/
def takeWith {α : Type} (cut : Cut α) : Nat → Feed → Sh (Option α × Feed)
  | 0, _ => throw .stopped
  | n + 1, f => do
    match cut f.ended f.left with
    | some (x, left) => return (some x, { f with left })
    | none => if f.ended then return (none, f) else takeWith cut n (← f.fill)

/-- Takes the next part, if there is one. -/
def take? {α : Type} (cut : Cut α) (f : Feed) : Sh (Option α × Feed) := takeWith cut Sh.maxReads f

/-- What was not taken from a file can be read again. -/
def giveBack (f : Feed) : Sh Unit := do
  if f.left ≠ [] && (← isSeekable f.fd) then
    if let some (i, _) ← Sh.openFile? f.fd then
      Sh.changeFile i fun x => { x with position := x.position - f.left.length }

/-- Opens the file at a path, or takes the standard input for a minus sign. -/
def open? (path : Octets) (hesitant : Bool := false) : Sh (Except Errno Feed) := do
  if path = "-" || path = "/dev/stdin" then
    if (← Sh.openFile? 0).isNone then return .error .badDescriptor
    return .ok { fd := 0, hesitant }
  match ← Sh.openFile path .reading with
  | .error e => return .error e
  | .ok i =>
    let fd ← Sh.freeDescriptor 3
    Sh.moveToDescriptor fd i
    return .ok { fd, hesitant }

/-- Closes the descriptor, if it is not the standard input. -/
def close (f : Feed) : Sh Unit := if f.fd = 0 then return () else Sh.closeDescriptor f.fd

end Feed

end ShellCoverage.Shell.Program
