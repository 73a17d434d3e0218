import ShellCoverage.Shell.Octets
import ShellCoverage.Shell.Regex
import ShellCoverage.Table

/-!
# Editing scripts

A script is a list of commands, which are carried out for each line of the input. They work on the pattern
space, which holds the line, and the hold space, which lasts from line to line.

* `Editing.Address`, `Editing.Limit` : which lines a command is for;
* `Editing.Action` : what a command does;
* `Editing.Script` : commands, and the places in them that have names.
-/

namespace ShellCoverage.Shell.Editing

/-- An expression to search for, and how. -/
structure Search where
  expression : Regex
  manner : Regex.Manner := {}

/-- Which lines a command is for. -/
inductive Address where
  | line (n : Nat)
  /-- A line and those after it at distances of some size. -/
  | step (first size : Nat)
  | last
  /-- Lines that match an expression: that which was searched for last, if none is given. -/
  | matching (s : Option Search)

/-- Where a range of lines ends. -/
inductive Limit where
  | address (a : Address)
  /-- So many lines later. -/
  | later (n : Nat)
  /-- At a multiple of a number. -/
  | multiple (n : Nat)

/-- How the letters of a replacement are written. -/
inductive Casing where
  | asIs
  | upper
  | lower
  deriving DecidableEq

/-- A part of a replacement. -/
inductive Part where
  | text (cs : List Char)
  | group (n : Nat)
  /-- The letters from here on are written in some way. -/
  | casing (c : Casing)
  /-- The next letter is written in some way. -/
  | nextCasing (c : Casing)
  deriving DecidableEq

/-- What is put in place of matches. -/
structure Substitution where
  /-- What is searched for: the same as the last time, if nothing is given. -/
  search : Option Search
  replacement : List Part
  /-- All matches count. -/
  global : Bool := false
  /-- The first match that counts. -/
  number : Option Nat := none
  /-- The pattern space is written after the substitution. -/
  prints : Bool := false
  /-- It is written before it is run as a command. -/
  printsFirst : Bool := false
  /-- The pattern space is run as a command, and replaced by what that writes. -/
  evaluates : Bool := false
  /-- The file to which it is written. -/
  file : Option Octets := none

/-- When a command jumps. -/
inductive Condition where
  | always
  /-- There was a substitution since the last line was read. -/
  | replaced
  | notReplaced
  deriving DecidableEq

/-- What a command does. -/
inductive Action where
  /-- The commands up to an index are for the selected lines. -/
  | block (stop : Nat)
  | nothing
  | lineNumber
  | append (text : List Char)
  | insert (text : List Char)
  | change (text : List Char)
  | jump (c : Condition) (label : Octets)
  | delete
  | deleteFirst
  | evaluate
  | execute (command : List Char)
  | fileName
  | get
  | getMore
  | hold
  | holdMore
  | exchange
  | list (width : Option Nat)
  | nextLine
  | nextMore
  | print
  | printFirst
  | quit (prints : Bool) (status : Nat)
  | readFile (path : Octets)
  | readLine (path : Octets)
  | substitute (s : Substitution)
  | translate (pairs : List (Char × Char))
  | write (path : Octets)
  | writeFirst (path : Octets)
  | clear

/-- A command: the lines that it is for, and what it does. -/
structure Command where
  first : Option Address := none
  limit : Option Limit := none
  negated : Bool := false
  action : Action

/-- A script. -/
structure Script where
  commands : Array Command := #[]
  /-- The indices that labels stand for. -/
  labels : Table Octets Nat := []
  /-- The script begins with a comment that asks for silence. -/
  silent : Bool := false

/-- The files that a script writes to. -/
def Script.files (s : Script) : List Octets :=
  (s.commands.toList.filterMap fun c =>
    match c.action with
    | .write path | .writeFirst path => some path
    | .substitute x => x.file
    | _ => none).eraseDups

end ShellCoverage.Shell.Editing
