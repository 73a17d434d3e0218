import ShellCoverage.Text.CodePoint

/-!
# Paths

A path is a text of names between slashes. `Path` is its normal form: empty names and `.` are dropped,
`..` is kept. Two leading slashes are a root of their own.

* `Path.ofText`, `Path.toText` : the normal form and its text;
* `Path.join`, `Path.entry`, `Path.parent`, `Path.name`, `Path.suffix` : relations between paths;
* `Path.components`, `Path.isAbsolute`, `Path.commonText?` : the names of a path's text;
* `Path.relativeTo?` : a path seen from another.
-/

namespace ShellCoverage

/-- Where a path starts. -/
inductive PathRoot where
  | relative
  | absolute
  /-- Exactly two leading slashes. -/
  | doubled
  deriving DecidableEq, Repr

/-- A path in normal form. -/
structure Path where
  root : PathRoot
  parts : List Text
  deriving DecidableEq

namespace Path

/-- The separator of names. -/
def slash : CodePoint := CodePoint.ofChar '/'

/-- The name of the directory itself. -/
def here : Text := [CodePoint.ofChar '.']

/-- The name of the directory above. -/
def up : Text := [CodePoint.ofChar '.', CodePoint.ofChar '.']

/-- The names of a path's text, empty ones and `.` left out. -/
def components (t : Text) : List Text :=
  (Text.splitAt slash t).filter fun p => p ≠ [] ∧ p ≠ here

/-- The text starts at the root. -/
def isAbsolute (t : Text) : Bool := t.head? = some slash

/-- Where a text starts. -/
def rootOf (t : Text) : PathRoot :=
  match t.takeWhile (· = slash) with
  | [] => .relative
  | [_, _] => .doubled
  | _ => .absolute

/-- The normal form of a text. -/
def ofText (t : Text) : Path := ⟨rootOf t, components t⟩

/-- The text of a root. -/
def rootText : PathRoot → Text
  | .relative => []
  | .absolute => [slash]
  | .doubled => [slash, slash]

/-- The text of a path; the empty path is `.`. -/
def toText (p : Path) : Text :=
  match rootText p.root ++ Text.join [slash] p.parts with
  | [] => here
  | t => t

/-- The path `q` seen from the directory `p`. -/
def join (p q : Path) : Path :=
  if q.root = .relative then ⟨p.root, p.parts ++ q.parts⟩ else q

/-- The path of an entry of a directory. -/
def entry (p : Path) (n : Text) : Path := ⟨p.root, p.parts ++ [n]⟩

/-- The last name, if there is one. -/
def name (p : Path) : Text := p.parts.getLast?.getD []

/-- The directory of a path; a root and the empty path are their own. -/
def parent (p : Path) : Path := ⟨p.root, p.parts.dropLast⟩

/-- The end of a name from its last dot on, if characters stand on both sides of the dot. -/
def suffixOf (n : Text) : Text :=
  let dot := CodePoint.ofChar '.'
  let tail := n.reverse.takeWhile (· ≠ dot)
  if n.elem dot && tail ≠ [] && tail.length + 1 < n.length then dot :: tail.reverse else []

/-- The suffix of the last name. -/
def suffix (p : Path) : Text := suffixOf p.name

/-- The common first items of two lists. -/
def commonHead {α : Type} [DecidableEq α] : List α → List α → List α
  | a :: as, b :: bs => if a = b then a :: commonHead as bs else []
  | _, _ => []

/-- The longest path that is above or equal to both; none when one path is absolute and the other is
not. -/
def commonText? (a b : Text) : Option Text :=
  if isAbsolute a = isAbsolute b then
    some ((if isAbsolute a then [slash] else []) ++
      Text.join [slash] (commonHead (components a) (components b)))
  else none

/-- The end of `p` below `base`; none when `p` is not below it. -/
def relativeTo? (p base : Path) : Option Path :=
  if p.root = base.root && base.parts.isPrefixOf p.parts then
    some ⟨.relative, p.parts.drop base.parts.length⟩
  else none

end Path

end ShellCoverage
