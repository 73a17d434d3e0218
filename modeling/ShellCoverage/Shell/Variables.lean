import ShellCoverage.Shell.Octets
import ShellCoverage.Table

/-!
# Variables

A variable has a value and attributes. Functions open scopes: a name means the innermost variable of
that name.

* `Value` : a string, a list with numbered elements, or a table with named ones;
* `Variable` : a value, if one is set, with attributes;
* `Variables` : the scopes; `find?`, `update`, `remove`, `declareLocal`; `resolve` follows references;
* `Value.bucketOrder` : the order in which the elements of a table are listed.
-/

namespace ShellCoverage.Shell

/-- The value of a variable. -/
inductive Value where
  | scalar (s : Octets)
  /-- Elements by ascending number. -/
  | indexed (entries : List (Nat × Octets))
  /-- Elements by name. -/
  | keyed (entries : Table Octets Octets)
  deriving Repr, Inhabited

/-- A variable. -/
structure Variable where
  /-- The value; `none` if the variable is declared only. -/
  value : Option Value := none
  /-- The variable was declared as a list or table, which has got no elements yet. -/
  isBare : Bool := false
  exported : Bool := false
  readonly : Bool := false
  /-- Assigned values are evaluated as arithmetic expressions. -/
  integer : Bool := false
  lower : Bool := false
  upper : Bool := false
  /-- The first letter is large and the others are small. -/
  capital : Bool := false
  /-- A mark without any effect. -/
  traced : Bool := false
  /-- The value names another variable. -/
  reference : Bool := false
  deriving Repr, Inhabited

/-- The variables of a function, or those of the shell. -/
structure Scope where
  entries : Table Octets Variable := []
  /-- The scope holds the assignments before a command. -/
  temporary : Bool := false
  deriving Repr, Inhabited

/-- The scopes, the innermost first. -/
abbrev Variables := List Scope

namespace Value

/-- A list of elements with one of them set. -/
def setIndex (i : Nat) (s : Octets) : List (Nat × Octets) → List (Nat × Octets)
  | [] => [(i, s)]
  | (j, t) :: es =>
    if i < j then (i, s) :: (j, t) :: es
    else if i = j then (i, s) :: es
    else (j, t) :: setIndex i s es

/-- The elements with their numbers from `start` on. -/
def ofList (start : Nat) (ss : List Octets) : List (Nat × Octets) :=
  ss.zipIdx.map fun p => (p.2 + start, p.1)

/-- The value as a string: the element 0 of a list or table. -/
def toScalar? : Value → Option Octets
  | .scalar s => some s
  | .indexed es => es.lookup 0
  | .keyed es => Table.get? "0" es

/-- The number that decides where a table lists an element. -/
def bucketHash (key : Octets) : UInt32 :=
  key.toList.foldl (fun h c => (h * 16777619) ^^^ c.toNat.toUInt32) 2166136261

/-- The number of buckets of a table. -/
def bucketCount : Nat := 1024

/-- Entries in the order in which they are listed: by bucket, and within a bucket those that came last
first. -/
def inBuckets {α : Type} (count : Nat) (es : List (Octets × α)) : List (Octets × α) :=
  let bucket (e : Octets × α) : Nat := (bucketHash e.1).toNat % count
  es.reverse.mergeSort fun a b => decide (bucket a ≤ bucket b)

/-- Entries, with one more, in the order in which a table with so many buckets lists them. -/
def addToBuckets {α : Type} (count : Nat) (es : List (Octets × α)) (e : Octets × α) : List (Octets × α) :=
  let bucket (e : Octets × α) : Nat := (bucketHash e.1).toNat % count
  let before := es.takeWhile fun x => bucket x < bucket e
  before ++ e :: es.drop before.length

/-- Entries in the order in which a table lists them that begins with a few buckets, and has four times as
many as soon as there are two entries a bucket. -/
def inGrowingBuckets {α : Type} (count : Nat) (es : List (Octets × α)) : List (Octets × α) :=
  let add (s : Nat × List (Octets × α)) (e : Octets × α) : Nat × List (Octets × α) :=
    let count := if 2 * s.1 ≤ s.2.length then 4 * s.1 else s.1
    (count, addToBuckets count (if count = s.1 then s.2 else inBuckets count s.2) e)
  (es.foldl add (count, [])).2

/-- The elements of a table in the order in which they are listed. -/
def bucketOrder (es : Table Octets Octets) : List (Octets × Octets) := inBuckets bucketCount es

/-- The elements, with their keys, in the order in which they are listed. -/
def elements : Value → List (Octets × Octets)
  | .scalar s => [("0", s)]
  | .indexed es => es.map fun e => (Octets.ofNat e.1, e.2)
  | .keyed es => bucketOrder es

/-- The value is a list or a table. -/
def isArray : Value → Bool
  | .scalar _ => false
  | _ => true

end Value

namespace Variables

/-- The innermost variable of some name. -/
def find? (name : Octets) : Variables → Option Variable
  | [] => none
  | s :: vs =>
    match Table.get? name s.entries with
    | some v => some v
    | none => find? name vs

/-- The variables with the innermost one of some name changed; a new one is made in the outermost
scope. -/
def update (name : Octets) (f : Variable → Variable) : Variables → Variables
  | [] => [{ entries := [(name, f {})] }]
  | [s] => [{ s with entries := Table.insert name (f ((Table.get? name s.entries).getD {})) s.entries }]
  | s :: t :: vs =>
    match Table.get? name s.entries with
    | some v => { s with entries := Table.insert name (f v) s.entries } :: t :: vs
    | none => s :: update name f (t :: vs)

/-- The variables with a new one in the innermost scope of a function. -/
def declareLocal (name : Octets) (v : Variable) : Variables → Variables
  | [] => [{ entries := [(name, v)] }]
  | [s] => [{ s with entries := Table.insert name v s.entries }]
  | s :: t :: vs =>
    if s.temporary then s :: declareLocal name v (t :: vs)
    else { s with entries := Table.insert name v s.entries } :: t :: vs

/-- The variable that is local to the innermost function. -/
def local? (name : Octets) : Variables → Option Variable
  | [] => none
  | s :: vs => if s.temporary then local? name vs else Table.get? name s.entries

/-- The variables without the innermost one of some name. A variable that is local to the innermost
function stays there without a value. -/
def remove (name : Octets) (innermost : Bool) : Variables → Variables
  | [] => []
  | s :: vs =>
    if Table.has name s.entries then
      if innermost && vs ≠ [] && !s.temporary then
        { s with entries := Table.insert name {} s.entries } :: vs
      else { s with entries := Table.erase name s.entries } :: vs
    else s :: remove name (innermost && s.temporary) vs

/-- The visible variables. -/
def visible (vs : Variables) : Table Octets Variable :=
  vs.reverse.foldl (fun t s => s.entries.foldl (fun t e => Table.insert e.1 e.2 t) t) []

/-- The variables with those of the shell alone changed. -/
def updateOutermost (name : Octets) (f : Variable → Variable) (vs : Variables) : Variables :=
  vs.dropLast ++ update name f vs.getLast?.toList

/-- What a name means when references are followed. -/
inductive Target where
  /-- The innermost variable of a name, or what is to become it. -/
  | innermost (name : Octets)
  /-- The variable of the shell that has the name, to which references inside a function lead back. -/
  | outermost (name : Octets)
  /-- References that lead back to where they began, or are too many. -/
  | nowhere (name : Octets)
  deriving DecidableEq, Repr, Inhabited

/-- The name of the variable. -/
def Target.name : Target → Octets
  | .innermost n | .outermost n | .nowhere n => n

/-- The variable that a reference holds the name of. -/
def referred? (v : Variable) : Option Octets :=
  if v.reference then v.value.bind Value.toScalar? |>.filter (· ≠ "") else none

/-- What a name means when references are followed, at most eight of them. -/
def resolve (vs : Variables) (start : Octets) : Target := go 9 start
where
  /-- What a name means that was reached from the first one. -/
  go : Nat → Octets → Target
    | 0, _ => .nowhere start
    | n + 1, name =>
      match (find? name vs).bind referred? with
      | none => .innermost name
      | some t =>
        if t = start || t = name then
          if vs.dropLast.any fun s => Table.has start s.entries then .outermost start else .nowhere start
        else go n t

/-- The variable that is meant. -/
def at? (t : Target) (vs : Variables) : Option Variable :=
  match t with
  | .innermost n => find? n vs
  | .outermost n => find? n vs.getLast?.toList
  | .nowhere _ => none

/-- The variables with the one changed that is meant. -/
def updateAt (t : Target) (f : Variable → Variable) (vs : Variables) : Variables :=
  match t with
  | .innermost n => update n f vs
  | .outermost n => updateOutermost n f vs
  | .nowhere _ => vs

end Variables

end ShellCoverage.Shell
