import ShellCoverage.Instances

/-!
# Tables

A table is a list of keys with values in which a key keeps its first place: setting it again changes
the value and not the order.

* `Table.get?`, `Table.insert`, `Table.erase`, `Table.ofList` : operations;
* `Table.get?_insert`, `Table.keys_insert` : what inserting does to the values and to the keys.
-/

namespace ShellCoverage

/-- Keys with values, in the order in which the keys were first inserted. -/
abbrev Table (κ : Type) (α : Type) := List (κ × α)

namespace Table

variable {κ α : Type} [DecidableEq κ]

/-- The value of a key. -/
def get? (k : κ) : Table κ α → Option α
  | [] => none
  | (k', v) :: t => if k' = k then some v else get? k t

/-- Sets the value of a key: in its place if the key is there, at the end if it is new. -/
def insert (k : κ) (v : α) : Table κ α → Table κ α
  | [] => [(k, v)]
  | (k', v') :: t => if k' = k then (k', v) :: t else (k', v') :: insert k v t

/-- The table of a list of pairs: the last value of a key counts, at the key's first place. -/
def ofList (ps : List (κ × α)) : Table κ α := ps.foldl (fun t p => insert p.1 p.2 t) []

/-- The keys, in order. -/
def keys (t : Table κ α) : List κ := t.map (·.1)

/-- The key is there. -/
def has (k : κ) (t : Table κ α) : Bool := (get? k t).isSome

/-- The table without a key. -/
def erase (k : κ) (t : Table κ α) : Table κ α := t.filter fun p => p.1 ≠ k

@[simp] theorem get?_insert (k k' : κ) (v : α) (t : Table κ α) :
    get? k' (insert k v t) = if k = k' then some v else get? k' t := by
  induction t with
  | nil => simp [insert, get?]
  | cons p t ih => grind [insert, get?]

theorem keys_insert (k : κ) (v : α) (t : Table κ α) :
    keys (insert k v t) = if k ∈ keys t then keys t else keys t ++ [k] := by
  induction t with
  | nil => simp [insert, keys]
  | cons p t ih => grind [insert, keys]

end Table

end ShellCoverage
