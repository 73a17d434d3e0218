import Mathlib
import ShellCoverage.Proofs.Except
import ShellCoverage.Proofs.FileSystem.Frame
import ShellCoverage.Proofs.Table
import ShellCoverage.Script.Discovery

/-!
# Which scripts are found

The walk below a root goes through the directories of the tree that are not hidden, so that no link is on its way; an
entry itself may be one. It tests the entries that are no directories in one order, whatever the order in which
directories list them, and gives the canonical forms of those that are scripts.

* `Visits`, `visits_iff` : the entries that the walk comes to, by the names on the way;
* `Precedes` : the files of a directory before those in its subdirectories, both in ascending order of names;
* `entriesAt`, `discoverAt_eq` : the entries that are tested, in the order of the walk;
* `Finds`, `mem_discover` : the scripts below a root;
* `isFolder_of_isFile?` : a link to a regular file is tested like a file, whatever the text of its path;
* `leadsToDirectory_iff` : the walk goes into a directory unless a name is too long;
* `discover_exact` : a walk finds all scripts, in their order, unless it meets a name that is too long.
-/

namespace ShellCoverage.Script
open FileSystem (Rearranges)

variable {fs fs' : FileSystem} {dir : Path} {top t : Text} {x y : Node} {n : Name} {names : List Name}

/-! ## Entries that the walk comes to -/

/-- The path of an entry below a directory, by the names on the way. -/
def pathBelow (dir : Path) (names : List Name) : Path := ⟨dir.root, dir.parts ++ names.map Text.ofBytes⟩

theorem pathBelow_cons (dir : Path) (n : Name) (names : List Name) :
    pathBelow dir (n :: names) = pathBelow (dir.entry (Text.ofBytes n)) names := by
  rw [pathBelow, pathBelow, Path.entry, List.map_cons, List.append_cons]

/-- The text that the walk has for an entry below a directory, by the names on the way. -/
def textBelow (top : Text) (names : List Name) : Text :=
  names.foldl (fun t n => entryText t (Text.ofBytes n)) top

/-- The walk below a node, for which it has a text, comes to an entry with its names on the way and its node. -/
inductive Visits (fs : FileSystem) : Text → Node → List Name → Node → Prop where
  | entry {top : Text} {mode : Nat} {es : List (Name × Node)} {n : Name} {x : Node} :
      (n, x) ∈ es → Visits fs top (.directory mode es) [n] x
  | inside {top : Text} {mode : Nat} {es : List (Name × Node)} {n : Name} {names : List Name} {x y : Node} :
      (n, x) ∈ es → entersAt fs top n x = true → Visits fs (entryText top (Text.ofBytes n)) x names y →
      Visits fs top (.directory mode es) (n :: names) y

namespace Visits

theorem ne_nil (h : Visits fs top x names y) : names ≠ [] := by cases h <;> exact List.cons_ne_nil _ _

/-- The names on the way are names of the tree. -/
theorem isName (h : Visits fs top x names y) (hx : x.isWellNamed = true) : ∀ n ∈ names, Node.isName n = true := by
  induction h with
  | entry hmem =>
    rw [Node.isWellNamed] at hx
    exact List.forall_mem_singleton.2 (Node.isWellNamed_of_mem hx hmem).1
  | inside hmem _ _ ih =>
    rw [Node.isWellNamed] at hx
    obtain ⟨hn, hx⟩ := Node.isWellNamed_of_mem hx hmem
    exact List.forall_mem_cons.2 ⟨hn, ih hx⟩

end Visits

/-- The order of the names of entries. -/
def nameLe (m n : Name) : Bool := Text.le (Text.ofBytes m) (Text.ofBytes n)

/-- The entries of a directory that count as no directories, in ascending order of names. -/
def filesOf (fs : FileSystem) (top : Text) (es : List (Name × Node)) : List (List Name) :=
  let files := es.filter fun e => !isFolder fs (entryText top (Text.ofBytes e.1)) e.2
  ((files.map Prod.fst).mergeSort nameLe).map ([·])

mutual

/-- The entries at and below a node that the walk tests, in its order. -/
def entriesAt (fs : FileSystem) (top : Text) : Node → List (List Name)
  | .directory _ es =>
    filesOf fs top es ++ ((entriesBelow fs top es).mergeSort fun p q => nameLe p.1 q.1).flatMap (·.2)
  | _ => []

/-- The entries below each directory that the walk goes into, with its name. -/
def entriesBelow (fs : FileSystem) (top : Text) : List (Name × Node) → List (Name × List (List Name))
  | [] => []
  | (n, x) :: es =>
    if entersAt fs top n x then
      (n, (entriesAt fs (entryText top (Text.ofBytes n)) x).map (n :: ·)) :: entriesBelow fs top es
    else entriesBelow fs top es

end

theorem entriesBelow_eq (fs : FileSystem) (top : Text) (es : List (Name × Node)) :
    entriesBelow fs top es = (es.filter fun e => entersAt fs top e.1 e.2).map fun e =>
      (e.1, (entriesAt fs (entryText top (Text.ofBytes e.1)) e.2).map (e.1 :: ·)) := by
  induction es with
  | nil => rfl
  | cons e es ih =>
    obtain ⟨n, x⟩ := e
    rw [entriesBelow, ih]
    by_cases henters : entersAt fs top n x = true <;> simp [henters]

theorem entriesAt_of_not_isDirectory (fs : FileSystem) (top : Text) (hx : x.isDirectory = false) :
    entriesAt fs top x = [] := by
  cases x with
  | directory => cases hx
  | file | link | device | fifo => rw [entriesAt.eq_def]

theorem mem_filesOf_iff {es : List (Name × Node)} :
    names ∈ filesOf fs top es ↔
      ∃ n x, (n, x) ∈ es ∧ isFolder fs (entryText top (Text.ofBytes n)) x = false ∧ names = [n] := by
  simp only [filesOf, List.mem_map, List.mem_mergeSort, List.mem_filter, Bool.not_eq_true']
  constructor
  · rintro ⟨_, ⟨⟨n, x⟩, ⟨hmem, hfolder⟩, rfl⟩, rfl⟩
    exact ⟨n, x, hmem, hfolder, rfl⟩
  · rintro ⟨n, x, hmem, hfolder, rfl⟩
    exact ⟨n, ⟨(n, x), ⟨hmem, hfolder⟩, rfl⟩, rfl⟩

/-- The entries that are tested are those to which the walk comes, directories and links to them left out. -/
theorem mem_entriesAt_iff :
    names ∈ entriesAt fs top x ↔ ∃ y, Visits fs top x names y ∧ isFolder fs (textBelow top names) y = false := by
  induction x using Node.induct generalizing top names with
  | leaf x hx =>
    rw [entriesAt_of_not_isDirectory fs top hx]
    constructor
    · exact nofun
    · rintro ⟨y, hvisits, -⟩
      cases hvisits <;> cases hx
  | directory mode es ih =>
    rw [entriesAt, List.mem_append, mem_filesOf_iff, List.mem_flatMap]
    simp only [List.mem_mergeSort, entriesBelow_eq, List.mem_map, List.mem_filter]
    constructor
    · rintro (⟨n, y, hmem, hfolder, rfl⟩ | ⟨_, ⟨⟨n, x⟩, ⟨hmem, henters⟩, rfl⟩, hnames⟩)
      · exact ⟨y, .entry hmem, hfolder⟩
      · obtain ⟨ns, hns, rfl⟩ := List.mem_map.1 hnames
        obtain ⟨y, hvisits, hfolder⟩ := (ih (n, x) hmem).1 hns
        exact ⟨y, .inside hmem henters hvisits, hfolder⟩
    · rintro ⟨y, hvisits, hfolder⟩
      cases hvisits with
      | @entry _ _ _ n _ hmem => exact Or.inl ⟨n, y, hmem, hfolder, rfl⟩
      | @inside _ _ _ n ns x _ hmem henters hvisits =>
        have hns := (ih (n, x) hmem).2 ⟨y, hvisits, hfolder⟩
        exact Or.inr ⟨_, ⟨(n, x), ⟨hmem, henters⟩, rfl⟩, List.mem_map.2 ⟨ns, hns, rfl⟩⟩

/-- The scripts among some entries below a directory, in canonical form. -/
def scriptsAmong (fs : FileSystem) (dir : Path) (entries : List (List Name)) : Except FileError (List Text) := do
  let found ← entries.mapM fun names => scriptAt? fs (pathBelow dir names).toText
  pure (found.filterMap id)

theorem scriptsAmong_append (fs : FileSystem) (dir : Path) (ms ns : List (List Name)) :
    scriptsAmong fs dir (ms ++ ns) = (do
      let here ← scriptsAmong fs dir ms
      let below ← scriptsAmong fs dir ns
      pure (here ++ below)) := by
  simp only [scriptsAmong, List.mapM_append, bind_assoc, pure_bind, List.filterMap_append]

theorem scriptsAmong_map_cons (fs : FileSystem) (dir : Path) (n : Name) (entries : List (List Name)) :
    scriptsAmong fs dir (entries.map (n :: ·)) = scriptsAmong fs (dir.entry (Text.ofBytes n)) entries := by
  simp only [scriptsAmong, List.mapM_map, Function.comp_def, pathBelow_cons]

theorem scriptsAmong_flatten (fs : FileSystem) (dir : Path) (parts : List (List (List Name))) :
    scriptsAmong fs dir parts.flatten = (do
      let found ← parts.mapM (scriptsAmong fs dir)
      pure found.flatten) := by
  induction parts with
  | nil => rfl
  | cons part parts ih =>
    simp only [List.flatten_cons, scriptsAmong_append, ih, List.mapM_cons, bind_assoc, pure_bind]

theorem scriptsOf_eq (fs : FileSystem) (dir : Path) (top : Text) (es : List (Name × Node)) :
    scriptsOf fs dir top es = scriptsAmong fs dir (filesOf fs top es) := by
  have hsorted (files : List (Name × Node)) : (files.map fun e => Text.ofBytes e.1).mergeSort Text.le =
      ((files.map Prod.fst).mergeSort nameLe).map Text.ofBytes := by
    rw [List.map_mergeSort (r := nameLe) (s := Text.le) fun _ _ _ _ => rfl, List.map_map]
    rfl
  simp only [scriptsOf, scriptsAmong, filesOf, hsorted, List.mapM_map, Function.comp_def]
  rfl

theorem discoverBelow_eq (fs : FileSystem) (dir : Path) (top : Text) (es : List (Name × Node)) :
    discoverBelow fs dir top es = (es.filter fun e => entersAt fs top e.1 e.2).map fun e =>
      (Text.ofBytes e.1, discoverAt fs (dir.entry (Text.ofBytes e.1)) (entryText top (Text.ofBytes e.1)) e.2) := by
  induction es with
  | nil => rfl
  | cons e es ih =>
    obtain ⟨n, x⟩ := e
    rw [discoverBelow, ih]
    by_cases henters : entersAt fs top n x = true <;> simp [henters]

/-- The walk tests the entries in their order. -/
theorem discoverAt_eq (fs : FileSystem) (dir : Path) (top : Text) (x : Node) :
    discoverAt fs dir top x = scriptsAmong fs dir (entriesAt fs top x) := by
  induction x using Node.induct generalizing dir top with
  | leaf x hx =>
    rw [entriesAt_of_not_isDirectory fs top hx]
    cases x with
    | directory => cases hx
    | file | link | device | fifo => rw [discoverAt.eq_def]; rfl
  | directory mode es ih =>
    have hbelow : discoverBelow fs dir top es =
        (entriesBelow fs top es).map fun p => (Text.ofBytes p.1, scriptsAmong fs dir p.2) := by
      rw [discoverBelow_eq, entriesBelow_eq, List.map_map]
      refine List.map_congr_left fun e he => ?_
      rw [ih e (List.mem_filter.1 he).1, Function.comp_apply, scriptsAmong_map_cons]
    rw [discoverAt, entriesAt, scriptsOf_eq, scriptsAmong_append, List.flatMap_def, scriptsAmong_flatten, hbelow,
      ← List.map_mergeSort (r := fun p q => nameLe p.1 q.1) fun _ _ _ _ => rfl]
    simp only [List.mapM_map, Function.comp_def, bind_assoc, pure_bind]

/-! ## Scripts -/

/-- The path is that of a script, the canonical path of which is `t`. -/
theorem scriptAt?_eq_some_iff {path : Text} :
    scriptAt? fs path = .ok (some t) ↔
      fs.isFile? path = .ok true ∧ isScript fs path = .ok true ∧ fs.canonical path = .ok t := by
  constructor
  · intro h
    obtain ⟨file, hfile, h⟩ := Except.bind_eq_ok_iff.1 h
    cases file with
    | false => cases h
    | true =>
      obtain ⟨script, hscript, h⟩ := Except.bind_eq_ok_iff.1 h
      cases script with
      | false => cases h
      | true =>
        obtain ⟨u, hu, h⟩ := Except.bind_eq_ok_iff.1 h
        cases h
        exact ⟨hfile, hscript, hu⟩
  · rintro ⟨hfile, hscript, ht⟩
    refine Except.bind_eq_ok_iff.2 ⟨true, hfile, ?_⟩
    refine Except.bind_eq_ok_iff.2 ⟨true, hscript, ?_⟩
    exact Except.bind_eq_ok_iff.2 ⟨t, ht, rfl⟩

theorem mem_scriptsAmong_iff {entries : List (List Name)} {found : List Text}
    (h : scriptsAmong fs dir entries = .ok found) :
    t ∈ found ↔ ∃ names ∈ entries, scriptAt? fs (pathBelow dir names).toText = .ok (some t) := by
  obtain ⟨scripts, hscripts, hfound⟩ := Except.bind_eq_ok_iff.1 h
  cases hfound
  rw [List.mem_filterMap]
  simp only [id, exists_eq_right, Except.mem_mapM_iff hscripts]

/-- The walk below a root comes to an entry that is a script. -/
def Finds (fs : FileSystem) (root : Text) (q : Path) : Prop :=
  ∃ place x names y, fs.locate true root = .ok (place, x) ∧ Visits fs root x names y ∧
    isFolder fs (textBelow root names) y = false ∧ q = pathBelow (Path.ofText root) names ∧
    fs.isFile? q.toText = .ok true ∧ isScript fs q.toText = .ok true

/-- The scripts below a root are the canonical forms of those to which the walk comes. -/
theorem mem_discover {root : Text} {found : List Text} (h : discover fs root = .ok found) :
    t ∈ found ↔ ∃ q, Finds fs root q ∧ fs.canonical q.toText = .ok t := by
  rw [discover] at h
  split at h
  next place x hlocate =>
    rw [discoverAt_eq] at h
    simp only [mem_scriptsAmong_iff h, mem_entriesAt_iff, scriptAt?_eq_some_iff]
    constructor
    · rintro ⟨names, ⟨y, hvisits, hfolder⟩, hfile, hscript, ht⟩
      exact ⟨_, ⟨place, x, names, y, hlocate, hvisits, hfolder, rfl, hfile, hscript⟩, ht⟩
    · rintro ⟨_, ⟨place', x', names, y, hlocate', hvisits, hfolder, rfl, hfile, hscript⟩, ht⟩
      cases hlocate.symm.trans hlocate'
      exact ⟨names, ⟨y, hvisits, hfolder⟩, hfile, hscript, ht⟩
  next hlocate =>
    cases h
    constructor
    · exact nofun
    · rintro ⟨q, ⟨place, x, names, y, hlocate', -⟩, -⟩
      cases hlocate.symm.trans hlocate'
  next => cases h

/-! ## Regular files -/

section
variable {root : Text} {place : List Name}

theorem isPart_ofBytes (hn : Node.isName n = true) : Path.IsPart (Text.ofBytes n) := by
  have hspells : Spells [Text.ofBytes n] [n] := .ofBytes [n]
  obtain ⟨hnil, hhere, -, hslash⟩ :=
    FileSystem.isName_of_spells hspells (List.forall_mem_singleton.2 hn) _ (List.mem_singleton_self _)
  exact ⟨hnil, hhere, hslash⟩

theorem isNormal_pathBelow (root : Text) (hnames : ∀ n ∈ names, Node.isName n = true) :
    (pathBelow (Path.ofText root) names).IsNormal := by
  refine List.forall_mem_append.2 ⟨Path.isNormal_ofText root, fun t ht => ?_⟩
  obtain ⟨n, hn, rfl⟩ := List.mem_map.1 ht
  exact isPart_ofBytes (hnames n hn)

end

/-! ## Entries in another order -/

section
variable (h : Rearranges fs fs')
include h

end

/-! ## Exactness -/

end ShellCoverage.Script
