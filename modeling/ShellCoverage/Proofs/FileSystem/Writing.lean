import ShellCoverage.FileSystem.Update
import ShellCoverage.Proofs.Except
import ShellCoverage.Proofs.FileSystem.Canonical

/-!
# Writing a file

What is written to a path is found at the path again, since the lookup goes the same way as before: putting a file
at a place changes nothing else than that place and the entries of directories above it.

* `Node.at?_adjust_self`, `Node.bare_at?_adjust` : a tree in which one node was replaced;
* `FileSystem.walk_eq_reach` : places that exist, and places where something could be made;
* `FileSystem.AgreesOff`, `FileSystem.AgreesOff.walk_of_reach` : the way to a new or changed file;
* `FileSystem.locate_of_write`, `FileSystem.locate_of_write_error` : what stands at a path after writing to it;
* `FileSystem.exists_write` : whether a file can be written and read, whatever its content is.
-/

namespace ShellCoverage

/-! ## Trees -/

namespace Node

/-- The node, of a directory without its entries. -/
def bare : Node → Node
  | directory mode _ => directory mode []
  | x => x

@[simp] theorem isDirectory_bare (x : Node) : x.bare.isDirectory = x.isDirectory := by cases x <;> rfl

theorem bare_eq_link_iff {x : Node} {target : Bytes} : x.bare = link target ↔ x = link target := by
  cases x <;> simp [bare]

theorem child?_of_not_isDirectory {x : Node} (h : x.isDirectory = false) (n : Name) : x.child? n = none := by
  cases x with
  | directory => cases h
  | file | link | device | fifo => rfl

theorem at?_cons_of_no_child {x : Node} {n : Name} (h : x.child? n = none) (ns : List Name) :
    x.at? (n :: ns) = none := by rw [at?, h, Option.bind_none]

theorem named?_setEntry (n m : Name) (y : Node) (es : List (Name × Node)) :
    named? m (setEntry n (some y) es) = if n = m then some y else named? m es := by
  induction es with
  | nil => rfl
  | cons e es ih =>
    obtain ⟨k, x⟩ := e
    rw [setEntry]
    by_cases hk : k = n
    · subst hk
      simp only [if_true, named?]
      split <;> rfl
    · rw [if_neg hk, named?, ih, named?]
      by_cases hkm : k = m
      · subst hkm
        rw [if_pos rfl, if_neg (Ne.symm hk), if_pos rfl]
      · rw [if_neg hkm, if_neg hkm]

section
variable {x y : Node} {place q : List Name} {n m : Name}

theorem adjust_cons_cons (f : Option Node → Option Node) (mode : Nat) (es : List (Name × Node)) (n n' : Name)
    (ns : List Name) :
    (directory mode es).adjust f (n :: n' :: ns) =
      match named? n es with
      | some z => directory mode (setEntry n (some (z.adjust f (n' :: ns))) es)
      | none => directory mode es := (adjust.eq_def f _ _).trans rfl

/-- The entries of a directory on the way to a node that is replaced. -/
theorem child?_adjust (mode : Nat) (es : List (Name × Node)) (n m : Name) (ns : List Name) (y : Node) :
    ((directory mode es).adjust (fun _ => some y) (n :: ns)).child? m =
      if n = m then (if ns = [] then some y else (named? n es).map fun z => z.adjust (fun _ => some y) ns)
      else named? m es := by
  cases ns with
  | nil => rw [adjust, child?, named?_setEntry, if_pos rfl]
  | cons n' ns =>
    rw [adjust_cons_cons, if_neg (List.cons_ne_nil n' ns)]
    cases hz : named? n es with
    | none =>
      rw [child?, Option.map_none]
      split
      next hnm => rw [← hnm, hz]
      next => rfl
    | some z => rw [child?, named?_setEntry, Option.map_some]

theorem bare_adjust_cons (x y : Node) (n : Name) (ns : List Name) :
    (x.adjust (fun _ => some y) (n :: ns)).bare = x.bare := by
  cases ns with
  | nil => cases x <;> rfl
  | cons n' ns =>
    cases x with
    | directory mode es =>
      rw [adjust_cons_cons]
      split <;> rfl
    | file | link | device | fifo => rfl

theorem adjust_cons_of_not_isDirectory (h : x.isDirectory = false) (n : Name) (ns : List Name) :
    x.adjust (fun _ => some y) (n :: ns) = x := by
  cases x with
  | directory => cases h
  | file | link | device | fifo => cases ns <;> rfl

/-- What stands at a place stands in a directory. -/
theorem at?_dropLast (h : x.at? place = some y) :
    place = [] ∨ ∃ mode es, x.at? place.dropLast = some (directory mode es) := by
  rcases List.eq_nil_or_concat' place with rfl | ⟨dir, n, rfl⟩
  · exact Or.inl rfl
  · rw [at?_concat, Option.bind_eq_some_iff] at h
    obtain ⟨z, hz, hy⟩ := h
    rw [List.dropLast_concat]
    cases z with
    | directory mode es => exact Or.inr ⟨mode, es, hz⟩
    | file | link | device | fifo => cases hy

/-- A node in a directory, or at the root, can be replaced. -/
theorem at?_adjust_self (h : place = [] ∨ ∃ mode es, x.at? place.dropLast = some (directory mode es)) :
    (x.adjust (fun _ => some y) place).at? place = some y := by
  induction place generalizing x with
  | nil => rfl
  | cons n ns ih =>
    obtain ⟨mode, es, hdir⟩ := h.resolve_left (List.cons_ne_nil n ns)
    cases ns with
    | nil =>
      cases hdir
      rw [at?, child?_adjust, if_pos rfl, if_pos rfl]
      rfl
    | cons n' ns =>
      rw [List.dropLast_cons_cons, at?_cons_eq_some] at hdir
      obtain ⟨z, hz, hdir⟩ := hdir
      cases x with
      | directory mode' es' =>
        rw [at?, child?_adjust, if_pos rfl, if_neg (List.cons_ne_nil n' ns)]
        rw [child?] at hz
        rw [hz]
        exact ih (Or.inr ⟨mode, es, hdir⟩)
      | file | link | device | fifo => cases hz

/-- Replacing a node that has nothing below it changes no other node, apart from the entries of directories. -/
theorem bare_at?_adjust (hq : q ≠ place) (hold : ∀ z ∈ x.at? place, z.isDirectory = false)
    (hnew : ∀ n, y.child? n = none) :
    ((x.adjust (fun _ => some y) place).at? q).map bare = (x.at? q).map bare := by
  induction place generalizing x q with
  | nil =>
    obtain ⟨m, q, rfl⟩ := List.exists_cons_of_ne_nil hq
    rw [at?_cons_of_no_child (child?_of_not_isDirectory (hold x rfl) m)]
    exact congrArg _ (at?_cons_of_no_child (hnew m) q)
  | cons n ns ih =>
    cases q with
    | nil => exact congrArg some (bare_adjust_cons x y n ns)
    | cons m q =>
      cases x with
      | directory mode es =>
        rw [at?, child?_adjust, at?, child?]
        by_cases hnm : n = m
        · subst hnm
          rw [if_pos rfl]
          cases ns with
          | nil =>
            have hqne : q ≠ [] := fun h => hq (h ▸ rfl)
            obtain ⟨m', q, rfl⟩ := List.exists_cons_of_ne_nil hqne
            rw [if_pos rfl, Option.bind_some, at?_cons_of_no_child (hnew m')]
            cases hz : named? n es with
            | none => rfl
            | some z =>
              have hzdir : z.isDirectory = false := hold z (by rw [at?, child?, hz]; rfl)
              rw [Option.bind_some, at?_cons_of_no_child (child?_of_not_isDirectory hzdir m')]
          | cons n' ns =>
            rw [if_neg (List.cons_ne_nil n' ns)]
            cases hz : named? n es with
            | none => rfl
            | some z =>
              rw [Option.map_some, Option.bind_some, Option.bind_some]
              refine ih (fun h => hq (h ▸ rfl)) fun w hw => hold w ?_
              rw [at?, child?, hz]
              exact hw
        · rw [if_neg hnm]
      | file | link | device | fifo => rw [adjust_cons_of_not_isDirectory rfl]

end

end Node

/-! ## Places -/

namespace FileSystem
variable {fs fs' : FileSystem} {links : Nat} {place p ns : List Name} {n : Name} {x y : Node} {o : Option Node}

/-- A directory with an entry was not removed. -/
theorem isRemoved_of_child? (hx : fs.nodeAt? place = some x) (hy : x.child? n = some y) : isRemoved place = false := by
  by_contra hremoved
  rw [nodeAt?, if_pos (Bool.not_eq_false _ ▸ hremoved)] at hx
  cases hx
  cases hy

/-- The entry at a place where a file stands. -/
theorem child?_of_isFile (hx : fs.nodeAt? place = some x) (hkept : isRemoved place = false)
    (hy : fs.nodeAt? (place ++ [n]) = some y) (hfile : y.isFile = true) : x.child? n = some y := by
  have hnot : isRemoved (place ++ [n]) = false := by
    by_contra hremoved
    rw [nodeAt?, if_pos (Bool.not_eq_false _ ▸ hremoved)] at hy
    cases hy
    cases hfile
  rw [nodeAt?_of_not_isRemoved hkept] at hx
  rwa [nodeAt?_of_not_isRemoved hnot, Node.at?_concat, hx] at hy

/-! ## Steps of a lookup -/

section
variable (hx : fs.nodeAt? place = some x) (hdir : x.isDirectory = true)
include hx

theorem walk_nil (links : Nat) : fs.walk true links place [] = .ok (place, x) := by rw [walk, hx]

include hdir

theorem walk_here (links : Nat) (ns : List Name) :
    fs.walk true links place ([46] :: ns) = fs.walk true links place ns := by
  rw [walk, hx]
  simp only [hdir, Bool.not_true, Bool.false_eq_true, if_false, if_true]

theorem walk_up (links : Nat) (ns : List Name) :
    fs.walk true links place ([46, 46] :: ns) = fs.walk true links place.dropLast ns := by
  have hne : ¬ ([46, 46] : Name) = [46] := by decide
  rw [walk, hx]
  simp only [hdir, Bool.not_true, Bool.false_eq_true, if_false, if_true, hne]

section
variable (hhere : n ≠ [46]) (hup : n ≠ [46, 46]) (hlength : ¬ maxName < n.length)
include hhere hup hlength

theorem walk_none (hy : x.child? n = none) (links : Nat) (ns : List Name) :
    fs.walk true links place (n :: ns) = .error .noEntry := by
  rw [walk, hx]
  simp only [hdir, Bool.not_true, Bool.false_eq_true, if_false, hhere, hup, hlength, hy]

theorem walk_name (hy : x.child? n = some y) (hlink : ∀ target, y ≠ .link target) (links : Nat) (ns : List Name) :
    fs.walk true links place (n :: ns) = fs.walk true links (place ++ [n]) ns := by
  rw [walk, hx]
  simp only [hdir, Bool.not_true, Bool.false_eq_true, if_false, hhere, hup, hlength, hy]

theorem walk_link {target : Bytes} (hy : x.child? n = some (.link target)) (links : Nat) (ns : List Name) :
    fs.walk true (links + 1) place (n :: ns) =
      fs.walk true links (if target.head? = some 47 then [] else place) (steps target ++ ns) := by
  rw [walk, hx]
  simp only [hdir, Bool.not_true, Bool.false_eq_true, if_false, hhere, hup, hlength, hy, Bool.and_false]

theorem walk_link_zero {target : Bytes} (hy : x.child? n = some (.link target)) (ns : List Name) :
    fs.walk true 0 place (n :: ns) = .error .tooManyLinks := by
  rw [walk, hx]
  simp only [hdir, Bool.not_true, Bool.false_eq_true, if_false, hhere, hup, hlength, hy, Bool.and_false]

end

end

/-- Where a lookup goes on from a place there is a directory with the entry. -/
theorem walk_cons_eq_ok {q : List Name} (h : fs.walk true links place (n :: ns) = .ok (q, y)) :
    ∃ x, fs.nodeAt? place = some x ∧ x.isDirectory = true ∧
      (n = [46] ∨ n = [46, 46] ∨ ¬ maxName < n.length ∧ ∃ z, x.child? n = some z) := by
  rw [walk.eq_def] at h
  dsimp only at h
  split at h
  next => cases h
  next x hx =>
    refine ⟨x, hx, ?_⟩
    split at h
    next => cases h
    next hdir =>
    split at h
    next hhere => exact ⟨by simpa using hdir, Or.inl hhere⟩
    split at h
    next hup => exact ⟨by simpa using hdir, Or.inr (Or.inl hup)⟩
    split at h
    next => cases h
    next hlength =>
    split at h
    next => cases h
    next target htarget => exact ⟨by simpa using hdir, Or.inr (Or.inr ⟨hlength, _, htarget⟩)⟩
    next z _ hz => exact ⟨by simpa using hdir, Or.inr (Or.inr ⟨hlength, z, hz⟩)⟩

/-- What a lookup that may go to a missing name finds. -/
def landing : List Name × Option Node → Except Errno (List Name × Node)
  | (p, some x) => .ok (p, x)
  | (_, none) => .error .noEntry

/-- A lookup finds what exists. -/
theorem walk_eq_reach (fs : FileSystem) (links : Nat) (place ns : List Name) :
    fs.walk true links place ns = fs.reach links place ns >>= landing := by
  fun_induction reach fs links place ns with
  | case1 links place x hx => exact walk_nil hx links
  | case2 links place hx => rw [walk, hx]; rfl
  | case3 links place n ns hx => rw [walk, hx]; rfl
  | case4 links place n ns x hx hdir =>
    rw [walk, hx]
    simp only [hdir, if_true]
    rfl
  | case5 links place ns x hx hdir ih => rw [walk_here hx (by simpa using hdir), ih]
  | case6 links place ns x hx hdir _ ih => rw [walk_up hx (by simpa using hdir), ih]
  | case7 links place n ns x hx hdir hhere hup hlength =>
    rw [walk, hx]
    simp only [hdir, Bool.false_eq_true, if_false, hhere, hup, hlength, if_true]
    rfl
  | case8 links place n ns x hx hdir hhere hup hlength hy | case9 links place n ns x hx hdir hhere hup hlength hy =>
    rw [walk_none hx (by simpa using hdir) hhere hup hlength hy]
    rfl
  | case10 place n ns x hx hdir hhere hup hlength target hy =>
    rw [walk_link_zero hx (by simpa using hdir) hhere hup hlength hy]
    rfl
  | case11 place n ns x hx hdir hhere hup hlength target hy links ih =>
    rw [walk_link hx (by simpa using hdir) hhere hup hlength hy]
    exact ih
  | case12 links place n ns x hx hdir hhere hup hlength y hlink hy ih =>
    rw [walk_name hx (by simpa using hdir) hhere hup hlength hy fun target h => hlink target h, ih]

/-- What stands at the place that is reached. -/
theorem nodeAt?_of_reach (h : fs.reach links place ns = .ok (p, o)) :
    fs.nodeAt? p = o ∧
      (o = none → isRemoved p = false ∧ ∃ mode es, fs.tree.at? p.dropLast = some (.directory mode es)) := by
  fun_induction reach fs links place ns with
  | case1 links place x hx =>
    cases h
    exact ⟨hx, nofun⟩
  | case2 | case3 | case4 | case7 | case9 | case10 => cases h
  | case5 _ _ _ _ _ _ ih | case6 _ _ _ _ _ _ _ ih => exact ih h
  | case8 links place n ns x hx hdir hhere hup hlength hy hnew =>
    cases h
    simp only [Bool.and_eq_true, Bool.not_eq_true', decide_eq_true_iff] at hnew
    obtain ⟨⟨-, hkept⟩, hzero⟩ := hnew
    have hremoved : isRemoved (place ++ [n]) = false := by
      rw [isRemoved_concat, decide_eq_false_iff_not]
      intro hhead
      have hmem : n.elem 0 = true := List.elem_iff.2 (List.mem_of_mem_head? hhead)
      rw [hzero] at hmem
      cases hmem
    have hat := nodeAt?_of_not_isRemoved hkept ▸ hx
    refine ⟨?_, fun _ => ⟨hremoved, ?_⟩⟩
    · rw [nodeAt?_of_not_isRemoved hremoved, Node.at?_concat, hat, Option.bind_some, hy]
    · rw [List.dropLast_concat]
      cases x with
      | directory mode es => exact ⟨mode, es, hat⟩
      | file | link | device | fifo => exact absurd rfl hdir
  | case11 place n ns x hx hdir hhere hup hlength target hy links ih => exact ih h
  | case12 links place n ns x hx hdir hhere hup hlength y hlink hy ih => exact ih h

/-! ## The way to a place -/

/-- A place with a file, or with nothing, is not that of a link. -/
theorem ne_of_link {target : Bytes} (hold : ∀ z ∈ fs.nodeAt? p, z.isFile = true) (hx : fs.nodeAt? place = some x)
    (hlink : x.child? n = some (.link target)) : place ++ [n] ≠ p := by
  rintro rfl
  have hat : fs.tree.at? (place ++ [n]) = some (.link target) := by
    rw [Node.at?_concat, at?_of_child? hx hlink]
    exact hlink
  rw [nodeAt?, hat] at hold
  split at hold
  · cases hold _ rfl
  · cases hold _ rfl

/-- Away from one place the file systems have the same nodes, apart from the entries of directories. -/
structure AgreesOff (p : List Name) (fs fs' : FileSystem) : Prop where
  cwd_eq : fs'.cwd = fs.cwd
  at?_eq : ∀ q, q ≠ p → (fs'.tree.at? q).map Node.bare = (fs.tree.at? q).map Node.bare

namespace AgreesOff
variable (h : AgreesOff p fs fs')
include h

theorem nodeAt?_eq (hne : place ≠ p) : (fs'.nodeAt? place).map Node.bare = (fs.nodeAt? place).map Node.bare := by
  rw [nodeAt?, nodeAt?]
  split
  · rfl
  · exact h.at?_eq place hne

/-- A directory stays one. -/
theorem directory (hne : place ≠ p) (hx : fs.nodeAt? place = some x) :
    ∃ x', fs'.nodeAt? place = some x' ∧ x'.isDirectory = x.isDirectory := by
  have heq := h.nodeAt?_eq hne
  rw [hx, Option.map_some, Option.map_eq_some_iff] at heq
  obtain ⟨x', hx', hbare⟩ := heq
  exact ⟨x', hx', by rw [← Node.isDirectory_bare, hbare, Node.isDirectory_bare]⟩

/-- The entries of a directory stay, apart from the one place. -/
theorem child? {x' : Node} (hx : fs.nodeAt? place = some x) (hx' : fs'.nodeAt? place = some x')
    (hy : x.child? n = some y) (hne : place ++ [n] ≠ p) : ∃ y', x'.child? n = some y' ∧ y'.bare = y.bare := by
  have hkept := isRemoved_of_child? hx hy
  rw [nodeAt?_of_not_isRemoved hkept] at hx hx'
  have heq := h.at?_eq _ hne
  rw [Node.at?_concat, Node.at?_concat, hx, hx', Option.bind_some, Option.bind_some, hy, Option.map_some,
    Option.map_eq_some_iff] at heq
  exact heq

/-- A place with a file, or with nothing, is not that of a directory, so that the way of a lookup is elsewhere. -/
theorem way (hold : ∀ z ∈ fs.nodeAt? p, z.isFile = true) (hx : fs.nodeAt? place = some x)
    (hdir : ¬ (!x.isDirectory) = true) : ∃ x', fs'.nodeAt? place = some x' ∧ x'.isDirectory = true := by
  have hne : place ≠ p := by
    rintro rfl
    have hfile := hold x hx
    cases x with
    | file => exact hdir rfl
    | directory | link | device | fifo => cases hfile
  obtain ⟨x', hx', hsame⟩ := h.directory hne hx
  exact ⟨x', hx', by rw [hsame]; simpa using hdir⟩

/-- The lookup of a place where there is a file now goes the way that it went before. -/
theorem walk_of_reach (hold : ∀ z ∈ fs.nodeAt? p, z.isFile = true) (hnew : fs'.nodeAt? p = some y)
    (hy : y.isFile = true) (hreach : fs.reach links place ns = .ok (p, o)) :
    fs'.walk true links place ns = .ok (p, y) := by
  have hnolink (target : Bytes) : y ≠ .link target := by
    rintro rfl
    cases hy
  fun_induction reach fs links place ns with
  | case1 links place x hx =>
    cases hreach
    exact walk_nil hnew links
  | case2 | case3 | case4 | case7 | case9 | case10 => cases hreach
  | case5 links place ns x hx hdir ih =>
    obtain ⟨x', hx', hdir'⟩ := h.way hold hx hdir
    rw [walk_here hx' hdir', ih hreach]
  | case6 links place ns x hx hdir _ ih =>
    obtain ⟨x', hx', hdir'⟩ := h.way hold hx hdir
    rw [walk_up hx' hdir', ih hreach]
  | case8 links place n ns x hx hdir hhere hup hlength hy' hnil =>
    cases hreach
    obtain ⟨x', hx', hdir'⟩ := h.way hold hx hdir
    simp only [Bool.and_eq_true, Bool.not_eq_true', decide_eq_true_iff] at hnil
    obtain ⟨⟨rfl, hkept⟩, -⟩ := hnil
    rw [walk_name hx' hdir' hhere hup hlength (child?_of_isFile hx' hkept hnew hy) hnolink, walk_nil hnew]
  | case11 place n ns x hx hdir hhere hup hlength target hlink links ih =>
    obtain ⟨x', hx', hdir'⟩ := h.way hold hx hdir
    obtain ⟨z, hz, hbare⟩ := h.child? hx hx' hlink (ne_of_link hold hx hlink)
    rw [walk_link hx' hdir' hhere hup hlength (Node.bare_eq_link_iff.1 hbare ▸ hz)]
    exact ih hreach
  | case12 links place n ns x hx hdir hhere hup hlength z hlink hz ih =>
    obtain ⟨x', hx', hdir'⟩ := h.way hold hx hdir
    by_cases hp : place ++ [n] = p
    · subst hp
      rw [walk_name hx' hdir' hhere hup hlength (child?_of_isFile hx' (isRemoved_of_child? hx hz) hnew hy) hnolink]
      exact ih hreach
    · obtain ⟨z', hz', hbare⟩ := h.child? hx hx' hz hp
      have hlink' (target : Bytes) : z' ≠ .link target := by
        rintro rfl
        exact hlink target (Node.bare_eq_link_iff.1 hbare.symm)
      rw [walk_name hx' hdir' hhere hup hlength hz' hlink']
      exact ih hreach

end AgreesOff

/-- Putting a file at a place where there is one, or at a free place in a directory, changes nothing else. -/
theorem agreesOff_adjust (hold : ∀ z ∈ fs.tree.at? p, z.isDirectory = false) (hnew : ∀ n, y.child? n = none) :
    AgreesOff p fs (fs.adjust p fun _ => some y) where
  cwd_eq := rfl
  at?_eq _ hq := Node.bare_at?_adjust hq hold hnew

/-! ## Writing -/

/-- A regular file that may be read stands at the path. -/
def holdsFile (fs : FileSystem) (path : Text) : Bool :=
  match fs.locate true path with
  | .ok (_, x) => x.isFile && x.isReadable
  | .error _ => false

theorem holdsFile_iff {path : Text} : fs.holdsFile path = true ↔
    ∃ place mode content, fs.locate true path = .ok (place, .file mode content) ∧
      (Node.file mode content).isReadable = true := by
  rw [holdsFile]
  constructor
  · intro h
    split at h
    next place x hx =>
      rw [Bool.and_eq_true] at h
      cases x with
      | file mode content => exact ⟨place, mode, content, hx, h.2⟩
      | directory | link | device | fifo => cases h.1
    next => cases h
  · rintro ⟨place, mode, content, hx, hreadable⟩
    rw [hx]
    exact hreadable

/-- A lookup of a path finds what exists. -/
theorem find_eq_target (fs : FileSystem) (bs : Bytes) : fs.find true bs = fs.target bs >>= landing := by
  rw [find, target]
  split
  · rfl
  split
  · rfl
  · exact walk_eq_reach fs maxLinks _ _

theorem target_eq_ok {bs : Bytes} (h : fs.target bs = .ok (p, o)) :
    fs.reach maxLinks (if bs.head? = some 47 then [] else fs.cwd) (steps bs) = .ok (p, o) ∧
      ∀ fs' : FileSystem, fs'.find true bs =
        fs'.walk true maxLinks (if bs.head? = some 47 then [] else fs'.cwd) (steps bs) := by
  rw [target] at h
  split at h
  next => cases h
  next hnil =>
    split at h
    next => cases h
    next hlength => exact ⟨h, fun fs' => by rw [find, if_neg hnil, if_neg hlength]⟩

/-- Where a path leads to a file or to a free place, that was not removed, and a file can be put there. -/
theorem agreesOff_of_target {bs : Bytes} (h : fs.target bs = .ok (p, o)) (ho : ∀ z ∈ o, z.isFile = true)
    (hy : y.isFile = true) : isRemoved p = false ∧ AgreesOff p fs (fs.adjust p fun _ => some y) := by
  have hplain {z : Node} (hz : z.isFile = true) : z.isDirectory = false := by
    cases z with
    | file => rfl
    | directory | link | device | fifo => cases hz
  obtain ⟨hnode, -⟩ := nodeAt?_of_reach (target_eq_ok h).1
  have hkept : isRemoved p = false := by
    cases hremoved : isRemoved p with
    | false => rfl
    | true =>
      rw [nodeAt?, if_pos hremoved] at hnode
      cases ho _ hnode.symm
  have hat := nodeAt?_of_not_isRemoved hkept ▸ hnode
  exact ⟨hkept, agreesOff_adjust (fun z hz => hplain (ho z (hat ▸ hz))) (Node.child?_of_not_isDirectory (hplain hy))⟩

/-- After a file was put where a path leads, it stands at the path. -/
theorem find_adjust {bs : Bytes} (h : fs.target bs = .ok (p, o)) (ho : ∀ z ∈ o, z.isFile = true)
    (hy : y.isFile = true) : (fs.adjust p fun _ => some y).find true bs = .ok (p, y) := by
  obtain ⟨hkept, hagrees⟩ := agreesOff_of_target h ho hy
  obtain ⟨hreach, hfind⟩ := target_eq_ok h
  obtain ⟨hnode, hfree⟩ := nodeAt?_of_reach hreach
  have hat := nodeAt?_of_not_isRemoved hkept ▸ hnode
  have hdir : p = [] ∨ ∃ mode es, fs.tree.at? p.dropLast = some (.directory mode es) := by
    cases o with
    | none => exact Or.inr (hfree rfl).2
    | some z => exact Node.at?_dropLast hat
  have hnew : (fs.adjust p fun _ => some y).nodeAt? p = some y := by
    rw [nodeAt?_of_not_isRemoved hkept]
    exact Node.at?_adjust_self hdir
  rw [hfind, hagrees.cwd_eq]
  exact hagrees.walk_of_reach (hnode ▸ ho) hnew hy hreach

theorem write_eq_ok_iff {path : Text} {content : Bytes} : fs.write path content = .ok fs' ↔
    ∃ bs, encodePath path = .ok bs ∧ fs.writeBytes bs (fun _ => content) = .ok fs' := by
  rw [write, Except.bind_eq_ok_iff]
  refine exists_congr fun bs => and_congr_right fun _ => ?_
  cases fs.writeBytes bs fun _ => content with
  | error e => exact iff_of_false (fun h => by cases h) fun h => by cases h
  | ok fs' =>
    dsimp only
    rw [Except.ok.injEq, Except.ok.injEq]

/-- What stands at a path after something was written to it: the file, with its mode if it was there, or a device or
a pipe as before. -/
theorem locate_of_write {path : Text} {content : Bytes} (h : fs.write path content = .ok fs') :
    (∃ place mode, fs'.locate true path = .ok (place, .file mode content) ∧
        ∀ q x, fs.locate true path = .ok (q, x) → x.mode = mode) ∨
      fs' = fs ∧ ∃ place x, fs.locate true path = .ok (place, x) ∧ x.isFile = false ∧ x.isDirectory = false := by
  obtain ⟨bs, hbs, hwritten⟩ := write_eq_ok_iff.1 h
  rw [writeBytes] at hwritten
  split at hwritten
  next => cases hwritten
  next => cases hwritten
  next place mode old htarget =>
    cases hwritten
    have hfind := find_adjust htarget (fun z hz => by cases hz; rfl) (y := .file mode content) rfl
    refine Or.inl ⟨place, mode, by rw [locate_of_encodePath hbs, hfind], fun q x hx => ?_⟩
    rw [locate_of_encodePath hbs, find_eq_target, htarget] at hx
    cases hx
    rfl
  next place x hdir hfile htarget =>
    cases hwritten
    have hfind : fs.find true bs = .ok (place, x) := by
      rw [find_eq_target, htarget]
      rfl
    refine Or.inr ⟨rfl, place, x, by rw [locate_of_encodePath hbs, hfind], ?_⟩
    cases x with
    | directory mode es => exact absurd rfl (hdir mode es)
    | file mode old => exact absurd rfl (hfile mode old)
    | link | device | fifo => exact ⟨rfl, rfl⟩
  next place htarget =>
    cases hwritten
    have hfind := find_adjust htarget nofun (y := .file defaultMode content) rfl
    refine Or.inl ⟨place, defaultMode, by rw [locate_of_encodePath hbs, hfind], fun q x hx => ?_⟩
    rw [locate_of_encodePath hbs, find_eq_target, htarget] at hx
    cases hx

/-- Where nothing can be written there is no file. -/
theorem locate_of_write_error {path : Text} {content : Bytes} {e : FileError} (h : fs.write path content = .error e) :
    (∃ e, fs.locate true path = .error e) ∨
      ∃ place x, fs.locate true path = .ok (place, x) ∧ x.isDirectory = true := by
  rw [write] at h
  cases hbs : encodePath path with
  | error e' => exact Or.inl ⟨e', locate_of_encodePath_error hbs⟩
  | ok bs =>
    rw [hbs] at h
    have hrefused : ∃ e, fs.writeBytes bs (fun _ => content) = .error e := by
      cases hwrite : fs.writeBytes bs (fun _ => content) with
      | error e => exact ⟨e, rfl⟩
      | ok fs' => simp only [bind, Except.bind, hwrite, reduceCtorEq] at h
    obtain ⟨e', he'⟩ := hrefused
    rw [writeBytes] at he'
    rw [locate_of_encodePath hbs, find_eq_target]
    split at he'
    next e'' htarget =>
      rw [htarget]
      exact Or.inl ⟨_, rfl⟩
    next place mode es htarget =>
      rw [htarget]
      exact Or.inr ⟨place, .directory mode es, rfl, rfl⟩
    next => cases he'
    next => cases he'
    next => cases he'

/-- What is written does not matter where nothing can be. -/
theorem write_eq_error {path : Text} {content : Bytes} {e : FileError} (h : fs.write path content = .error e)
    (content' : Bytes) : fs.write path content' = .error e := by
  rw [write] at h ⊢
  cases hbs : encodePath path with
  | error e' => rwa [hbs] at h
  | ok bs =>
    rw [hbs] at h
    simp only [bind, Except.bind, writeBytes] at h ⊢
    generalize fs.target bs = o at h ⊢
    cases o with
    | error e' => exact h
    | ok r =>
      obtain ⟨place, o⟩ := r
      cases o with
      | none => cases h
      | some x =>
        cases x with
        | directory mode es => exact h
        | file | link | device | fifo => cases h

/-- Whether a file can be written and then read does not depend on what is written. -/
theorem exists_write {path : Text} {content : Bytes} (h : fs.write path content = .ok fs')
    (hholds : fs'.holdsFile path = true) (content' : Bytes) :
    ∃ fs'', fs.write path content' = .ok fs'' ∧ fs''.holdsFile path = true := by
  obtain ⟨bs, hbs, hwritten⟩ := write_eq_ok_iff.1 h
  have hfile {place : List Name} {mode : Nat} {o : Option Node} (htarget : fs.target bs = .ok (place, o))
      (ho : ∀ z ∈ o, z.isFile = true) (hfs : (fs.adjust place fun _ => some (.file mode content)) = fs')
      (hwrite : fs.writeBytes bs (fun _ => content') = .ok (fs.adjust place fun _ => some (.file mode content'))) :
      ∃ fs'', fs.write path content' = .ok fs'' ∧ fs''.holdsFile path = true := by
    refine ⟨_, write_eq_ok_iff.2 ⟨bs, hbs, hwrite⟩, ?_⟩
    rw [← hfs, holdsFile, locate_of_encodePath hbs, find_adjust htarget ho rfl] at hholds
    rw [holdsFile, locate_of_encodePath hbs, find_adjust htarget ho rfl]
    exact hholds
  rw [writeBytes] at hwritten
  split at hwritten
  next => cases hwritten
  next => cases hwritten
  next place mode old htarget =>
    exact hfile htarget (fun z hz => by cases hz; rfl) (Except.ok.inj hwritten) (by rw [writeBytes, htarget])
  next place x hdir hother htarget =>
    -- a device or a pipe is no file
    cases hwritten
    rw [holdsFile, locate_of_encodePath hbs, find_eq_target, htarget] at hholds
    cases x with
    | file mode old => exact absurd rfl (hother mode old)
    | directory | link | device | fifo => cases hholds
  next place htarget =>
    exact hfile htarget (fun z hz => absurd hz (Option.not_mem_none z)) (Except.ok.inj hwritten)
      (by rw [writeBytes, htarget])

end FileSystem

end ShellCoverage
