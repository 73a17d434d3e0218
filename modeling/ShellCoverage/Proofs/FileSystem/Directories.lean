import ShellCoverage.Proofs.FileSystem.Components
import ShellCoverage.Proofs.FileSystem.Writing

/-!
# Making directories

The directory of a path that exists is there, so that nothing is made for it. Where directories cannot be made, the
path does not exist afterwards either.

* `FileSystem.steps_toText` : the names of a path in normal form, by its bytes;
* `FileSystem.walk_append`, `FileSystem.walk_of_at?` : lookups that go on, and those of directories in the tree;
* `FileSystem.isDirectory?_parent` : what exists is in a directory;
* `FileSystem.makeDirectories_of_isDirectory?`, `FileSystem.isDirectory?_of_makeDirectories_error` : when nothing is
  made, and what is missing after a failure.
-/

namespace ShellCoverage

open ShellCoverage.Path

namespace Text

/-- The head of a text that has bytes has the first of them. -/
theorem toBytes?_of_append {s t : Text} {bs : Bytes} (h : (s ++ t).toBytes? = some bs) :
    ∃ as, s.toBytes? = some as ∧ as <+: bs := by
  induction s generalizing bs with
  | nil => exact ⟨[], rfl, List.nil_prefix⟩
  | cons c s ih =>
    rw [List.cons_append, toBytes?_cons_eq_some] at h
    obtain ⟨as, cs, hc, hcs, rfl⟩ := h
    obtain ⟨ds, hds, hhead⟩ := ih hcs
    exact ⟨as ++ ds, toBytes?_cons_eq_some.2 ⟨as, ds, hc, hds, rfl⟩, (List.prefix_append_right_inj as).2 hhead⟩

end Text

namespace Path

theorem splitAt_toText {p : Path} (hp : p.IsNormal) (hne : p.parts ≠ []) :
    Text.splitAt slash p.toText = (rootText p.root).map (fun _ => []) ++ p.parts := by
  have hjoin : Text.splitAt slash (Text.join [slash] p.parts) = p.parts :=
    Text.splitAt_join hne fun t ht => (hp t ht).2.2
  rw [toText_eq hp (Or.inr hne)]
  cases p.root with
  | relative => exact hjoin
  | absolute =>
    rw [rootText, List.singleton_append, Text.splitAt, if_pos rfl, hjoin]
    rfl
  | doubled =>
    rw [rootText, List.cons_append, List.singleton_append, Text.splitAt, if_pos rfl, Text.splitAt, if_pos rfl, hjoin]
    rfl

theorem toText_ne_nil (p : Path) : p.toText ≠ [] := by
  rw [toText]
  split
  · exact List.cons_ne_nil _ _
  · assumption

/-- The text of a path begins with that of its directory, unless the directory is the current one. -/
theorem toText_parent {p : Path} (hp : p.IsNormal) (hne : p.parts ≠ [])
    (hparent : p.root ≠ .relative ∨ p.parts.dropLast ≠ []) : ∃ t, p.toText = p.parent.toText ++ t := by
  obtain ⟨ts, t, hts⟩ := (List.eq_nil_or_concat' p.parts).resolve_left hne
  have hdrop : p.parent.parts = ts := by rw [parent, hts, List.dropLast_concat]
  rw [toText_eq hp (Or.inr hne), toText_eq hp.parent hparent, hdrop, hts]
  by_cases hnil : ts = []
  · subst hnil
    exact ⟨t, by simp [parent, Text.join, List.intercalate]⟩
  · exact ⟨slash :: t, by rw [Text.join_concat _ hnil]; simp [parent]⟩

end Path

namespace FileSystem

/-! ## Names -/

theorem steps.split_ne_nil (bs : Bytes) : steps.split bs ≠ [] := by
  cases bs with
  | nil => exact List.cons_ne_nil _ _
  | cons b r =>
    rw [steps.split]
    split
    · exact List.cons_ne_nil _ _
    · split <;> exact List.cons_ne_nil _ _

theorem steps.split_concat_slash (bs : Bytes) : steps.split (bs ++ [47]) = steps.split bs ++ [[]] := by
  induction bs with
  | nil => rfl
  | cons b r ih =>
    obtain ⟨p, ps, hp⟩ := List.exists_cons_of_ne_nil (steps.split_ne_nil r)
    rw [List.cons_append, steps.split, ih, steps.split, hp]
    split <;> rfl

theorem steps.split_append (bs cs : Bytes) : steps.split (bs ++ 47 :: cs) = steps.split bs ++ steps.split cs := by
  induction bs with
  | nil => rfl
  | cons b bs ih =>
    obtain ⟨p, ps, hp⟩ := List.exists_cons_of_ne_nil (steps.split_ne_nil bs)
    rw [List.cons_append, steps.split, ih, steps.split, hp]
    split <;> rfl

/-- The names of a path in normal form spell its parts. -/
theorem steps_toText {p : Path} (hp : p.IsNormal) (hne : p.root ≠ .relative ∨ p.parts ≠ []) {bs : Bytes}
    (hbs : p.toText.toBytes? = some bs) :
    Spells p.parts (steps bs) ∧ steps bs = (steps.split bs).filter (· ≠ []) := by
  have hsplit := spells_splitAt hbs
  have hfilter : Spells ((Text.splitAt slash p.toText).filter (· ≠ [])) ((steps.split bs).filter (· ≠ [])) := by
    refine List.rel_filter (fun t n htn => ?_) hsplit
    show decide _ = true ↔ decide _ = true
    rw [decide_eq_true_iff, decide_eq_true_iff]
    exact not_congr (eq_nil_iff htn)
  by_cases hparts : p.parts = []
  · obtain ⟨root, parts⟩ := p
    subst hparts
    cases root with
    | relative => exact (hne.elim (absurd rfl) (absurd rfl))
    | absolute =>
      cases hbs
      exact ⟨.nil, rfl⟩
    | doubled =>
      cases hbs
      exact ⟨.nil, rfl⟩
  · rw [splitAt_toText hp hparts] at hsplit hfilter
    have hall : ((rootText p.root).map (fun _ => ([] : Text)) ++ p.parts).filter (· ≠ []) = p.parts := by
      rw [List.filter_append, List.filter_eq_nil_iff.2 (by simp), List.nil_append]
      exact List.filter_eq_self.2 fun t ht => decide_eq_true (hp t ht).1
    rw [hall] at hfilter
    -- the last part is not empty, so that no slash is at the end
    have hlast : ¬ bs.getLast? = some 47 := by
      intro hslash
      obtain ⟨r, rfl⟩ := List.getLast?_eq_some_iff.1 hslash
      obtain ⟨ts, t, hts⟩ := (List.eq_nil_or_concat' p.parts).resolve_left hparts
      rw [steps.split_concat_slash, hts, ← List.append_assoc] at hsplit
      have hends := List.rel_reverse hsplit
      rw [List.reverse_concat, List.reverse_concat, List.forall₂_cons] at hends
      have hnil := (eq_nil_iff hends.1).2 rfl
      exact (hp t (hts ▸ List.mem_append_right ts List.mem_cons_self)).1 hnil
    have hsteps : steps bs = (steps.split bs).filter (· ≠ []) := by
      rw [steps, if_neg]
      simp only [Bool.and_eq_true, decide_eq_true_iff, not_and]
      exact fun h => absurd h hlast
    exact ⟨hsteps ▸ hfilter, hsteps⟩

theorem encodePath_eq_ok_iff {p : Text} {bs : Bytes} : encodePath p = .ok bs ↔ p.toBytes? = some bs ∧ 0 ∉ bs := by
  rw [encodePath]
  cases p.toBytes? with
  | none => simp
  | some as =>
    by_cases hzero : as.elem 0 = true
    · simp only [hzero, if_true, reduceCtorEq, Option.some.injEq, false_iff, not_and, not_not]
      rintro rfl
      exact List.elem_iff.1 hzero
    · simp only [hzero, Bool.false_eq_true, if_false, Except.ok.injEq, Option.some.injEq, iff_self_and]
      rintro rfl
      exact fun hmem => hzero (List.elem_iff.2 hmem)

/-- The head of a path that has bytes has the first of them. -/
theorem encodePath_of_append {s t : Text} {bs : Bytes} (h : encodePath (s ++ t) = .ok bs) :
    ∃ as, encodePath s = .ok as ∧ as <+: bs := by
  obtain ⟨hbs, hzero⟩ := encodePath_eq_ok_iff.1 h
  obtain ⟨as, has, hhead⟩ := Text.toBytes?_of_append hbs
  exact ⟨as, encodePath_eq_ok_iff.2 ⟨has, fun hmem => hzero (hhead.subset hmem)⟩, hhead⟩

/-! ## The directory of a path -/

section
variable {fs fs' : FileSystem} {links : Nat} {place q ms : List Name} {n : Name} {x : Node}

/-- Where a lookup ends, it went through a directory to an entry. -/
theorem walk_concat (h : fs.walk true links place (ms ++ [n]) = .ok (q, x)) :
    ∃ dir y, fs.walk true links place ms = .ok (dir, y) ∧ y.isDirectory = true ∧
      (n = [46] ∨ n = [46, 46] ∨ ¬ maxName < n.length ∧ ∃ z, y.child? n = some z) := by
  fun_induction walk fs true links place ms with
  | case1 links place y hy =>
    obtain ⟨y', hy', hdir⟩ := walk_cons_eq_ok h
    cases hy.symm.trans hy'
    exact ⟨place, y, rfl, hdir⟩
  | case2 links place hnone =>
    obtain ⟨y, hy, -⟩ := walk_cons_eq_ok h
    cases hnone.symm.trans hy
  | case3 links place m ns hnone =>
    obtain ⟨y, hy, -⟩ := walk_cons_eq_ok h
    cases hnone.symm.trans hy
  | case4 links place m ns y hy hdir =>
    obtain ⟨y', hy', hdir', -⟩ := walk_cons_eq_ok h
    cases hy.symm.trans hy'
    simp [hdir'] at hdir
  | case5 links place ns y hy hdir ih => exact ih (walk_here hy (by simpa using hdir) links _ ▸ h)
  | case6 links place ns y hy hdir _ ih => exact ih (walk_up hy (by simpa using hdir) links _ ▸ h)
  | case7 links place m ns y hy hdir hhere hup hlength =>
    obtain ⟨y', -, -, hm | hm | ⟨hm, -⟩⟩ := walk_cons_eq_ok h
    · exact absurd hm hhere
    · exact absurd hm hup
    · exact absurd hlength hm
  | case8 links place m ns y hy hdir hhere hup hlength hz =>
    rw [List.cons_append, walk_none hy (by simpa using hdir) hhere hup hlength hz] at h
    cases h
  | case9 => simp at *
  | case10 place m ns y hy hdir hhere hup hlength target hz _ =>
    rw [List.cons_append, walk_link_zero hy (by simpa using hdir) hhere hup hlength hz] at h
    cases h
  | case11 place m ns y hy hdir hhere hup hlength target hz _ links ih =>
    rw [List.cons_append, walk_link hy (by simpa using hdir) hhere hup hlength hz, ← List.append_assoc] at h
    exact ih h
  | case12 links place m ns y hy hdir hhere hup hlength z hlink hz ih =>
    rw [List.cons_append, walk_name hy (by simpa using hdir) hhere hup hlength hz fun target => hlink target] at h
    exact ih h

theorem nodeAt?_of_walk_nil (h : fs.walk true links place [] = .ok (q, x)) : q = place ∧ fs.nodeAt? place = some x := by
  rw [walk] at h
  split at h
  next hx =>
    cases h
    exact ⟨rfl, hx⟩
  next => cases h

theorem isDirectory?_eq_true_iff {path : Text} :
    fs.isDirectory? path = .ok true ↔ ∃ place x, fs.locate true path = .ok (place, x) ∧ x.isDirectory = true :=
  test_eq_true_iff

/-- What exists is in a directory. -/
theorem isDirectory?_parent {p : Path} (hp : p.IsNormal) (hne : p.parts ≠ [])
    (h : fs.locate true p.toText = .ok (q, x)) : fs.isDirectory? p.parent.toText = .ok true := by
  obtain ⟨bs, hbs, hnil, hlength, hwalk⟩ := locate_eq_ok_iff.1 h
  obtain ⟨hspells, -⟩ := steps_toText hp (Or.inr hne) (toBytes?_of_encodePath hbs)
  have hspells' : Spells p.parent.parts (steps bs).dropLast := hspells.dropLast
  have hsteps : steps bs ≠ [] := by
    intro hnil
    rw [hnil] at hspells
    exact hne (List.forall₂_nil_right_iff.1 hspells)
  rw [← List.dropLast_append_getLast hsteps] at hwalk
  obtain ⟨dir, y, hdir, hy, -⟩ := walk_concat hwalk
  rw [isDirectory?_eq_true_iff]
  refine ⟨dir, y, locate_eq_ok_iff.2 ?_, hy⟩
  have hstart : bs.head? = some 47 ↔ p.root ≠ .relative :=
    (isAbsolute_iff (toBytes?_of_encodePath hbs)).symm.trans (isAbsolute_toText hp)
  by_cases hparent : p.root ≠ .relative ∨ p.parts.dropLast ≠ []
  · obtain ⟨t, ht⟩ := toText_parent hp hne hparent
    obtain ⟨as, has, hhead⟩ := encodePath_of_append (ht ▸ hbs)
    have hparentSteps := steps_toText hp.parent hparent (toBytes?_of_encodePath has)
    have hstart' : as.head? = some 47 ↔ p.root ≠ .relative :=
      (isAbsolute_iff (toBytes?_of_encodePath has)).symm.trans (isAbsolute_toText hp.parent)
    refine ⟨as, has, ?_, Nat.lt_of_le_of_lt hhead.length_le hlength, ?_⟩
    · intro hnil
      exact toText_ne_nil p.parent ((eq_nil_iff (toBytes?_of_encodePath has)).2 hnil)
    · rw [hparentSteps.1.unique hspells']
      simp only [hstart, hstart'] at hdir ⊢
      exact hdir
  · -- the current directory
    simp only [not_or, not_not] at hparent
    have hhere : encodePath p.parent.toText = .ok [46] := by
      rw [toText, parent, hparent.1, hparent.2]
      rfl
    have hempty : (steps bs).dropLast = [] := by
      rw [parent, hparent.2] at hspells'
      exact List.forall₂_nil_left_iff.1 hspells'
    have hcwd : ¬ bs.head? = some 47 := fun hslash => hstart.1 hslash hparent.1
    rw [hempty, if_neg hcwd] at hdir
    obtain ⟨rfl, hnode⟩ := nodeAt?_of_walk_nil hdir
    exact ⟨[46], hhere, List.cons_ne_nil _ _, by decide, (walk_here hnode hy maxLinks []).trans hdir⟩

/-! ## Making directories -/

/-- Nothing is made where something is. -/
theorem makeDirectory_of_locate {p : Path} (hp : p.IsNormal) (h : fs.locate true p.toText = .ok (q, x)) :
    fs.makeDirectory p.toText = .error (.system .alreadyExists p.toText) := by
  obtain ⟨bs, hbs, hnil, hlength, hwalk⟩ := locate_eq_ok_iff.1 h
  have hsteps : steps bs = (steps.split bs).filter (· ≠ []) := by
    by_cases hne : p.root ≠ .relative ∨ p.parts ≠ []
    · exact (steps_toText hp hne (toBytes?_of_encodePath hbs)).2
    · simp only [not_or, not_not] at hne
      rw [toText, hne.1, hne.2] at hbs
      cases hbs
      rfl
  have hexists : fs.makeDirectoryBytes bs = .error .alreadyExists := by
    rw [makeDirectoryBytes, if_neg hnil, if_neg (Nat.not_le.2 hlength)]
    dsimp only
    rw [← hsteps]
    rcases List.eq_nil_or_concat' (steps bs) with hempty | ⟨ms, n, hconcat⟩
    · rw [hempty]
      rfl
    · rw [hconcat] at hwalk ⊢
      obtain ⟨dir, y, hdir, hy, hentry⟩ := walk_concat hwalk
      rw [List.getLast?_concat, List.dropLast_concat]
      dsimp only
      rw [hdir]
      simp only [hy, Bool.not_true, Bool.false_eq_true, if_false]
      rcases hentry with rfl | rfl | ⟨hname, z, hz⟩
      · rfl
      · rfl
      · simp only [hname, if_false, hz, ite_self]
  rw [makeDirectory, hbs]
  simp only [bind, Except.bind, hexists]

theorem ensureDirectory_of_isDirectory? {p : Path} (hp : p.IsNormal) (h : fs.isDirectory? p.toText = .ok true) :
    fs.ensureDirectory p = (fs, .ok ()) := by
  obtain ⟨q, x, hx, -⟩ := isDirectory?_eq_true_iff.1 h
  rw [ensureDirectory, makeDirectory_of_locate hp hx]
  simp only [h]

/-- A directory that cannot be made is not there, and nothing else is made. -/
theorem isDirectory?_of_ensureDirectory_error {p : Path} (hp : p.IsNormal) {e : FileError}
    (h : fs.ensureDirectory p = (fs', .error e)) : fs' = fs ∧ fs.isDirectory? p.toText ≠ .ok true := by
  constructor
  · rw [ensureDirectory] at h
    split at h
    next => cases h
    next => exact (Prod.mk.inj h).1.symm
    next =>
      split at h
      next => cases h
      next => exact (Prod.mk.inj h).1.symm
      next => exact (Prod.mk.inj h).1.symm
    next => exact (Prod.mk.inj h).1.symm
  · intro hdir
    rw [ensureDirectory_of_isDirectory? hp hdir] at h
    cases h

/-- Nothing is made for a directory that is there. -/
theorem makeUpwards_of_isDirectory? {root : PathRoot} {ts : List Text} (hts : IsNormal ⟨root, ts.reverse⟩)
    (h : fs.isDirectory? (toText ⟨root, ts.reverse⟩) = .ok true) : fs.makeUpwards root ts = (fs, .ok ()) := by
  have hensure := ensureDirectory_of_isDirectory? hts h
  cases ts with
  | nil => exact hensure
  | cons t ts =>
    obtain ⟨q, x, hx, -⟩ := isDirectory?_eq_true_iff.1 h
    rw [makeUpwards, makeDirectory_of_locate hts hx]
    exact hensure

/-- A directory is missing where it could not be made, or one above it could not. -/
theorem isDirectory?_of_makeUpwards_error {root : PathRoot} {ts : List Text} (hts : IsNormal ⟨root, ts.reverse⟩)
    {e : FileError} (h : fs.makeUpwards root ts = (fs', .error e)) :
    fs'.isDirectory? (toText ⟨root, ts.reverse⟩) ≠ .ok true := by
  induction ts generalizing fs' e with
  | nil =>
    obtain ⟨rfl, hmissing⟩ := isDirectory?_of_ensureDirectory_error hts h
    exact hmissing
  | cons t ts ih =>
    have hensure {fs : FileSystem} {e : FileError}
        (h : fs.ensureDirectory ⟨root, (t :: ts).reverse⟩ = (fs', .error e)) :
        fs'.isDirectory? (toText ⟨root, (t :: ts).reverse⟩) ≠ .ok true := by
      obtain ⟨rfl, hmissing⟩ := isDirectory?_of_ensureDirectory_error hts h
      exact hmissing
    have hparent : (⟨root, (t :: ts).reverse⟩ : Path).parent = ⟨root, ts.reverse⟩ := by
      rw [parent, List.reverse_cons, List.dropLast_concat]
    rw [makeUpwards] at h
    split at h
    next => cases h
    next =>
      split at h
      next => exact hensure h
      next fs1 e1 habove =>
        cases h
        intro hdir
        obtain ⟨q, x, hx, -⟩ := isDirectory?_eq_true_iff.1 hdir
        exact ih (hparent ▸ hts.parent) habove (hparent ▸ isDirectory?_parent hts (by simp) hx)
    next => exact hensure h

theorem makeDirectories_of_isDirectory? {p : Path} (hp : p.IsNormal) (h : fs.isDirectory? p.toText = .ok true) :
    fs.makeDirectories p = (fs, .ok ()) := by
  refine makeUpwards_of_isDirectory? ?_ ?_ <;> rwa [List.reverse_reverse]

theorem isDirectory?_of_makeDirectories_error {p : Path} (hp : p.IsNormal) {e : FileError}
    (h : fs.makeDirectories p = (fs', .error e)) : fs'.isDirectory? p.toText ≠ .ok true := by
  have hmissing := isDirectory?_of_makeUpwards_error (by rwa [List.reverse_reverse]) h
  rwa [List.reverse_reverse] at hmissing

/-- Making the directory of a path changes nothing where the path exists, and fails only where it does not exist
afterwards. -/
theorem makeDirectories_parent {p : Path} (hp : p.IsNormal) {o : Except FileError Unit}
    (h : fs.makeDirectories p.parent = (fs', o)) :
    fs' = fs ∨ (∃ e, fs.locate true p.toText = .error e) ∧
      ((∃ e, o = .error e) → ∃ e, fs'.locate true p.toText = .error e) := by
  by_cases hparts : p.parts = []
  · -- a root and the current directory are their own directories
    have hensure : fs.ensureDirectory p = (fs', o) := by
      obtain ⟨root, parts⟩ := p
      cases hparts
      exact h
    cases hx : fs.locate true p.toText with
    | ok r =>
      rw [ensureDirectory, makeDirectory_of_locate hp hx] at hensure
      dsimp only at hensure
      split at hensure <;> exact Or.inl (Prod.mk.inj hensure).1.symm
    | error e =>
      cases o with
      | error e' => exact Or.inl (isDirectory?_of_ensureDirectory_error hp hensure).1
      | ok => exact Or.inr ⟨⟨e, rfl⟩, fun ⟨_, he⟩ => by cases he⟩
  · cases hx : fs.locate true p.toText with
    | ok r =>
      rw [makeDirectories_of_isDirectory? hp.parent (isDirectory?_parent hp hparts hx)] at h
      exact Or.inl (Prod.mk.inj h).1.symm
    | error e =>
      refine Or.inr ⟨⟨e, rfl⟩, fun ⟨e', he'⟩ => ?_⟩
      subst he'
      have hmissing := isDirectory?_of_makeDirectories_error hp.parent h
      cases hy : fs'.locate true p.toText with
      | error e'' => exact ⟨e'', rfl⟩
      | ok r => exact absurd (isDirectory?_parent hp hparts hy) hmissing

end

end FileSystem

end ShellCoverage
