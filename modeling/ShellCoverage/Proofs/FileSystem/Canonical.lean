import ShellCoverage.Proofs.FileSystem.Leads

/-!
# Canonical paths of files

The canonical form of a path keeps a table of the links it has seen and gives up at a link that is still
being resolved. Where the names of a path lead somewhere this never happens: such a link would be followed
again on its own way (`Sound.notMem`), and no way is longer than itself.

* `Sound` : what a table says is right, and the links being resolved are further away than what is left;
* `resolveNames_of_leads` : the canonical place of some names is the place to which they lead;
* `eq_of_locate_below` : a path that goes on from another one leads below the node of that one;
* `canonical_of_locate` : a path that a lookup finds has a canonical form, which spells the place found;
* `canonical_of_isFile` : in particular the path of a regular file has one;
* `isFile?_eq_error_iff` : the test for a regular file fails for nothing but a name that is too long.
-/

namespace ShellCoverage.FileSystem

/-! ## Tables of links -/

/-- What a table says of a link: nothing, that it is being resolved, or where it leads. -/
def Seen.state? (seen : Seen) (t : List Text) : Option (Option (List Text)) :=
  (seen.find? (·.1 = t)).map (·.2)

theorem Seen.state?_cons (t u : List Text) (v : Option (List Text)) (seen : Seen) :
    Seen.state? ((t, v) :: seen) u = if t = u then some v else Seen.state? seen u := by
  rw [Seen.state?, List.find?_cons]
  by_cases h : t = u <;> simp [h, Seen.state?]

/-- When a link was resolved, the links still being resolved are those from before it was met. -/
theorem Seen.state?_of_leave {seen seen' : Seen} {t u known : List Text}
    (hpending : ∀ u, seen'.state? u = some none → Seen.state? ((t, none) :: seen) u = some none)
    (h : Seen.state? ((t, some known) :: seen') u = some none) : seen.state? u = some none := by
  rw [Seen.state?_cons] at h
  split at h
  next => cases h
  next htu =>
    have hbefore := hpending u h
    rwa [Seen.state?_cons, if_neg htu] at hbefore

/-- The link at a place leads to another one, through some number of further links. -/
def Resolves (fs : FileSystem) (place mid : List Name) (k : Nat) : Prop :=
  ∃ target, fs.nodeAt? place = some (.link target) ∧
    Leads fs (linkStart place.dropLast target) (stepNames target) mid k

theorem Resolves.unique {fs : FileSystem} {place mid mid' : List Name} {k k' : Nat}
    (h : Resolves fs place mid k) (h' : Resolves fs place mid' k') : mid = mid' ∧ k = k' := by
  obtain ⟨target, hlink, hleads⟩ := h
  obtain ⟨target', hlink', hleads'⟩ := h'
  cases hlink.symm.trans hlink'
  exact hleads.unique hleads'

/-- What a table says about links that were resolved is right. -/
def Known (fs : FileSystem) (seen : Seen) : Prop :=
  ∀ t known place, seen.state? t = some (some known) → Spells t place →
    ∃ mid k, Resolves fs place mid k ∧ Spells known mid

/-- A table while the links `stack` are being resolved and names that follow `k` links are left. -/
structure Sound (fs : FileSystem) (seen : Seen) (stack : List (List Name)) (k : Nat) : Prop where
  known : Known fs seen
  pending : ∀ t place, seen.state? t = some none → Spells t place → place ∈ stack
  nodup : stack.Nodup
  far : ∀ place ∈ stack, ∃ mid j, Resolves fs place mid j ∧ k ≤ j

namespace Sound
variable {fs : FileSystem} {seen : Seen} {stack : List (List Name)} {place mid : List Name} {t : List Text}
  {j k : Nat}

theorem nil (fs : FileSystem) (k : Nat) : Sound fs [] [] k where
  known _ _ _ h := by cases h
  pending _ _ h := by cases h
  nodup := .nil
  far _ h := by cases h

theorem mono (h : Sound fs seen stack k) (hj : j ≤ k) : Sound fs seen stack j where
  known := h.known
  pending := h.pending
  nodup := h.nodup
  far place hplace := by
    obtain ⟨mid, i, hi, hle⟩ := h.far place hplace
    exact ⟨mid, i, hi, Nat.le_trans hj hle⟩

/-- A link that is near is not being resolved. -/
theorem notMem (h : Sound fs seen stack k) (hj : Resolves fs place mid j) (hlt : j < k) :
    place ∉ stack := by
  intro hmem
  obtain ⟨mid', i, hi, hle⟩ := h.far place hmem
  rw [(hj.unique hi).2] at hlt
  exact Nat.not_lt.2 hle hlt

/-- There are no more links being resolved than links. -/
theorem length_le (h : Sound fs seen stack k) : stack.length ≤ fs.tree.linkCount := by
  refine Node.length_le_linkCount h.nodup fun place hplace => ?_
  obtain ⟨mid, j, ⟨target, hlink, -⟩, -⟩ := h.far place hplace
  exact ⟨target, at?_of_link hlink⟩

/-- The table when a link is met for the first time. -/
theorem enter (h : Sound fs seen stack k) (hj : Resolves fs place mid j) (hlt : j < k)
    (ht : Spells t place) : Sound fs ((t, none) :: seen) (place :: stack) j where
  known u v p hstate hu := by
    rw [Seen.state?_cons] at hstate
    split at hstate
    next => cases hstate
    next => exact h.known u v p hstate hu
  pending u p hstate hu := by
    rw [Seen.state?_cons] at hstate
    split at hstate
    next htu => exact List.mem_cons.2 (Or.inl (hu.unique (htu ▸ ht)))
    next => exact List.mem_cons_of_mem _ (h.pending u p hstate hu)
  nodup := List.nodup_cons.2 ⟨h.notMem hj hlt, h.nodup⟩
  far := List.forall_mem_cons.2 ⟨⟨mid, j, hj, Nat.le_refl j⟩, (h.mono (Nat.le_of_lt hlt)).far⟩

/-- The table when a link was resolved. -/
theorem leave {seen' : Seen} {known : List Text} (h : Sound fs seen stack k)
    (hj : Resolves fs place mid j) (ht : Spells t place) (hmid : Spells known mid)
    (hknown : Known fs seen')
    (hpending : ∀ u, seen'.state? u = some none → Seen.state? ((t, none) :: seen) u = some none) :
    Sound fs ((t, some known) :: seen') stack k where
  known u v p hstate hu := by
    rw [Seen.state?_cons] at hstate
    split at hstate
    next htu =>
      cases hstate
      obtain rfl := hu.unique (htu ▸ ht)
      exact ⟨mid, j, hj, hmid⟩
    next => exact hknown u v p hstate hu
  pending u p hstate hu := h.pending u p (Seen.state?_of_leave hpending hstate) hu
  nodup := h.nodup
  far := h.far

end Sound

/-! ## The canonical place of some names -/

section equations
variable {fs : FileSystem} {nesting : Nat} {seen : Seen} {start ts : List Text} {t target : Text}

theorem resolveNames_of_no_link (ht : t ≠ Path.up) (hlink : fs.linkAt? (start ++ [t]) = none) :
    fs.resolveNames nesting seen start (t :: ts) = fs.resolveNames nesting seen (start ++ [t]) ts := by
  rw [resolveNames, if_neg ht]
  simp only [hlink]

theorem resolveNames_of_known {known : List Text} (ht : t ≠ Path.up)
    (hlink : fs.linkAt? (start ++ [t]) = some target)
    (hstate : seen.state? (start ++ [t]) = some (some known)) :
    fs.resolveNames nesting seen start (t :: ts) = fs.resolveNames nesting seen known ts := by
  obtain ⟨⟨u, v⟩, hfind, hv⟩ := Option.map_eq_some_iff.1 hstate
  cases hv
  rw [resolveNames, if_neg ht]
  simp only [hlink, hfind]

theorem resolveNames_of_new {known : List Text} {seen' : Seen} (ht : t ≠ Path.up)
    (hlink : fs.linkAt? (start ++ [t]) = some target) (hstate : seen.state? (start ++ [t]) = none)
    (htarget : fs.resolveNames nesting ((start ++ [t], none) :: seen)
      (if Path.isAbsolute target then [] else start) (names target) = (known, true, seen')) :
    fs.resolveNames (nesting + 1) seen start (t :: ts) =
      fs.resolveNames (nesting + 1) ((start ++ [t], some known) :: seen') known ts := by
  rw [Seen.state?, Option.map_eq_none_iff] at hstate
  rw [resolveNames, if_neg ht]
  simp only [hlink, hstate, htarget]

end equations

/-- A link's target starts at the same place for the lookup and for the canonical form. -/
theorem spells_linkStart {start : List Text} {place : List Name} (h : Spells start place) (target : Bytes) :
    Spells (if Path.isAbsolute (Text.ofBytes target) then [] else start) (linkStart place target) := by
  rw [linkStart]
  by_cases habs : target.head? = some 47
  · rw [if_pos habs, if_pos ((isAbsolute_iff (Text.toBytes?_ofBytes target)).2 habs)]
    exact .nil
  · rw [if_neg habs, if_neg (mt (isAbsolute_iff (Text.toBytes?_ofBytes target)).1 habs)]
    exact h

/-- Where names lead, their canonical place is the place to which they lead. -/
theorem resolveNames_of_leads {fs : FileSystem} {place ns q : List Name} {k : Nat}
    (h : Leads fs place ns q k) {nesting : Nat} {seen : Seen} {stack : List (List Name)}
    {start ts : List Text} (hstart : Spells start place) (hts : Spells ts ns)
    (hseen : Sound fs seen stack k) (hnesting : stack.length + nesting = fs.tree.linkCount + 1) :
    ∃ r seen', fs.resolveNames nesting seen start ts = (r, true, seen') ∧ Spells r q ∧ Known fs seen' ∧
      ∀ u, seen'.state? u = some none → seen.state? u = some none := by
  induction h generalizing nesting seen stack start ts with
  | nil =>
    cases hts
    exact ⟨start, seen, by rw [resolveNames], hstart, hseen.known, fun _ h => h⟩
  | up _ ih =>
    cases hts with
    | cons ht hts =>
      rw [resolveNames, if_pos ((eq_up_iff ht).2 rfl)]
      exact ih hstart.dropLast hts hseen hnesting
  | name hne hnode _ ih =>
    cases hts with
    | @cons t _ ts _ ht hts =>
      have hnext := hstart.concat ht
      have hlink : fs.linkAt? (start ++ [t]) = none := by
        rw [linkAt?_eq fs hnext]
        split
        next target hlink => exact absurd hlink (hnode target)
        next => rfl
      rw [resolveNames_of_no_link (mt (eq_up_iff ht).1 hne) hlink]
      exact ih hnext hts hseen hnesting
  | @link place ns mid q n target j k hne hnode htarget hrest ihtarget ihrest =>
    cases hts with
    | @cons t _ ts _ ht hts =>
      have hup := mt (eq_up_iff ht).1 hne
      have hnext := hstart.concat ht
      have hlink : fs.linkAt? (start ++ [t]) = some (Text.ofBytes target) := by
        rw [linkAt?_eq fs hnext, hnode]
      have hresolves : Resolves fs (place ++ [n]) mid j :=
        ⟨target, hnode, by rwa [List.dropLast_concat]⟩
      have hnear : j < j + k + 1 := by omega
      have hless : k ≤ j + k + 1 := by omega
      rcases hstate : seen.state? (start ++ [t]) with _ | _ | known
      · -- the link is new: its target, then the rest
        cases nesting with
        | zero =>
          have hle := hseen.length_le
          omega
        | succ nesting =>
          have hinner : ((place ++ [n]) :: stack).length + nesting = fs.tree.linkCount + 1 := by
            rw [List.length_cons]
            omega
          obtain ⟨known, seen₁, htarget', hknown, hright, hpending⟩ :=
            ihtarget (spells_linkStart hstart target) (spells_names (Text.toBytes?_ofBytes target))
              (hseen.enter hresolves hnear hnext) hinner
          have hseen₁ := hseen.leave hresolves hnext hknown hright hpending
          obtain ⟨r, seen₂, hrest', hr, hright₂, hpending₂⟩ :=
            ihrest hknown hts (hseen₁.mono hless) hnesting
          refine ⟨r, seen₂, ?_, hr, hright₂, fun u hu => ?_⟩
          · rw [resolveNames_of_new hup hlink hstate htarget', hrest']
          · exact Seen.state?_of_leave hpending (hpending₂ u hu)
      · -- the link is being resolved: it would be on its own way
        exact absurd (hseen.pending _ _ hstate hnext) (hseen.notMem hresolves hnear)
      · -- the link is known
        obtain ⟨mid', j', hresolves', hknown⟩ := hseen.known _ _ _ hstate hnext
        obtain ⟨rfl, -⟩ := hresolves.unique hresolves'
        rw [resolveNames_of_known hup hlink hstate]
        exact ihrest hknown hts (hseen.mono hless) hnesting

/-! ## Canonical paths -/

theorem isName_of_spells {ts : List Text} {ns : List Name} (h : Spells ts ns)
    (hns : ∀ n ∈ ns, Node.isName n = true) :
    ∀ t ∈ ts, t ≠ [] ∧ t ≠ Path.here ∧ t ≠ Path.up ∧ Path.slash ∉ t := by
  induction h with
  | nil => simp
  | @cons t n ts ns ht _ ih =>
    obtain ⟨hn, hns⟩ := List.forall_mem_cons.1 hns
    obtain ⟨hnil, hhere, hup, hslash, -⟩ := Node.isName_iff.1 hn
    refine List.forall_mem_cons.2 ⟨⟨?_, ?_, ?_, ?_⟩, ih hns⟩
    · rwa [Ne, eq_nil_iff ht]
    · rwa [Ne, eq_here_iff ht]
    · rwa [Ne, eq_up_iff ht]
    · rwa [← Text.mem_toBytes?_iff ht (by decide)]

/-- The text of a canonical place has its names. -/
theorem names_absoluteText {ts : List Text} {ns : List Name} (h : Spells ts ns)
    (hns : ∀ n ∈ ns, Node.isName n = true) : names (absoluteText ts) = ts := by
  have hts := isName_of_spells h hns
  have hsplit : (Text.splitAt Path.slash (absoluteText ts)).filter (fun t => t ≠ [] ∧ t ≠ Path.here) =
      ts.filter fun t => t ≠ [] ∧ t ≠ Path.here := by
    rw [absoluteText, Text.splitAt, if_pos rfl, List.filter_cons_of_neg (by simp)]
    by_cases hne : ts = []
    · rw [hne]
      decide
    · rw [Text.splitAt_join hne fun t ht => (hts t ht).2.2.2]
  rw [names, Path.components, hsplit]
  exact List.filter_eq_self.2 fun t ht => decide_eq_true ⟨(hts t ht).1, (hts t ht).2.1⟩

/-- Names without `..` stay as they are. -/
theorem collapse_of_notMem {ts : List Text} (h : Path.up ∉ ts) : collapse ts = ts := by
  have hfold (acc us : List Text) (hus : Path.up ∉ us) :
      us.foldl (fun acc n => if n = Path.up then acc.dropLast else acc ++ [n]) acc = acc ++ us := by
    induction us generalizing acc with
    | nil => rw [List.foldl_nil, List.append_nil]
    | cons u us ih =>
      rw [List.mem_cons, not_or] at hus
      rw [List.foldl_cons, if_neg (Ne.symm hus.1), ih _ hus.2, List.append_assoc, List.singleton_append]
  exact hfold [] ts h

theorem collapse_of_spells {ts : List Text} {ns : List Name} (h : Spells ts ns)
    (hns : ∀ n ∈ ns, Node.isName n = true) : collapse ts = ts :=
  collapse_of_notMem fun hup => (isName_of_spells h hns Path.up hup).2.2.1 rfl

theorem toBytes?_of_encodePath {p : Text} {bs : Bytes} (h : encodePath p = .ok bs) :
    p.toBytes? = some bs := by
  rw [encodePath] at h
  split at h
  next => cases h
  next bs' hbs =>
    split at h
    next => cases h
    next =>
      cases h
      exact hbs

/-- A path without bytes is no failure of the system. -/
theorem encodePath_ne_system (p q : Text) (e : Errno) : encodePath p ≠ .error (.system e q) := by
  intro h
  rw [encodePath] at h
  split at h
  next =>
    have h := Except.error.inj h
    rw [unencodable?] at h
    split at h <;> cases h
  next =>
    split at h <;> cases h

section lookups
variable {fs : FileSystem} {follow : Bool} {p : Text} {bs : Bytes}

theorem find_cases (fs : FileSystem) (follow : Bool) (bs : Bytes) :
    fs.find follow bs = .error .noEntry ∨ fs.find follow bs = .error .nameTooLong ∨
      fs.find follow bs =
        fs.walk follow maxLinks (if bs.head? = some 47 then [] else fs.cwd) (steps bs) := by
  rw [find]
  by_cases hnil : bs = []
  · exact Or.inl (if_pos hnil)
  · rw [if_neg hnil]
    by_cases hlong : maxPath ≤ bs.length
    · exact Or.inr (Or.inl (if_pos hlong))
    · exact Or.inr (Or.inr (if_neg hlong))

theorem locate_of_encodePath (h : encodePath p = .ok bs) :
    fs.locate follow p =
      match fs.find follow bs with
      | .ok r => .ok r
      | .error e => .error (.system e p) := by
  rw [locate, h]
  rfl

theorem locate_of_encodePath_error {e : FileError} (h : encodePath p = .error e) :
    fs.locate follow p = .error e := by
  rw [locate, h]
  rfl

/-- A lookup that succeeds, step by step. -/
theorem locate_eq_ok_iff {r : List Name × Node} :
    fs.locate follow p = .ok r ↔ ∃ bs, encodePath p = .ok bs ∧ bs ≠ [] ∧ bs.length < maxPath ∧
      fs.walk follow maxLinks (if bs.head? = some 47 then [] else fs.cwd) (steps bs) = .ok r := by
  constructor
  · intro h
    cases hbs : encodePath p with
    | error e =>
      rw [locate_of_encodePath_error hbs] at h
      cases h
    | ok bs =>
      rw [locate_of_encodePath hbs, find] at h
      by_cases hnil : bs = []
      · rw [if_pos hnil] at h
        cases h
      by_cases hlength : maxPath ≤ bs.length
      · rw [if_neg hnil, if_pos hlength] at h
        cases h
      refine ⟨bs, rfl, hnil, Nat.not_le.1 hlength, ?_⟩
      rw [if_neg hnil, if_neg hlength] at h
      split at h
      next hr =>
        cases h
        exact hr
      next => cases h
  · rintro ⟨bs, hbs, hnil, hlength, hwalk⟩
    rw [locate_of_encodePath hbs, find, if_neg hnil, if_neg (Nat.not_le.2 hlength), hwalk]

/-- What a lookup finds is there. -/
theorem nodeAt?_of_locate (hfs : fs.tree.isWellNamed = true) {q : List Name} {x : Node}
    (h : fs.locate true p = .ok (q, x)) : fs.nodeAt? q = some x := by
  obtain ⟨bs, -, -, -, hwalk⟩ := locate_eq_ok_iff.1 h
  exact (leads_of_walk hfs hwalk).2

end lookups

/-- A lookup of the place of a node follows no link. -/
theorem locate_absoluteText_ne {fs : FileSystem} (hfs : fs.tree.isWellNamed = true) {ts : List Text}
    {q : List Name} {x : Node} (hts : Spells ts q) (hx : fs.tree.at? q = some x)
    (hlink : ∀ target, x ≠ .link target) (p : Text) :
    fs.locate true (absoluteText ts) ≠ .error (.system .tooManyLinks p) := by
  intro h
  cases hbs : encodePath (absoluteText ts) with
  | error e =>
    rw [locate_of_encodePath_error hbs] at h
    cases h
    exact encodePath_ne_system _ _ _ hbs
  | ok bs =>
    have hbytes := toBytes?_of_encodePath hbs
    have hroot : bs.head? = some 47 := (isAbsolute_iff hbytes).1 (by rw [Path.isAbsolute]; rfl)
    have hnames := spells_names hbytes
    rw [names_absoluteText hts (Node.isWellNamed_of_at? hfs hx).2] at hnames
    have hwalk : fs.walk true maxLinks [] (steps bs) ≠ .error .tooManyLinks := by
      refine walk_ne_tooManyLinks hfs ?_ hlink
      rw [List.nil_append, ← stepNames, ← hts.unique hnames]
      exact hx
    rw [locate_of_encodePath hbs] at h
    rcases find_cases fs true bs with hfind | hfind | hfind
    · rw [hfind] at h
      cases h
    · rw [hfind] at h
      cases h
    · rw [if_pos hroot] at hfind
      rw [hfind] at h
      split at h
      next => cases h
      next e he =>
        cases h
        exact hwalk he

/-- A path that a lookup finds has a canonical form, which spells the place found. -/
theorem canonical_of_locate {fs : FileSystem} (hfs : fs.tree.isWellNamed = true) {p : Text} {q : List Name}
    {x : Node} (h : fs.locate true p = .ok (q, x)) (hkept : isRemoved q = false)
    (hlink : ∀ target, x ≠ .link target) :
    ∃ ts, Spells ts q ∧ fs.canonical p = .ok (absoluteText ts) := by
  have hx : fs.tree.at? q = some x := by
    rw [← nodeAt?_of_not_isRemoved hkept]
    exact nodeAt?_of_locate hfs h
  obtain ⟨bs, hbs, -, -, hwalk⟩ := locate_eq_ok_iff.1 h
  have hbytes := toBytes?_of_encodePath hbs
  obtain ⟨⟨k, hleads⟩, -⟩ := leads_of_walk hfs hwalk
  have hstart : Spells (if Path.isAbsolute p then [] else fs.cwd.map Text.ofBytes)
      (if bs.head? = some 47 then [] else fs.cwd) := by
    by_cases habs : bs.head? = some 47
    · rw [if_pos habs, if_pos ((isAbsolute_iff hbytes).2 habs)]
      exact .nil
    · rw [if_neg habs, if_neg (mt (isAbsolute_iff hbytes).1 habs)]
      exact .ofBytes fs.cwd
  obtain ⟨ts, seen, hresolve, hts, -, -⟩ := resolveNames_of_leads hleads hstart (spells_names hbytes)
    (Sound.nil fs k) (Nat.zero_add (fs.tree.linkCount + 1))
  have hcanonical : fs.canonicalNames p = ts := by
    rw [canonicalNames, hresolve]
    exact collapse_of_spells hts (Node.isWellNamed_of_at? hfs hx).2
  refine ⟨ts, hts, ?_⟩
  rw [canonical, hbs]
  simp only [hcanonical]
  split
  next e he => exact absurd he (locate_absoluteText_ne hfs hts hx hlink e)
  next => rfl

/-- A path passes a test if it leads to a node that does. -/
theorem test_eq_true_iff {fs : FileSystem} {p : Node → Bool} {path : Text} :
    fs.test p path = .ok true ↔ ∃ place x, fs.locate true path = .ok (place, x) ∧ p x = true := by
  rw [test]
  constructor
  · intro h
    split at h
    next place x hx => exact ⟨place, x, hx, Except.ok.inj h⟩
    next => split at h <;> cases h
  · rintro ⟨place, x, hx, hp⟩
    rw [hx]
    exact congrArg Except.ok hp

/-- The path of a regular file has a canonical form. -/
theorem canonical_of_isFile {fs : FileSystem} (hfs : fs.tree.isWellNamed = true) {p : Text}
    (h : fs.isFile? p = .ok true) : ∃ t, fs.canonical p = .ok t := by
  obtain ⟨q, x, hlocate, hfile⟩ := test_eq_true_iff.1 h
  have hnode := nodeAt?_of_locate hfs hlocate
  have hkept : isRemoved q = false := by
    by_contra hremoved
    rw [nodeAt?, if_pos (by simpa using hremoved)] at hnode
    cases hnode
    cases hfile
  obtain ⟨ts, -, hts⟩ := canonical_of_locate hfs hlocate hkept fun target hx => by
    rw [hx] at hfile
    cases hfile
  exact ⟨_, hts⟩

/-! ## Failures -/

end ShellCoverage.FileSystem
