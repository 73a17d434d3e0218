import Mathlib.Data.List.TakeWhile
import ShellCoverage.Proofs.FileSystem.Canonical

/-!
# Components of paths

The components of a path's text are its names between slashes, without empty ones and `.`. A path in normal
form has the components of its text as its parts. The canonical form of a path is absolute, and made of names
other than `..`, whether the path leads somewhere or not. Where there is no link on the way, it has the names of the
path itself.

* `Path.IsPart` : a text that is a component of some path;
* `Path.components_toText` : a path in normal form can be read back from its text;
* `Path.commonText?_eq_some_iff` : a path that is below another one has its components first;
* `Path.IsCanonical`, `Path.not_prefix_components_append` : canonical paths, and the paths beside them;
* `isPart_resolveNames` : links lead to names of paths;
* `canonical_eq_ok` : the names of a canonical path;
* `canonicalNames_of_no_link` : paths without links.
-/

namespace ShellCoverage

namespace Path

/-- The text can stand between the slashes of a normal form. -/
def IsPart (t : Text) : Prop := t ≠ [] ∧ t ≠ here ∧ slash ∉ t

instance (t : Text) : Decidable (IsPart t) := inferInstanceAs (Decidable (t ≠ [] ∧ t ≠ here ∧ slash ∉ t))

theorem isPart_of_mem_components {t c : Text} (h : c ∈ components t) : IsPart c := by
  obtain ⟨hmem, hc⟩ := List.mem_filter.1 h
  obtain ⟨hnil, hhere⟩ := of_decide_eq_true hc
  exact ⟨hnil, hhere, Text.notMem_of_mem_splitAt hmem⟩

theorem components_slash_cons (t : Text) : components (slash :: t) = components t := by
  rw [components, Text.splitAt, if_pos rfl, List.filter_cons_of_neg (by simp), ← components]

theorem components_append (s t : Text) : components (s ++ slash :: t) = components s ++ components t := by
  rw [components, Text.splitAt_append, List.filter_append, ← components, ← components]

theorem components_join {ts : List Text} (h : ∀ t ∈ ts, IsPart t) : components (Text.join [slash] ts) = ts := by
  by_cases hne : ts = []
  · rw [hne]
    decide
  · rw [components, Text.splitAt_join hne fun t ht => (h t ht).2.2]
    exact List.filter_eq_self.2 fun t ht => decide_eq_true ⟨(h t ht).1, (h t ht).2.1⟩

/-- All parts are components. -/
def IsNormal (p : Path) : Prop := ∀ t ∈ p.parts, IsPart t

theorem isNormal_ofText (t : Text) : (ofText t).IsNormal := fun _ h => isPart_of_mem_components h

theorem IsNormal.parent {p : Path} (hp : p.IsNormal) : p.parent.IsNormal := fun t ht =>
  hp t (List.mem_of_mem_dropLast ht)

theorem join_ne_nil {ts : List Text} (hne : ts ≠ []) (h : ∀ t ∈ ts, IsPart t) : Text.join [slash] ts ≠ [] := by
  intro hnil
  have hcomponents := components_join h
  rw [hnil] at hcomponents
  exact hne hcomponents.symm

/-- The text of a path that is not empty is its root and its parts. -/
theorem toText_eq {p : Path} (hp : p.IsNormal) (hne : p.root ≠ .relative ∨ p.parts ≠ []) :
    p.toText = rootText p.root ++ Text.join [slash] p.parts := by
  have htext : rootText p.root ++ Text.join [slash] p.parts ≠ [] := by
    rw [Ne, List.append_eq_nil_iff]
    rintro ⟨hroot, hparts⟩
    rcases hne with hne | hne
    · cases hr : p.root with
      | relative => exact hne hr
      | absolute | doubled =>
        rw [hr] at hroot
        cases hroot
    · exact join_ne_nil hne hp hparts
  rw [toText]
  split
  next h => exact absurd h htext
  next => rfl

/-- A path in normal form can be read back from its text. -/
theorem components_toText {p : Path} (hp : p.IsNormal) : components p.toText = p.parts := by
  by_cases hne : p.root ≠ .relative ∨ p.parts ≠ []
  · rw [toText_eq hp hne]
    cases p.root with
    | relative => exact components_join hp
    | absolute => exact (components_slash_cons _).trans (components_join hp)
    | doubled => exact (components_slash_cons _).trans ((components_slash_cons _).trans (components_join hp))
  · simp only [not_or, not_not] at hne
    obtain ⟨root, parts⟩ := p
    obtain ⟨rfl, rfl⟩ := hne
    decide

theorem head?_join_ne_slash {ts : List Text} (h : ∀ t ∈ ts, IsPart t) :
    (Text.join [slash] ts).head? ≠ some slash := by
  cases ts with
  | nil => exact nofun
  | cons t ts =>
    obtain ⟨hnil, -, hslash⟩ := h t List.mem_cons_self
    obtain ⟨c, t, rfl⟩ := List.exists_cons_of_ne_nil hnil
    have hc : c ≠ slash := fun hc => hslash (hc ▸ List.mem_cons_self)
    cases ts with
    | nil => simpa [Text.join_singleton] using hc
    | cons u ts => simpa [Text.join_cons_cons] using hc

theorem isAbsolute_toText {p : Path} (hp : p.IsNormal) : isAbsolute p.toText = true ↔ p.root ≠ .relative := by
  rw [isAbsolute, decide_eq_true_iff]
  by_cases hne : p.root ≠ .relative ∨ p.parts ≠ []
  · rw [toText_eq hp hne]
    cases p.root with
    | relative => simpa [rootText] using head?_join_ne_slash hp
    | absolute | doubled => simp [rootText]
  · simp only [not_or, not_not] at hne
    obtain ⟨root, parts⟩ := p
    obtain ⟨rfl, rfl⟩ := hne
    decide

theorem rootOf_slash_cons (t : Text) : rootOf (slash :: t) ≠ .relative := by
  rw [rootOf, List.takeWhile_cons_of_pos (by simp)]
  cases t.takeWhile (· = slash) with
  | nil => exact nofun
  | cons c cs => cases cs <;> exact nofun

theorem prefixes_commonHead {α : Type} [DecidableEq α] (as bs : List α) :
    commonHead as bs <+: as ∧ commonHead as bs <+: bs := by
  fun_induction commonHead as bs with
  | case1 a as bs ih =>
    exact ⟨List.cons_prefix_cons.2 ⟨rfl, ih.1⟩, List.cons_prefix_cons.2 ⟨rfl, ih.2⟩⟩
  | case2 => exact ⟨List.nil_prefix, List.nil_prefix⟩
  | case3 => exact ⟨List.nil_prefix, List.nil_prefix⟩

theorem commonHead_eq_left_iff {α : Type} [DecidableEq α] {as bs : List α} :
    commonHead as bs = as ↔ as <+: bs := by
  constructor
  · intro h
    have hright := (prefixes_commonHead as bs).2
    rwa [h] at hright
  · rintro ⟨cs, rfl⟩
    induction as with
    | nil => rfl
    | cons a as ih => rw [List.cons_append, commonHead, if_pos rfl, ih]

/-- Two paths have no common part just if only one of them is absolute. -/
theorem commonText?_eq_none_iff {s t : Text} : commonText? s t = none ↔ isAbsolute s ≠ isAbsolute t := by
  rw [commonText?]
  split
  next h => simp [h]
  next h => exact ⟨fun _ => h, fun _ => rfl⟩

/-- The text of some names, which stand below the root if the path is absolute. -/
theorem components_rooted {ts : List Text} (h : ∀ t ∈ ts, IsPart t) (b : Bool) :
    components ((if b then [slash] else []) ++ Text.join [slash] ts) = ts := by
  cases b with
  | true => exact (components_slash_cons _).trans (components_join h)
  | false => exact components_join h

/-- The common part of two paths is the first one just if this has no other text than its names give it, and the names
come first in the other. -/
theorem commonText?_eq_some_iff {root path : Text} :
    commonText? root path = some root ↔
      isAbsolute root = isAbsolute path ∧ components root <+: components path ∧
        root = (if isAbsolute root then [slash] else []) ++ Text.join [slash] (components root) := by
  rw [commonText?]
  split
  next habs =>
    rw [Option.some.injEq]
    constructor
    · intro h
      have hparts (t : Text) (ht : t ∈ commonHead (components root) (components path)) : IsPart t :=
        isPart_of_mem_components ((prefixes_commonHead _ _).1.subset ht)
      have hcommon : components root = commonHead (components root) (components path) := by
        conv_lhs => rw [← h, components_rooted hparts]
      rw [← hcommon] at h
      exact ⟨habs, commonHead_eq_left_iff.1 hcommon.symm, h.symm⟩
    · rintro ⟨-, hprefix, hroot⟩
      rw [commonHead_eq_left_iff.2 hprefix]
      exact hroot.symm
  next habs =>
    constructor
    · intro h
      cases h
    · rintro ⟨h, -⟩
      exact absurd h habs

/-! ## Canonical paths -/

/-- The text of a canonical path: a slash, and names other than `..` with one slash between two of them. -/
def IsCanonical (t : Text) : Prop := ∃ ts, (∀ n ∈ ts, IsPart n ∧ n ≠ up) ∧ t = FileSystem.absoluteText ts

theorem IsPart.append {w a : Text} (hw : IsPart w) (ha : slash ∉ a) : IsPart (w ++ a) := by
  obtain ⟨hnil, hhere, hslash⟩ := hw
  refine ⟨by simp [hnil], ?_, by simp [hslash, ha]⟩
  intro h
  obtain ⟨c, w, rfl⟩ := List.exists_cons_of_ne_nil hnil
  obtain ⟨rfl, hrest⟩ := List.cons.inj h
  obtain ⟨rfl, -⟩ := List.append_eq_nil_iff.1 hrest
  exact hhere rfl

/-- The first name of a path. -/
theorem components_of_isPart {w : Text} (hw : IsPart w) {t : Text} (ht : ∀ c ∈ t.head?, c = slash) :
    components (w ++ t) = w :: components t := by
  have hkeep : decide (w ≠ [] ∧ w ≠ here) = true := decide_eq_true ⟨hw.1, hw.2.1⟩
  cases t with
  | nil =>
    rw [List.append_nil, components, Text.splitAt_of_notMem hw.2.2]
    exact List.filter_cons_of_pos hkeep
  | cons c t =>
    obtain rfl := ht c rfl
    rw [components_slash_cons, components, Text.splitAt_append_cons hw.2.2]
    exact List.filter_cons_of_pos hkeep

/-- A path whose text goes on with more than a slash is beside the path, not below it. -/
theorem not_prefix_components_append {ts : List Text} (hts : ∀ t ∈ ts, IsPart t) (hne : ts ≠ []) {s : Text}
    (hs : s ≠ []) (hslash : s.head? ≠ some slash) : ¬ ts <+: components (FileSystem.absoluteText ts ++ s) := by
  obtain ⟨us, w, rfl⟩ := (List.eq_nil_or_concat ts).resolve_left hne
  rw [List.concat_eq_append] at hts ⊢
  obtain ⟨hus, hw⟩ := List.forall_mem_append.1 hts
  have hw : IsPart w := hw w (List.mem_singleton_self w)
  -- the last name of the path goes on to the next slash
  obtain ⟨a, t, rfl, ha, ht⟩ : ∃ a t, s = a ++ t ∧ slash ∉ a ∧ ∀ c ∈ t.head?, c = slash := by
    refine ⟨s.takeWhile (· ≠ slash), s.dropWhile (· ≠ slash), List.takeWhile_append_dropWhile.symm, ?_, ?_⟩
    · intro hmem
      simpa using List.mem_takeWhile_imp hmem
    · intro c hc
      have hhead := List.head?_dropWhile_not (fun c => decide (c ≠ slash)) s
      rw [Option.mem_def.1 hc] at hhead
      simpa using hhead
  have hanil : a ≠ [] := by
    rintro rfl
    cases t with
    | nil => exact hs rfl
    | cons c t =>
      obtain rfl := ht c rfl
      exact hslash rfl
  have hcomponents : components (FileSystem.absoluteText (us ++ [w]) ++ (a ++ t)) = us ++ (w ++ a) :: components t := by
    rw [FileSystem.absoluteText, List.cons_append, components_slash_cons]
    by_cases hnil : us = []
    · subst hnil
      rw [List.nil_append, Text.join_singleton, ← List.append_assoc, components_of_isPart (hw.append ha) ht]
      rfl
    · rw [Text.join_concat _ hnil, List.append_assoc, List.append_assoc, List.singleton_append, components_append,
        components_join hus, ← List.append_assoc w a t, components_of_isPart (hw.append ha) ht]
  rw [hcomponents, List.prefix_append_right_inj, List.cons_prefix_cons]
  rintro ⟨hlast, -⟩
  exact hanil (List.append_cancel_left ((List.append_nil w).trans hlast)).symm

end Path

namespace FileSystem

open ShellCoverage.Path

/-! ## Names of canonical paths -/

theorem components_absoluteText {ts : List Text} (h : ∀ t ∈ ts, IsPart t) : components (absoluteText ts) = ts := by
  rw [absoluteText, components_slash_cons, components_join h]

/-- The places that a table gives for links are made of names of paths. -/
def Seen.IsNormal (seen : Seen) : Prop := ∀ e ∈ seen, ∀ known, e.2 = some known → ∀ t ∈ known, IsPart t

theorem Seen.isNormal_cons {seen : Seen} (h : seen.IsNormal) (place : List Text) {known : Option (List Text)}
    (hknown : ∀ ts, known = some ts → ∀ t ∈ ts, IsPart t) : Seen.IsNormal ((place, known) :: seen) := by
  intro e he ts hts
  rcases List.mem_cons.1 he with rfl | he
  · exact hknown ts hts
  · exact h e he ts hts

theorem isPart_concat {place : List Text} {n : Text} (hplace : ∀ t ∈ place, IsPart t) (hn : IsPart n) :
    ∀ t ∈ place ++ [n], IsPart t :=
  List.forall_mem_append.2 ⟨hplace, List.forall_mem_singleton.2 hn⟩

theorem isPart_start {place : List Text} (hplace : ∀ t ∈ place, IsPart t) (target : Text) :
    ∀ t ∈ (if isAbsolute target then [] else place), IsPart t := by
  split
  · exact nofun
  · exact hplace

/-- Names of paths, and those of links on the way, lead to names of paths. -/
theorem isPart_resolveNames {fs : FileSystem} {nesting : Nat} {seen : Seen} {start ts : List Text}
    (hseen : seen.IsNormal) (hstart : ∀ t ∈ start, IsPart t) (hts : ∀ t ∈ ts, IsPart t) :
    (∀ t ∈ (fs.resolveNames nesting seen start ts).1, IsPart t) ∧
      Seen.IsNormal (fs.resolveNames nesting seen start ts).2.2 := by
  fun_induction resolveNames fs nesting seen start ts with
  | case1 => exact ⟨hstart, hseen⟩
  | case2 nesting seen place ns ih =>
    exact ih hseen (fun t ht => hstart t (List.mem_of_mem_dropLast ht)) (List.forall_mem_cons.1 hts).2
  | case3 nesting seen place n ns hup next hlink ih =>
    obtain ⟨hn, hns⟩ := List.forall_mem_cons.1 hts
    exact ih hseen (isPart_concat hstart hn) hns
  | case4 nesting seen place n ns hup next target hlink t known hfind ih =>
    exact ih hseen (hseen _ (List.mem_of_find?_eq_some hfind) known rfl) (List.forall_mem_cons.1 hts).2
  | case5 nesting seen place n ns hup next target hlink t hfind =>
    obtain ⟨hn, hns⟩ := List.forall_mem_cons.1 hts
    exact ⟨List.forall_mem_append.2 ⟨isPart_concat hstart hn, hns⟩, hseen⟩
  | case6 seen place n ns hup next target hlink hfind =>
    obtain ⟨hn, hns⟩ := List.forall_mem_cons.1 hts
    exact ⟨List.forall_mem_append.2 ⟨isPart_concat hstart hn, hns⟩, hseen⟩
  | case7 seen place n ns hup next target hlink hfind nesting start reached seen' hresolve ih =>
    have hpending : Seen.IsNormal ((next, none) :: seen) := Seen.isNormal_cons hseen next nofun
    have htarget := ih hpending (isPart_start hstart target) fun t => isPart_of_mem_components
    rw [hresolve] at htarget
    exact ⟨List.forall_mem_append.2 ⟨htarget.1, (List.forall_mem_cons.1 hts).2⟩, htarget.2⟩
  | case8 seen place n ns hup next target hlink hfind nesting start reached seen' hresolve ihtarget ihrest =>
    have hpending : Seen.IsNormal ((next, none) :: seen) := Seen.isNormal_cons hseen next nofun
    have htarget := ihtarget hpending (isPart_start hstart target) fun t => isPart_of_mem_components
    rw [hresolve] at htarget
    have hdone : Seen.IsNormal ((next, some reached) :: seen') := by
      refine Seen.isNormal_cons htarget.2 next fun known hknown => ?_
      cases hknown
      exact htarget.1
    exact ihrest hdone htarget.1 (List.forall_mem_cons.1 hts).2

/-! ## Names without `..` -/

theorem mem_of_mem_collapse {ts : List Text} {t : Text} (h : t ∈ collapse ts) : t ∈ ts ∧ t ≠ up := by
  have hfold (acc ts : List Text) :
      t ∈ ts.foldl (fun acc n => if n = up then acc.dropLast else acc ++ [n]) acc →
        t ∈ acc ∨ t ∈ ts ∧ t ≠ up := by
    induction ts generalizing acc with
    | nil => exact Or.inl
    | cons n ts ih =>
      intro h
      rcases ih _ h with h | ⟨h, hup⟩
      · by_cases hn : n = up
        · simp only [hn, if_true] at h
          exact Or.inl (List.mem_of_mem_dropLast h)
        · simp only [hn, if_false, List.mem_append, List.mem_singleton] at h
          rcases h with h | rfl
          · exact Or.inl h
          · exact Or.inr ⟨List.mem_cons_self, hn⟩
      · exact Or.inr ⟨List.mem_cons_of_mem n h, hup⟩
  exact (hfold [] ts h).resolve_left List.not_mem_nil

/-- The names of a canonical path. -/
theorem isPart_canonicalNames {fs : FileSystem} (hcwd : ∀ n ∈ fs.cwd, Node.isName n = true) (p : Text) :
    ∀ t ∈ fs.canonicalNames p, IsPart t ∧ t ≠ up := by
  have hhere (t : Text) (ht : t ∈ fs.cwd.map Text.ofBytes) : IsPart t := by
    obtain ⟨hnil, hhere, -, hslash⟩ := isName_of_spells (.ofBytes fs.cwd) hcwd t ht
    exact ⟨hnil, hhere, hslash⟩
  have hstart : ∀ t ∈ (if isAbsolute p then [] else fs.cwd.map Text.ofBytes), IsPart t :=
    isPart_start hhere p
  have hseen : Seen.IsNormal [] := nofun
  intro t ht
  obtain ⟨hmem, hup⟩ := mem_of_mem_collapse ht
  exact ⟨(isPart_resolveNames hseen hstart fun t => isPart_of_mem_components).1 t hmem, hup⟩

theorem canonical_eq_ok {fs : FileSystem} {p t : Text} (h : fs.canonical p = .ok t) :
    t = absoluteText (fs.canonicalNames p) := by
  rw [canonical] at h
  split at h
  next => cases h
  next =>
    dsimp only at h
    split at h
    next => cases h
    next => exact (Except.ok.inj h).symm

/-- A canonical path is one by its text. -/
theorem isCanonical_of_canonical {fs : FileSystem} (hcwd : ∀ n ∈ fs.cwd, Node.isName n = true) {p t : Text}
    (h : fs.canonical p = .ok t) : IsCanonical t :=
  ⟨fs.canonicalNames p, isPart_canonicalNames hcwd p, canonical_eq_ok h⟩

/-! ## Paths without links -/

section
variable {fs : FileSystem}

theorem resolveNames_of_no_links {nesting : Nat} {seen : Seen} {start ts : List Text} (hup : up ∉ ts)
    (h : ∀ us, us <+: ts → us ≠ [] → fs.linkAt? (start ++ us) = none) :
    fs.resolveNames nesting seen start ts = (start ++ ts, true, seen) := by
  induction ts generalizing start with
  | nil => rw [resolveNames, List.append_nil]
  | cons t ts ih =>
    rw [List.mem_cons, not_or] at hup
    have hfirst : fs.linkAt? (start ++ [t]) = none :=
      h [t] (List.cons_prefix_cons.2 ⟨rfl, List.nil_prefix⟩) (List.cons_ne_nil t [])
    have hrest (us : List Text) (hus : us <+: ts) (_ : us ≠ []) : fs.linkAt? (start ++ [t] ++ us) = none := by
      rw [List.append_assoc]
      exact h (t :: us) (List.cons_prefix_cons.2 ⟨rfl, hus⟩) (List.cons_ne_nil t us)
    rw [resolveNames_of_no_link (Ne.symm hup.1) hfirst, ih hup.2 hrest, List.append_assoc,
      List.singleton_append]

/-- An absolute path without `..` on which there is no link has the names of its canonical form. -/
theorem canonicalNames_of_no_link {p : Text} (habs : isAbsolute p = true) (hup : up ∉ components p)
    (h : ∀ us, us <+: components p → fs.linkAt? us = none) : fs.canonicalNames p = components p := by
  rw [canonicalNames, if_pos habs, resolveNames_of_no_links hup fun us hus _ => h us hus]
  exact collapse_of_notMem hup

end

end FileSystem

end ShellCoverage
