import Mathlib
import ShellCoverage.Proofs.FileSystem.Components
import ShellCoverage.Proofs.Report.Handoff
import ShellCoverage.Proofs.Script.Discovery

/-!
# What a result holds

`result_isReport` says of the result of any run which files it has, in which order, and what stands at each
index of their arrays. An array can also be made by marking: from the counts alone, with a zero put in the
place of the null of each relevant line. Marking never looks beyond the array, and never changes a count.

A file that ran is reported only below the root. A script that is found below the root is reported by its
canonical path, which may be elsewhere: the entry that was found may be a link.

* `Script.mem_relevantLines` : the relevant lines by their flags;
* `markLine`, `foldlM_markLine` : marking lines in turn;
* `IsArrayOf`, `isArrayOf_lineArray` : the array of a file;
* `IsReport`, `result_isReport` : the result;
* `isUnder_iff_names` : the paths that count as the root's;
* `isCanonical_root`, `root_of_ofRoot` : the root is canonical, so that it is absolute and has no `..`;
* `prefix_of_no_link` : what is found without links is below the root;
* `mem_result_outside_iff` : the files outside the root that a result has.
-/

namespace ShellCoverage

theorem Script.mem_relevantLines {lines : List Text} {n : Nat} :
    n ∈ relevantLines lines ↔ 1 ≤ n ∧ (relevance lines)[n - 1]? = some true := mem_numbersWith

/-- Relevant lines are lines. -/
theorem Script.le_length_of_mem_relevantLines {lines : List Text} {n : Nat} (h : n ∈ relevantLines lines) :
    1 ≤ n ∧ n ≤ lines.length := by
  obtain ⟨hle, hflag⟩ := mem_relevantLines.1 h
  obtain ⟨hlt, -⟩ := List.getElem?_eq_some_iff.1 hflag
  rw [relevance, length_relevanceFrom] at hlt
  omega

namespace Report
open Json

/-! ## Marking lines -/

/-- The item for a count alone. -/
def countItem : Option Nat → Value
  | some n => .int n
  | none => .null

/-- The array with a zero in the place of a null at the number of a line, from 1; nothing where the array
has no such item. -/
def markLine (a : LineArray) : Nat → Option LineArray
  | 0 => none
  | n + 1 => a[n]?.map fun v => if v.isNull then a.set n (.int 0) else a

theorem getElem?_markLine {a b : LineArray} {n : Nat} (h : markLine a n = some b) (i : Nat) :
    b[i]? = if i + 1 = n then a[i]?.map fun v => if v.isNull then .int 0 else v else a[i]? := by
  cases n with
  | zero => cases h
  | succ n =>
    obtain ⟨v, hv, rfl⟩ := Option.map_eq_some_iff.1 h
    by_cases hi : i = n
    · subst hi
      rw [if_pos rfl, hv]
      by_cases hnull : v.isNull = true
      · simp [hnull, (List.getElem?_eq_some_iff.1 hv).1]
      · simp [hnull, hv]
    · have hne : ¬ i + 1 = n + 1 := by omega
      rw [if_neg hne]
      by_cases hnull : v.isNull = true
      · rw [if_pos hnull, List.getElem?_set_ne (Ne.symm hi)]
      · rw [if_neg hnull]

/-- Lines of the array are marked one after the other. -/
theorem foldlM_markLine {ns : List Nat} {a : LineArray} (h : ∀ n ∈ ns, 1 ≤ n ∧ n ≤ a.length) :
    ∃ b, ns.foldlM markLine a = some b ∧
      ∀ i : Nat, b[i]? = if i + 1 ∈ ns then a[i]?.map fun v => if v.isNull then .int 0 else v else a[i]? := by
  induction ns generalizing a with
  | nil => exact ⟨a, rfl, fun i => by simp⟩
  | cons n ns ih =>
    obtain ⟨hn, hns⟩ := List.forall_mem_cons.1 h
    obtain ⟨n, rfl⟩ : ∃ m, n = m + 1 := ⟨n - 1, by omega⟩
    obtain ⟨c, hc⟩ : ∃ c, markLine a (n + 1) = some c := by
      rw [markLine, List.getElem?_eq_getElem (by omega), Option.map_some]
      exact ⟨_, rfl⟩
    have hlength : c.length = a.length := by
      obtain ⟨v, -, hv⟩ := Option.map_eq_some_iff.1 hc
      rw [← hv]
      split <;> simp
    obtain ⟨b, hb, hitems⟩ := ih (hlength ▸ hns)
    refine ⟨b, by rw [List.foldlM_cons, hc]; exact hb, fun i => ?_⟩
    rw [hitems, getElem?_markLine hc]
    -- a line that is marked already stays as it is
    have htwice (v : Value) : (if (if v.isNull then Value.int 0 else v).isNull then Value.int 0 else
        if v.isNull then Value.int 0 else v) = if v.isNull then Value.int 0 else v := by
      cases v <;> rfl
    by_cases hi : i + 1 = n + 1
    · by_cases hmem : i + 1 ∈ ns
      · simp only [hi ▸ hmem, hi, if_true, List.mem_cons_self, Option.map_map, Function.comp_def, htwice]
      · simp only [hi ▸ hmem, hi, if_true, if_false, List.mem_cons_self]
    · simp only [hi, if_false, List.mem_cons, false_or]

/-! ## Arrays -/

/-- What the array of a file is, given the hits of a run and the lines of the file. -/
structure IsArrayOf (xs : List Counts.Hit) (path : Text) (lines : List Text) (a : LineArray) : Prop where
  /-- It goes as far as the lines of the file, and as the lines that were hit. -/
  length_eq : (a.length : Int) = ((xs.filter (·.path = path)).map (·.line)).foldl max (lines.length : Int)
  /-- An item is the count of its line, or tells whether the line could have run. -/
  getElem_eq : ∀ (i : Nat) (hi : i < a.length), a[i] =
    if 0 < (Counts.ofHits xs).hits path (i + 1) then .int ((Counts.ofHits xs).hits path (i + 1))
    else if i + 1 ∈ Script.relevantLines lines then .int 0 else .null
  /-- Marking the relevant lines never looks beyond the counts, and gives the array. -/
  marked : (Script.relevantLines lines).foldlM markLine
    (((Counts.ofHits xs).toList path lines.length).map countItem) = some a
  /-- Counts stay as they are. -/
  kept : ∀ i : Nat, 0 < (Counts.ofHits xs).hits path (i + 1) →
    a[i]? = some (.int ((Counts.ofHits xs).hits path (i + 1)))

theorem itemAt_eq (c : Counts) (path : Text) (lines : List Text) (i : Nat) :
    itemAt lines c path i =
      if 0 < c.hits path (i + 1) then .int (c.hits path (i + 1))
      else if i + 1 ∈ Script.relevantLines lines then .int 0 else .null := by
  have hmem : i + 1 ∈ Script.relevantLines lines ↔ (Script.relevance lines)[i]?.getD false = true := by
    rw [Script.mem_relevantLines, Nat.add_sub_cancel]
    cases (Script.relevance lines)[i]? <;> simp
  rw [itemAt, lineItem]
  by_cases hzero : c.hits path (i + 1) = 0
  · simp only [hzero, if_true, Nat.lt_irrefl, if_false, hmem]
  · rw [if_neg hzero, if_pos (Nat.pos_of_ne_zero hzero)]

theorem getElem?_lineArray (c : Counts) (path : Text) (lines : List Text) (i : Nat) :
    (lineArray lines (c.toList path lines.length))[i]? =
      if i < (c.extent path lines.length).toNat then some (itemAt lines c path i) else none := by
  rw [lineArray_toList, List.getElem?_map]
  by_cases hi : i < (c.extent path lines.length).toNat
  · rw [if_pos hi, List.getElem?_range hi, Option.map_some]
  · rw [if_neg hi, List.getElem?_eq_none_iff.2 (by simpa using hi), Option.map_none]

theorem getElem?_counts (c : Counts) (path : Text) (n : Int) (i : Nat) :
    ((c.toList path n).map countItem)[i]? =
      if i < (c.extent path n).toNat then
        some (if 0 < c.hits path (i + 1) then .int (c.hits path (i + 1)) else .null)
      else none := by
  rw [List.getElem?_map, Counts.getElem?_toList]
  by_cases hi : i < (c.extent path n).toNat
  · by_cases hhits : 0 < c.hits path (i + 1) <;> simp [hi, hhits, countItem]
  · rw [if_neg hi, if_neg hi, Option.map_none]

theorem isArrayOf_lineArray (xs : List Counts.Hit) (path : Text) (lines : List Text) :
    IsArrayOf xs path lines (lineArray lines ((Counts.ofHits xs).toList path lines.length)) := by
  have hlong := Counts.le_extent (Counts.ofHits xs) path lines.length
  have hlength : (lineArray lines ((Counts.ofHits xs).toList path lines.length)).length =
      ((Counts.ofHits xs).extent path lines.length).toNat := by
    rw [lineArray_toList, List.length_map, List.length_range]
  refine ⟨?_, fun i hi => ?_, ?_, fun i hhits => ?_⟩
  · rw [hlength, ← Counts.extent_ofHits]
    omega
  · have hitem := getElem?_lineArray (Counts.ofHits xs) path lines i
    rw [List.getElem?_eq_getElem hi, if_pos (hlength ▸ hi), itemAt_eq] at hitem
    exact Option.some.inj hitem
  · have hrange : ∀ n ∈ Script.relevantLines lines,
        1 ≤ n ∧ n ≤ (((Counts.ofHits xs).toList path lines.length).map countItem).length := by
      intro n hn
      obtain ⟨hone, hle⟩ := Script.le_length_of_mem_relevantLines hn
      rw [List.length_map, Counts.toList, List.length_map, List.length_range]
      omega
    obtain ⟨b, hb, hitems⟩ := foldlM_markLine hrange
    rw [hb]
    refine congrArg some (List.ext_getElem? fun i => ?_)
    rw [hitems, getElem?_counts, getElem?_lineArray, itemAt_eq]
    by_cases hi : i < ((Counts.ofHits xs).extent path lines.length).toNat
    · by_cases hhits : 0 < (Counts.ofHits xs).hits path (i + 1) <;>
        by_cases hmem : i + 1 ∈ Script.relevantLines lines <;> simp [hi, hhits, hmem, Value.isNull]
    · simp [hi]
  · have hi : i < ((Counts.ofHits xs).extent path lines.length).toNat := by
      by_contra hlt
      have hbeyond : (Counts.ofHits xs).extent path lines.length < (i : Int) + 1 := by omega
      have hnone := Counts.hits_of_extent_lt hbeyond
      omega
    rw [getElem?_lineArray, if_pos hi, itemAt_eq, if_pos hhits]

/-! ## Results -/

/-- What the result of a run is, given its hits and the scripts that are looked at whether they ran or not. -/
structure IsReport (h : Handoff) (fs : FileSystem) (xs : List Counts.Hit) (found : List Text) (r : Result) :
    Prop where
  /-- The paths ascend, and no path stands twice. -/
  ascending : (Table.keys r).Pairwise (· < ·)
  /-- The files are those that ran, below the root, and the scripts found, as far as they can be read. -/
  mem_keys : ∀ path, path ∈ Table.keys r ↔
    (((∃ x ∈ xs, x.path = path) ∧ isUnder h.root path = true ∧ fs.isFile path = true) ∨ path ∈ found) ∧
      ∃ lines, Script.readLines fs path = .ok lines
  /-- Each file has its array. -/
  isArrayOf : ∀ path a, (path, a) ∈ r →
    ∃ lines, Script.readLines fs path = .ok lines ∧ IsArrayOf xs path lines a

theorem pairwise_keys_sortByPath {α : Type} {t : Table Text α} (ht : (Table.keys t).Nodup) :
    (Table.keys (sortByPath t)).Pairwise (· < ·) := by
  have hle : (Table.keys (sortByPath t)).Pairwise (fun a b => Text.le a b = true) :=
    List.pairwise_map.2 (pairwise_sortByPath t)
  exact List.Pairwise.imp₂ (fun a b hab hne => Std.lt_of_le_of_ne (of_decide_eq_true hab) hne) hle
    (nodup_keys_sortByPath ht)

theorem isReport_sortByPath (h : Handoff) (fs : FileSystem) (xs : List Counts.Hit) (found : List Text) :
    IsReport h fs xs found (sortByPath (h.rows fs (Counts.ofHits xs) found)) := by
  have hrows := nodup_rows h fs (Counts.nodup_files_ofHits xs) found
  have hget (path : Text) : Table.get? path (sortByPath (h.rows fs (Counts.ofHits xs) found)) =
      h.arrayOf? fs (Counts.ofHits xs) found path := by
    rw [get?_sortByPath hrows, get?_rows]
  refine ⟨pairwise_keys_sortByPath hrows, fun path => ?_, fun path a hmem => ?_⟩
  · have hreports : (h.reports fs (Counts.ofHits xs) path || found.elem path) = true ↔
        ((∃ x ∈ xs, x.path = path) ∧ isUnder h.root path = true ∧ fs.isFile path = true) ∨ path ∈ found := by
      simp [Handoff.reports, Counts.mem_files_ofHits, and_assoc]
    rw [← not_iff_not, ← Table.get?_eq_none_iff, hget, Handoff.arrayOf?, fileArray?_eq, ← hreports]
    cases Script.readLines fs path <;> simp [Except.toOption]
  · have harray := (Table.get?_eq_some_iff (nodup_keys_sortByPath hrows)).2 hmem
    rw [hget, Handoff.arrayOf?, fileArray?_eq, Option.ite_none_right_eq_some] at harray
    obtain ⟨-, harray⟩ := harray
    cases hlines : Script.readLines fs path with
    | error e => simp [hlines, Except.toOption] at harray
    | ok lines =>
      simp only [hlines, Except.toOption, Option.map_some, Option.some.injEq] at harray
      exact ⟨lines, rfl, harray ▸ isArrayOf_lineArray xs path lines⟩

/-- **The result of a run.** Whatever was hit, there is a result unless scripts are to be looked for and cannot
be, and it is the one described by `IsReport`: its files in ascending order, each with an array of the right
length and items. -/
theorem result_isReport (h : Handoff) (fs : FileSystem) (xs : List Counts.Hit) :
    match h.found fs with
    | .ok found => ∃ r, h.result fs (Counts.ofHits xs) = .ok r ∧ IsReport h fs xs found r
    | .error e => h.result fs (Counts.ofHits xs) = .error e := by
  rw [result_eq]
  cases h.found fs with
  | error e => rfl
  | ok found => exact ⟨_, rfl, isReport_sortByPath h fs xs found⟩

/-! ## Below the root -/

section
open ShellCoverage.Path

/-- **Below the root.** A path is the root or below it just if it is absolute and its names begin with those of the root.
A relative path has no common part with the root, and is not below it. What begins with the root's text and goes on
with more than a slash is not below it either, unless the root is the slash alone, and then each absolute path is. -/
theorem isUnder_iff_names {root : Text} (hroot : IsCanonical root) :
    (∀ path, isUnder root path = true ↔ isAbsolute path = true ∧ components root <+: components path) ∧
    (∀ path, commonText? root path = none ↔ isAbsolute path = false) ∧
    (∀ s, root ≠ [slash] → s ≠ [] → s.head? ≠ some slash → isUnder root (root ++ s) = false) ∧
    (root = [slash] → ∀ path, isUnder root path = isAbsolute path) := by
  obtain ⟨ts, hts, rfl⟩ := hroot
  have hparts (t : Text) (ht : t ∈ ts) : IsPart t := (hts t ht).1
  have hnames : components (FileSystem.absoluteText ts) = ts := FileSystem.components_absoluteText hparts
  have habs : isAbsolute (FileSystem.absoluteText ts) = true := rfl
  have hunder (path : Text) :
      isUnder (FileSystem.absoluteText ts) path = true ↔ isAbsolute path = true ∧ ts <+: components path := by
    unfold isUnder
    rw [decide_eq_true_iff, commonText?_eq_some_iff, habs, hnames]
    constructor
    · rintro ⟨hpath, hprefix, -⟩
      exact ⟨hpath.symm, hprefix⟩
    · rintro ⟨hpath, hprefix⟩
      exact ⟨hpath.symm, hprefix, rfl⟩
  refine ⟨fun path => ?_, fun path => ?_, fun s hroot hs hslash => ?_, fun hroot path => ?_⟩
  · rw [hunder, hnames]
  · rw [commonText?_eq_none_iff, habs]
    cases isAbsolute path <;> simp
  · have hne : ts ≠ [] := by
      rintro rfl
      exact hroot rfl
    rw [← Bool.not_eq_true, hunder]
    rintro ⟨-, hprefix⟩
    exact not_prefix_components_append hparts hne hs hslash hprefix
  · have hnil : ts = [] := by
      rw [← hnames, hroot]
      decide
    rw [Bool.eq_iff_iff, hunder, hnil]
    exact and_iff_left List.nil_prefix

/-- Below a root stand a path with more slashes and dots and its files, and beside it a path that goes on with a letter. -/
theorem isUnder_iff_names_project :
    IsCanonical "/a/p" ∧ isUnder "/a/p" "//a/./p//b/../" = true ∧ isUnder "/a/p" "/a/p2/b" = false ∧
      commonText? "/a/p" "a/p" = none := by
  have hroot : IsCanonical "/a/p" := ⟨["a", "p"], by decide, by decide⟩
  obtain ⟨hunder, hnone, hbeside, -⟩ := isUnder_iff_names hroot
  refine ⟨hroot, (hunder _).2 ⟨by decide, by decide⟩, ?_, (hnone _).2 (by decide)⟩
  exact hbeside "2/b" (by decide) (by decide) (by decide)

end

/-! ## Files outside the root -/

section
open ShellCoverage.Path
variable {fs : FileSystem} {h : Handoff} {root name : Text} {skips : Bool}

/-- The root of a handoff is canonical. -/
theorem isCanonical_root (hcwd : ∀ n ∈ fs.cwd, Node.isName n = true)
    (hh : Handoff.ofRoot fs root name skips = .ok h) : IsCanonical h.root := by
  obtain ⟨r, hr, rfl⟩ := Except.map_eq_ok_iff.1 hh
  exact FileSystem.isCanonical_of_canonical hcwd hr

/-- The root of a handoff is absolute, and has no `..`. -/
theorem root_of_ofRoot (hcwd : ∀ n ∈ fs.cwd, Node.isName n = true)
    (hh : Handoff.ofRoot fs root name skips = .ok h) :
    h.skipsUncovered = skips ∧ (ofText h.root).root ≠ .relative ∧ up ∉ components h.root := by
  obtain ⟨ts, hts, hroot⟩ := isCanonical_root hcwd hh
  obtain ⟨r, -, rfl⟩ := Except.map_eq_ok_iff.1 hh
  dsimp only at hroot ⊢
  refine ⟨rfl, ?_, fun hup => ?_⟩
  · rw [hroot]
    exact rootOf_slash_cons _
  · rw [hroot, FileSystem.components_absoluteText fun t ht => (hts t ht).1] at hup
    exact (hts up hup).2 rfl

/-- What is found without links is below the root. -/
theorem prefix_of_no_link (hfs : fs.tree.isWellNamed = true) {dir : Text} {q : Path} {t : Text}
    (habs : (ofText dir).root ≠ .relative) (hup : up ∉ components dir) (hq : Script.Finds fs dir q)
    (ht : fs.canonical q.toText = .ok t)
    (hlink : ∀ us, us <+: components q.toText → fs.linkAt? us = none) :
    components dir <+: components t := by
  obtain ⟨place, x, names, y, hlocate, hvisits, -, rfl, -⟩ := hq
  have hx := FileSystem.isWellNamed_of_nodeAt? hfs (FileSystem.nodeAt?_of_locate hfs hlocate)
  have hnames := hvisits.isName hx
  have hparts := FileSystem.isName_of_spells (.ofBytes names) hnames
  have hnormal := Script.isNormal_pathBelow dir hnames
  have hcomponents := components_toText hnormal
  have hnoup : up ∉ components (toText (Script.pathBelow (ofText dir) names)) := by
    rw [hcomponents, Script.pathBelow, List.mem_append, not_or]
    exact ⟨hup, fun hmem => (hparts up hmem).2.2.1 rfl⟩
  rw [FileSystem.canonical_eq_ok ht,
    FileSystem.canonicalNames_of_no_link ((isAbsolute_toText hnormal).2 habs) hnoup hlink,
    FileSystem.components_absoluteText fun t => isPart_of_mem_components, hcomponents]
  exact List.prefix_append _ _

/-- **Files outside the root.** A file outside the root is in the result just if scripts that never ran are
looked for, and one of those found below the root is, through a link, that file. -/
theorem mem_result_outside_iff (hfs : fs.tree.isWellNamed = true) (hcwd : ∀ n ∈ fs.cwd, Node.isName n = true)
    (hh : Handoff.ofRoot fs root name skips = .ok h) {xs : List Counts.Hit} {r : Result}
    (hr : h.result fs (Counts.ofHits xs) = .ok r) (path : Text) :
    path ∈ Table.keys r ∧ ¬ components h.root <+: components path ↔
      skips = false ∧ ¬ components h.root <+: components path ∧
        (∃ lines, Script.readLines fs path = .ok lines) ∧
        ∃ q, Script.Finds fs h.root q ∧ fs.canonical q.toText = .ok path ∧
          ∃ link target, link <+: components q.toText ∧ fs.linkAt? link = some target := by
  obtain ⟨rfl, habs, hup⟩ := root_of_ofRoot hcwd hh
  rw [result_eq] at hr
  obtain ⟨found, hfound, rfl⟩ := Except.map_eq_ok_iff.1 hr
  have hreport := isReport_sortByPath h fs xs found
  have hmem (hskips : h.skipsUncovered = false) :
      path ∈ found ↔ ∃ q, Script.Finds fs h.root q ∧ fs.canonical q.toText = .ok path := by
    rw [Handoff.found, hskips] at hfound
    exact Script.mem_discover hfound
  rw [hreport.mem_keys]
  constructor
  · rintro ⟨⟨hpath, hlines⟩, houtside⟩
    -- a file that ran is below the root
    have hpath : path ∈ found :=
      hpath.resolve_left fun hran => houtside (commonText?_eq_some_iff.1 (of_decide_eq_true hran.2.1)).2.1
    have hskips : h.skipsUncovered = false := by
      cases hskips : h.skipsUncovered with
      | false => rfl
      | true =>
        rw [Handoff.found, hskips] at hfound
        cases hfound
        cases hpath
    obtain ⟨q, hq, hcanonical⟩ := (hmem hskips).1 hpath
    refine ⟨hskips, houtside, hlines, q, hq, hcanonical, ?_⟩
    by_contra hlink
    refine houtside (prefix_of_no_link hfs habs hup hq hcanonical fun us hus => ?_)
    cases htarget : fs.linkAt? us with
    | none => rfl
    | some target => exact absurd ⟨us, target, hus, htarget⟩ hlink
  · rintro ⟨hskips, houtside, hlines, q, hq, hcanonical, -⟩
    exact ⟨⟨Or.inr ((hmem hskips).2 ⟨q, hq, hcanonical⟩), hlines⟩, houtside⟩


/-- A link below the root brings a file into the result that is not below it. -/
theorem result_outside_link :
    let fs : FileSystem := ⟨.directory 0o755
      [("o.sh", .file 0o644 "ls\n"), ("p", .directory 0o755 [("l.sh", .link "../o.sh")])], []⟩
    ∃ h r, Handoff.ofRoot fs "/p" "sh" false = .ok h ∧ h.result fs (Counts.ofHits []) = .ok r ∧
      ("/o.sh" : Text) ∈ Table.keys r ∧ ¬ components h.root <+: components "/o.sh" := by
  intro fs
  have hroot : Handoff.ofRoot fs "/p" "sh" false = .ok ⟨"/p", "sh", false⟩ := by cbv
  have hfound : Handoff.found ⟨"/p", "sh", false⟩ fs = .ok ["/o.sh"] := by cbv
  have hlines : Script.readLines fs "/o.sh" = .ok ["ls"] := by cbv
  have hreport := isReport_sortByPath ⟨"/p", "sh", false⟩ fs [] ["/o.sh"]
  refine ⟨_, _, hroot, by rw [result_eq, hfound]; rfl, ?_, by decide⟩
  exact (hreport.mem_keys "/o.sh").2 ⟨Or.inr (List.mem_singleton_self _), _, hlines⟩

/-- Of a link that stays below the root and one that leaves it, the second alone brings in a file outside. -/
theorem mem_result_outside_iff_twoLinks :
    let fs : FileSystem := ⟨.directory 0o755
      [("o.sh", .file 0o644 "ls\n"),
        ("p", .directory 0o755 [("a.sh", .file 0o644 "ls\n"), ("l.sh", .link "../o.sh")])], []⟩
    fs.tree.isWellNamed = true ∧ ∃ h r, Handoff.ofRoot fs "/p" "sh" false = .ok h ∧
      h.result fs (Counts.ofHits []) = .ok r ∧
      ∃ q, Script.Finds fs h.root q ∧ fs.canonical q.toText = .ok "/o.sh" ∧
        ∃ link target, link <+: components q.toText ∧ fs.linkAt? link = some target := by
  intro fs
  have hfs : fs.tree.isWellNamed = true := by decide +kernel
  have hcwd : ∀ n ∈ fs.cwd, Node.isName n = true := nofun
  have hroot : Handoff.ofRoot fs "/p" "sh" false = .ok ⟨"/p", "sh", false⟩ := by cbv
  have hfound : Handoff.found ⟨"/p", "sh", false⟩ fs = .ok ["/p/a.sh", "/o.sh"] := by cbv
  have hlines : Script.readLines fs "/o.sh" = .ok ["ls"] := by cbv
  have hresult := result_eq ⟨"/p", "sh", false⟩ fs (Counts.ofHits [])
  rw [hfound, Except.map] at hresult
  have hreport := isReport_sortByPath ⟨"/p", "sh", false⟩ fs [] ["/p/a.sh", "/o.sh"]
  have hmem := (hreport.mem_keys "/o.sh").2 ⟨Or.inr (by simp), _, hlines⟩
  have houtside := (mem_result_outside_iff hfs hcwd hroot hresult "/o.sh").1 ⟨hmem, by decide⟩
  exact ⟨hfs, _, _, hroot, hresult, houtside.2.2.2⟩

end

end Report

end ShellCoverage
