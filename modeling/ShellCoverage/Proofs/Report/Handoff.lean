import ShellCoverage.Proofs.Coverage.Counts
import ShellCoverage.Proofs.Report.Combine
import ShellCoverage.Proofs.Script.Numbering
import ShellCoverage.Report.Handoff

/-!
# Results of runs in parts

The result of a run gives each reported file an array that depends on the counts of the file's lines alone.
`result_append` says that nothing is lost where the hits of a run are counted in two parts: the sum of the two
results is the result of the whole.

* `lineItem`, `lineArray_toList` : the items of an array;
* `combineLists_lineArray` : the arrays of two parts add up to that of the whole;
* `arrayOf?`, `get?_rows` : which files have an array;
* `isSum_arrayOf?` : the files of two parts.
-/

namespace ShellCoverage.Report
open Json

/-! ## Arrays -/

/-- The item of a line that ran so often. -/
def lineItem (relevant : Bool) (n : Nat) : Value :=
  if n = 0 then if relevant then .int 0 else .null else .int n

/-- Items add up as the counts do. -/
theorem combineItems_lineItem (relevant : Bool) (m n : Nat) :
    combineItems (lineItem relevant m) (lineItem relevant n) = .ok (lineItem relevant (m + n)) := by
  have hzero (n : Nat) : (lineItem relevant n).orZero = .int n := by
    by_cases hn : n = 0
    · subst hn
      cases relevant <;> rfl
    · simp [lineItem, hn, Value.orZero, Value.isTrue]
  rw [combineItems, hzero, hzero]
  by_cases hm : m = 0 <;> by_cases hn : n = 0 <;> cases relevant <;>
    simp [lineItem, hm, hn, Value.isNull, Value.add, Value.number?]

section arrays
variable (lines : List Text)

/-- The item of a file's line by its index. -/
def itemAt (c : Counts) (path : Text) (i : Nat) : Value :=
  lineItem ((Script.relevance lines)[i]?.getD false) (c.hits path ((i : Int) + 1))

/-- The items of a file's lines, from the first to the last. -/
theorem lineArray_toList (c : Counts) (path : Text) (n : Int) :
    lineArray lines (c.toList path n) = (List.range (c.extent path n).toNat).map (itemAt lines c path) := by
  refine List.ext_getElem (by simp [lineArray, Counts.toList]) fun i hi _ => ?_
  simp only [lineArray, Counts.toList, List.getElem_map, List.getElem_zipIdx, List.getElem_range, itemAt,
    lineItem, Nat.zero_add]
  by_cases hzero : c.hits path ((i : Int) + 1) = 0
  · simp only [hzero, if_true]
  · simp only [hzero, if_false]

/-- After the end of an array there are nulls: there are no counts, and no lines that could be relevant. -/
theorem getD_lineArray (c : Counts) (path : Text) (i : Nat) :
    (lineArray lines (c.toList path lines.length))[i]?.getD .null = itemAt lines c path i := by
  rw [lineArray_toList, List.getElem?_map]
  by_cases hi : i < (c.extent path lines.length).toNat
  · rw [List.getElem?_range hi, Option.map_some, Option.getD_some]
  · have hlines := Counts.le_extent c path lines.length
    have hhits : c.hits path ((i : Int) + 1) = 0 := Counts.hits_of_extent_lt (n := lines.length) (by omega)
    have hflag : (Script.relevance lines)[i]? = none := by
      rw [List.getElem?_eq_none_iff, Script.relevance, Script.length_relevanceFrom]
      omega
    rw [List.getElem?_eq_none_iff.2 (by simpa using hi), itemAt, hhits, hflag]
    rfl

/-- The arrays of two parts add up to that of the whole. -/
theorem combineLists_lineArray (xs ys : List Counts.Hit) (path : Text) :
    combineLists (lineArray lines ((Counts.ofHits xs).toList path lines.length))
        (lineArray lines ((Counts.ofHits ys).toList path lines.length)) =
      .ok (lineArray lines ((Counts.ofHits (xs ++ ys)).toList path lines.length)) := by
  refine combineLists_eq_ok ?_ fun i hi => ?_
  · simp only [lineArray_toList, List.length_map, List.length_range, Counts.extent_ofHits_append]
    omega
  · have hitem : (lineArray lines ((Counts.ofHits (xs ++ ys)).toList path lines.length))[i] =
        itemAt lines (Counts.ofHits (xs ++ ys)) path i := by
      rw [← getD_lineArray, List.getElem?_eq_getElem hi, Option.getD_some]
    rw [getD_lineArray, getD_lineArray, hitem, itemAt, itemAt, itemAt, Counts.hits_ofHits_append,
      combineItems_lineItem]

end arrays

/-! ## Files -/

section files
variable (h : Handoff) (fs : FileSystem)

/-- The file ran, and is one to report. -/
def Handoff.reports (c : Counts) (path : Text) : Bool :=
  c.files.elem path && isUnder h.root path && fs.isFile path

/-- The scripts that are looked at whether they ran or not. -/
def Handoff.found : Except FileError (List Text) :=
  if h.skipsUncovered then .ok [] else Script.discover fs h.root

/-- The array of a file in the result, given the scripts that were found. -/
def Handoff.arrayOf? (c : Counts) (found : List Text) (path : Text) : Option LineArray :=
  if h.reports fs c path || found.elem path then (fileArray? fs c path).toOption else none

/-- The array of a file that ran, if it is one to report. -/
def Handoff.ranArray? (c : Counts) (path : Text) : Option LineArray :=
  if isUnder h.root path && fs.isFile path then (fileArray? fs c path).toOption else none

/-- The files that ran, with their arrays. -/
def Handoff.ranRows (c : Counts) : Result := (c.files.map (h.decide fs c)).filterMap Decision.row?

/-- The scripts that were found, with their arrays, but for those of `known`. -/
def foundRows (c : Counts) (known found : List Text) : Result :=
  (Handoff.decideFound fs c known found).filterMap Decision.row?

/-- All files that are reported, with their arrays. -/
def Handoff.rows (c : Counts) (found : List Text) : Result :=
  h.ranRows fs c ++ foundRows fs c (Table.keys (h.ranRows fs c)) found

theorem row?_decide (c : Counts) (path : Text) :
    (h.decide fs c path).row? = (h.ranArray? fs c path).map (path, ·) := by
  rw [Handoff.decide, Handoff.ranArray?]
  cases isUnder h.root path && fs.isFile path with
  | false => rfl
  | true =>
    cases fileArray? fs c path <;> rfl

theorem ranRows_eq (c : Counts) :
    h.ranRows fs c = c.files.filterMap fun path => (h.ranArray? fs c path).map (path, ·) := by
  rw [Handoff.ranRows, List.filterMap_map]
  exact List.filterMap_congr fun path _ => row?_decide h fs c path

theorem get?_ranRows (c : Counts) (path : Text) :
    Table.get? path (h.ranRows fs c) =
      if h.reports fs c path then (fileArray? fs c path).toOption else none := by
  rw [ranRows_eq, Table.get?_filterMap, Handoff.ranArray?, Handoff.reports, Bool.and_assoc]
  by_cases hmem : path ∈ c.files
  · simp [hmem]
  · simp [hmem]

theorem get?_foundRows (c : Counts) (known found : List Text) (path : Text) :
    Table.get? path (foundRows fs c known found) =
      if found.elem path && !known.elem path then (fileArray? fs c path).toOption else none := by
  induction found generalizing known with
  | nil => rfl
  | cons x found ih =>
    rw [foundRows, Handoff.decideFound]
    by_cases hknown : x ∈ known
    · rw [if_pos (by simpa using hknown), ← foundRows, ih]
      by_cases hx : path = x
      · subst hx
        simp [hknown]
      · simp [hx]
    · rw [if_neg (by simpa using hknown)]
      cases harray : fileArray? fs c x with
      | ok lines =>
        rw [List.filterMap_cons_some (f := Decision.row?) rfl, ← foundRows, Table.get?, ih]
        by_cases hx : x = path
        · subst hx
          simp [hknown, harray, Except.toOption]
        · simp [hx, Ne.symm hx]
      | error e =>
        rw [List.filterMap_cons_none (f := Decision.row?) rfl, ← foundRows, ih]
        by_cases hx : x = path
        · subst hx
          simp [harray, Except.toOption]
        · simp [Ne.symm hx]

theorem nodup_foundRows (c : Counts) (known found : List Text) :
    (Table.keys (foundRows fs c known found)).Nodup := by
  induction found generalizing known with
  | nil => exact List.nodup_nil
  | cons x found ih =>
    rw [foundRows, Handoff.decideFound]
    split
    · exact ih known
    · split
      · refine List.nodup_cons.2 ⟨?_, ih (x :: known)⟩
        rw [← foundRows, ← Table.keys, ← Table.get?_eq_none_iff, get?_foundRows]
        simp
      · exact ih known

theorem nodup_rows {c : Counts} (hc : c.files.Nodup) (found : List Text) :
    (Table.keys (h.rows fs c found)).Nodup := by
  rw [Handoff.rows, Table.keys_append]
  refine List.nodup_append'.2 ⟨?_, nodup_foundRows fs c _ found, fun path hran hfound => ?_⟩
  · rw [ranRows_eq]
    exact (Table.keys_filterMap_sublist _ c.files).nodup hc
  · refine (Table.get?_eq_none_iff.1 ?_) hfound
    rw [get?_foundRows, if_neg (by simp [hran])]

/-- A file has its array if it ran and is one to report, or is a script that was found. -/
theorem get?_rows (c : Counts) (found : List Text) (path : Text) :
    Table.get? path (h.rows fs c found) = h.arrayOf? fs c found path := by
  have hran := get?_ranRows h fs c path
  rw [Handoff.rows, Table.get?_append, get?_foundRows, Handoff.arrayOf?]
  cases hreports : h.reports fs c path with
  | false =>
    have hknown : path ∉ Table.keys (h.ranRows fs c) := by
      rw [← Table.get?_eq_none_iff, hran, hreports]
      rfl
    simp [hran, hreports, hknown]
  | true =>
    simp only [hran, hreports, if_true, Bool.true_or]
    cases (fileArray? fs c path).toOption with
    | some lines => rfl
    | none => simp

/-- The result has the files that are reported, in ascending order. -/
theorem result_eq (c : Counts) :
    h.result fs c = (h.found fs).map fun found => sortByPath (h.rows fs c found) := by
  have hknown : (c.files.map (h.decide fs c)).filterMap (fun d => d.row?.map (·.1)) =
      Table.keys (h.ranRows fs c) := by
    rw [Table.keys, Handoff.ranRows, List.map_filterMap]
  rw [Handoff.result, Handoff.decisions, Handoff.found, hknown]
  cases h.skipsUncovered with
  | true => simp [Except.map, Handoff.resultOf, Handoff.rows, foundRows, Handoff.decideFound, Handoff.ranRows]
  | false =>
    cases Script.discover fs h.root with
    | error e => rfl
    | ok found =>
      simp [Except.map, Handoff.resultOf, Handoff.rows, foundRows, Handoff.ranRows, bind, Except.bind, pure,
        Except.pure]

end files

/-! ## Parts of a run -/

section parts
variable (h : Handoff) (fs : FileSystem) (xs ys : List Counts.Hit)

theorem fileArray?_eq (c : Counts) (path : Text) :
    (fileArray? fs c path).toOption = (Script.readLines fs path).toOption.map fun lines =>
      lineArray lines (c.toList path lines.length) := by
  rw [fileArray?]
  cases Script.readLines fs path <;> rfl

theorem reports_append (path : Text) :
    h.reports fs (Counts.ofHits (xs ++ ys)) path =
      (h.reports fs (Counts.ofHits xs) path || h.reports fs (Counts.ofHits ys) path) := by
  have hmem : (Counts.ofHits (xs ++ ys)).files.elem path =
      ((Counts.ofHits xs).files.elem path || (Counts.ofHits ys).files.elem path) := by
    rw [Bool.eq_iff_iff, Bool.or_eq_true]
    simpa using Counts.mem_files_ofHits_append
  rw [Handoff.reports, Handoff.reports, Handoff.reports, hmem, Bool.and_or_distrib_right,
    Bool.and_or_distrib_right]

/-- A file that is reported for one part and not for the other ran in the first alone. -/
theorem notMem_files_of_reports {c c' : Counts} {path : Text} (hc : h.reports fs c path = true)
    (hc' : h.reports fs c' path = false) : path ∉ c'.files := by
  intro hmem
  simp only [Handoff.reports, Bool.and_eq_true] at hc
  rw [Handoff.reports, hc.1.2, hc.2, Bool.and_true, Bool.and_true] at hc'
  simp [hmem] at hc'

/-- Counts that agree on a file give it the same array. -/
theorem lineArray_congr (lines : List Text) {c c' : Counts} {path : Text} {n : Int}
    (hextent : c.extent path n = c'.extent path n) (hhits : ∀ line, c.hits path line = c'.hits path line) :
    lineArray lines (c.toList path n) = lineArray lines (c'.toList path n) := by
  rw [lineArray_toList, lineArray_toList, hextent]
  refine List.map_congr_left fun i _ => ?_
  rw [itemAt, itemAt, hhits]

/-- A part without hits in a file does not change its array. -/
theorem lineArray_append_left (lines : List Text) {path : Text} (hpath : path ∉ (Counts.ofHits ys).files) :
    lineArray lines ((Counts.ofHits (xs ++ ys)).toList path lines.length) =
      lineArray lines ((Counts.ofHits xs).toList path lines.length) := by
  refine lineArray_congr lines ?_ fun line => ?_
  · rw [Counts.extent_ofHits_append, Counts.extent_of_notMem_files hpath]
    exact Int.max_eq_left (Counts.le_extent _ _ _)
  · rw [Counts.hits_ofHits_append, Counts.hits_of_notMem_files hpath, Nat.add_zero]

theorem lineArray_append_right (lines : List Text) {path : Text} (hpath : path ∉ (Counts.ofHits xs).files) :
    lineArray lines ((Counts.ofHits (xs ++ ys)).toList path lines.length) =
      lineArray lines ((Counts.ofHits ys).toList path lines.length) := by
  refine lineArray_congr lines ?_ fun line => ?_
  · rw [Counts.extent_ofHits_append, Counts.extent_of_notMem_files hpath]
    exact Int.max_eq_right (Counts.le_extent _ _ _)
  · rw [Counts.hits_ofHits_append, Counts.hits_of_notMem_files hpath, Nat.zero_add]

/-- The files of two parts: what one part reports alone, the whole reports with the same array. -/
theorem isSum_arrayOf? (found : List Text) (path : Text) :
    IsSum (h.arrayOf? fs (Counts.ofHits xs) found path) (h.arrayOf? fs (Counts.ofHits ys) found path)
      (h.arrayOf? fs (Counts.ofHits (xs ++ ys)) found path) := by
  rw [Handoff.arrayOf?, Handoff.arrayOf?, Handoff.arrayOf?, reports_append, fileArray?_eq, fileArray?_eq,
    fileArray?_eq]
  cases (Script.readLines fs path).toOption with
  | none => simp [IsSum]
  | some lines =>
    cases found.elem path with
    | true =>
      simp only [Bool.or_true, if_true, Option.map_some]
      exact ⟨_, combineLists_lineArray lines xs ys path, rfl⟩
    | false =>
      cases hx : h.reports fs (Counts.ofHits xs) path with
      | false =>
        cases hy : h.reports fs (Counts.ofHits ys) path with
        | false => exact rfl
        | true =>
          simp only [Bool.or_false, Bool.or_true, Bool.false_eq_true, if_false, if_true, Option.map_some]
          exact congrArg some (lineArray_append_right xs ys lines (notMem_files_of_reports h fs hy hx))
      | true =>
        cases hy : h.reports fs (Counts.ofHits ys) path with
        | false =>
          simp only [Bool.or_false, Bool.false_eq_true, if_false, if_true, Option.map_some]
          exact congrArg some (lineArray_append_left xs ys lines (notMem_files_of_reports h fs hx hy))
        | true =>
          simp only [Bool.or_false, Bool.or_true, if_true, Option.map_some]
          exact ⟨_, combineLists_lineArray lines xs ys path, rfl⟩

/-- **A run in two parts has the same result.** Counting the hits of a run in two parts, and adding up the
results of both, gives the result of the whole run: the same files in the same order, with the same arrays.
Adding up never fails, and where no scripts can be looked for, both sides fail alike. -/
theorem result_append :
    (h.result fs (Counts.ofHits (xs ++ ys))).mapError Failure.file = (do
      let a ← (h.result fs (Counts.ofHits xs)).mapError Failure.file
      let b ← (h.result fs (Counts.ofHits ys)).mapError Failure.file
      (combineResults [a, b]).mapError Failure.data) := by
  have hrows (zs : List Counts.Hit) (found : List Text) :=
    nodup_rows h fs (Counts.nodup_files_ofHits zs) found
  rw [result_eq, result_eq, result_eq]
  cases h.found fs with
  | error e => rfl
  | ok found =>
    have hsum := combineResults_eq_ok (nodup_keys_sortByPath (hrows xs found))
      (nodup_keys_sortByPath (hrows ys found)) (hrows (xs ++ ys) found) fun path => by
        rw [get?_sortByPath (hrows xs found), get?_sortByPath (hrows ys found), get?_rows, get?_rows,
          get?_rows]
        exact isSum_arrayOf? h fs xs ys found path
    simp only [Except.map, Except.mapError, bind, Except.bind, hsum]

end parts

end ShellCoverage.Report
