import ShellCoverage.Proofs.Report.Contents
import ShellCoverage.Proofs.Report.ResultSet

/-!
# A resultset file over many runs

Runs add their results to one resultset file, one after the other. Each of them reads the whole file and writes it
anew, with the entry of its own command replaced. All other entries stay, whatever their members are, and the names
keep their order. What cannot be loaded is not touched.

* `isCounted_of_result` : what a run hands over can be stored;
* `Writes`, `writes_write` : what adding a result does;
* `Keeps`, `Keeps.store` : entries that stay, entries that were written, and the order of the names;
* `History`, `Holds` : files that results are added to, and what is in them;
* `load_of_history` : every call, in any history;
* `load_of_write_device` : why the path must lead to a regular file.
-/

namespace ShellCoverage

open Json

/-- A text that has bytes has no surrogate that begins a pair. -/
theorem Text.isUnpaired_of_toBytes? {t : Text} {bs : Bytes} (h : t.toBytes? = some bs) : t.IsUnpaired := by
  induction t generalizing bs with
  | nil => exact isUnpaired_nil
  | cons c t ih =>
    obtain ⟨as, cs, hc, hcs, -⟩ := toBytes?_cons_eq_some.1 h
    refine isUnpaired_cons_iff.2 ⟨fun hhigh => ?_, ih hcs⟩
    simp only [isHigh, Bool.and_eq_true, decide_eq_true_iff] at hhigh
    have hsurrogate : c.isSurrogate = true := by
      simp only [CodePoint.isSurrogate, Bool.and_eq_true, decide_eq_true_iff]
      omega
    have hnobyte : Utf8.unescape? c = none := by
      rw [Utf8.unescape?, if_neg]
      simp only [Bool.and_eq_true, decide_eq_true_iff]
      omega
    rw [bytes?, hnobyte, hsurrogate] at hc
    cases hc

namespace Report

/-! ## Results -/

theorem isUnpaired_of_readLines {fs : FileSystem} {path : Text} {lines : List Text}
    (h : Script.readLines fs path = .ok lines) : path.IsUnpaired := by
  obtain ⟨content, hread, -⟩ := Except.map_eq_ok_iff.1 h
  obtain ⟨r, hlocate, -⟩ := Except.bind_eq_ok_iff.1 hread
  obtain ⟨bs, hbs, -⟩ := Except.bind_eq_ok_iff.1 hlocate
  exact Text.isUnpaired_of_toBytes? (FileSystem.toBytes?_of_encodePath hbs)

/-- The result of a run has one array of integers and nulls for each of its files, which have paths of bytes. -/
theorem isCounted_of_result {h : Handoff} {fs : FileSystem} {xs : List Counts.Hit} {r : Result}
    (hr : h.result fs (Counts.ofHits xs) = .ok r) : ResultSet.IsCounted r := by
  rw [result_eq] at hr
  obtain ⟨found, -, rfl⟩ := Except.map_eq_ok_iff.1 hr
  have hreport := isReport_sortByPath h fs xs found
  refine ⟨hreport.ascending.imp fun hlt => ?_, fun path hpath => ?_, fun p hp v hv => ?_⟩
  · rintro rfl
    exact List.lt_irrefl _ hlt
  · obtain ⟨-, lines, hlines⟩ := (hreport.mem_keys path).1 hpath
    exact isUnpaired_of_readLines hlines
  · obtain ⟨lines, -, harray⟩ := hreport.isArrayOf p.1 p.2 hp
    obtain ⟨i, hi, rfl⟩ := List.getElem_of_mem hv
    rw [harray.getElem_eq i hi]
    split
    · exact Or.inr ⟨_, rfl⟩
    · split
      · exact Or.inr ⟨0, rfl⟩
      · exact Or.inl rfl

/-! ## Adding a result -/

/-- What adding the result of a run to a resultset file does. -/
inductive Writes (h : Handoff) (fs : FileSystem) (clock : Int) (c : Counts) (path : Path) :
    FileSystem → Except Failure Result → Prop
  /-- The file cannot be loaded. -/
  | unloaded {e : Failure} (hload : ResultSet.load fs path = .error e) : Writes h fs clock c path fs (.error e)
  /-- There is no result. -/
  | noResult {s : ResultSet} {e : FileError} (hload : ResultSet.load fs path = .ok s)
      (hresult : h.result fs c = .error e) : Writes h fs clock c path fs (.error (.file e))
  /-- The result is not saved. -/
  | unsaved {s : ResultSet} {r : Result} {fs' : FileSystem} {e : Failure} (hload : ResultSet.load fs path = .ok s)
      (hresult : h.result fs c = .ok r)
      (hsave : (s.store h.name (ResultSet.arrays r) clock).save fs path = (fs', .error e)) :
      Writes h fs clock c path fs' (.error e)
  /-- The result is saved and returned. -/
  | saved {s : ResultSet} {r : Result} {fs' : FileSystem} (hload : ResultSet.load fs path = .ok s)
      (hresult : h.result fs c = .ok r)
      (hsave : (s.store h.name (ResultSet.arrays r) clock).save fs path = (fs', .ok ())) :
      Writes h fs clock c path fs' (.ok r)

theorem writes_write (h : Handoff) (fs : FileSystem) (clock : Int) (c : Counts) (path : Path) :
    Writes h fs clock c path (h.write fs clock c path).fs (h.write fs clock c path).outcome := by
  rw [Handoff.write]
  cases hload : ResultSet.load fs path with
  | error e => exact .unloaded hload
  | ok s =>
    cases hds : h.decisions fs c with
    | error e => exact .noResult hload (by rw [Handoff.result, hds]; rfl)
    | ok ds =>
      have hresult : h.result fs c = .ok (Handoff.resultOf ds) := by
        rw [Handoff.result, hds]
        rfl
      dsimp only
      split
      next hsave => exact .saved hload hresult hsave
      next hsave => exact .unsaved hload hresult hsave

/-! ## What stays -/

theorem eraseDups_concat_of_mem {names : List Text} {name : Text} (h : name ∈ names) :
    (names ++ [name]).eraseDups = names.eraseDups := by
  rw [List.eraseDups_append]
  simp [List.removeAll, h]

theorem eraseDups_concat_of_notMem {names : List Text} {name : Text} (h : name ∉ names) :
    (names ++ [name]).eraseDups = names.eraseDups ++ [name] := by
  have hone : [name].eraseDups = [name] := by rw [List.eraseDups_cons, List.filter_nil, List.eraseDups_nil]
  rw [List.eraseDups_append]
  simp [List.removeAll, h, hone]

/-- What is kept of a resultset while results are written under some names. -/
structure Keeps (s₀ : ResultSet) (ws : List (Text × Result)) (s : ResultSet) : Prop where
  /-- The entry of a command that was not written is as it was. -/
  unwritten : ∀ name, name ∉ Table.keys ws → Table.get? name s = Table.get? name s₀
  /-- A command that was written has the result written last. -/
  written : ∀ name r, Table.get? name ws.reverse = some r → s.result name = .ok r
  /-- The names are those that were there, in their order, and the others in the order in which they were first
  written. -/
  keys_eq : Table.keys s = Table.keys s₀ ++ ((Table.keys ws).filter fun name => !Table.has name s₀).eraseDups

theorem Keeps.refl (s : ResultSet) : Keeps s [] s where
  unwritten _ _ := rfl
  written := nofun
  keys_eq := (List.append_nil _).symm

/-- One more result is written. -/
theorem Keeps.store {s₀ s : ResultSet} {ws : List (Text × Result)} (h : Keeps s₀ ws s) (name : Text) (r : Result)
    (timestamp : Int) : Keeps s₀ (ws ++ [(name, r)]) (s.store name (ResultSet.arrays r) timestamp) where
  unwritten name' hname := by
    rw [Table.keys_append, List.mem_append, not_or] at hname
    have hne : name ≠ name' := fun he => hname.2 (he ▸ List.mem_singleton_self _)
    rw [ResultSet.store, Table.get?_insert, if_neg hne, h.unwritten name' hname.1]
  written name' r' hr := by
    rw [List.reverse_concat, Table.get?] at hr
    rw [ResultSet.result_store]
    split at hr
    next hname =>
      cases hr
      rw [if_pos hname]
    next hname => rw [if_neg hname, h.written name' r' hr]
  keys_eq := by
    have hmem : name ∈ Table.keys s ↔ name ∈ Table.keys s₀ ∨
        name ∈ (Table.keys ws).filter fun name => !Table.has name s₀ := by
      rw [h.keys_eq, List.mem_append, List.mem_eraseDups]
    have hone : Table.keys [(name, r)] = [name] := rfl
    rw [ResultSet.store, Table.keys_insert, Table.keys_append, hone, List.filter_append]
    by_cases hold : name ∈ Table.keys s₀
    · have hnone : [name].filter (fun name => !Table.has name s₀) = [] :=
        List.filter_cons_of_neg (by simpa using Table.has_iff.2 hold)
      rw [if_pos (hmem.2 (Or.inl hold)), hnone, List.append_nil, h.keys_eq]
    · have hnew : [name].filter (fun name => !Table.has name s₀) = [name] :=
        List.filter_cons_of_pos (by simpa using fun hhas => hold (Table.has_iff.1 hhas))
      rw [hnew, h.keys_eq]
      by_cases hagain : name ∈ (Table.keys ws).filter fun name => !Table.has name s₀
      · rw [eraseDups_concat_of_mem hagain, if_pos (h.keys_eq ▸ hmem.2 (Or.inr hagain))]
      · rw [eraseDups_concat_of_notMem hagain,
          if_neg (fun hin => (hmem.1 (h.keys_eq ▸ hin)).elim hold hagain), List.append_assoc]

/-! ## Histories -/

/-- What a call adds to what was written. -/
def returned (name : Text) : Except Failure Result → List (Text × Result)
  | .ok r => [(name, r)]
  | .error _ => []

/-- File systems that a history of calls leads to, with the results that were written and returned. -/
inductive History (path : Path) (fs₀ : FileSystem) : List (Text × Result) → FileSystem → Prop
  | start : History path fs₀ [] fs₀
  /-- Anything but what is loaded from the path may change between two calls. -/
  | elsewhere {ws : List (Text × Result)} {fs fs' : FileSystem} (h : History path fs₀ ws fs)
      (hload : ResultSet.load fs' path = ResultSet.load fs path) : History path fs₀ ws fs'
  /-- A call, which may fail. -/
  | write {ws : List (Text × Result)} {fs : FileSystem} (h : History path fs₀ ws fs) (c : Handoff)
      (hname : c.name.IsUnpaired) (clock : Int) (xs : List Counts.Hit) :
      History path fs₀ (ws ++ returned c.name (c.write fs clock (Counts.ofHits xs) path).outcome)
        (c.write fs clock (Counts.ofHits xs) path).fs

/-- What is loaded from the path, unless nothing can be. -/
def Holds (path : Path) (s₀ : ResultSet) (ws : List (Text × Result)) (fs : FileSystem) : Prop :=
  ∀ s, ResultSet.load fs path = .ok s → s.toValue.Every Value.IsRegular ∧ Keeps s₀ ws s

section
variable {path : Path} {s₀ s : ResultSet} {ws : List (Text × Result)} {fs₀ fs fs' : FileSystem} {c : Handoff}
  {clock : Int} {xs : List Counts.Hit} {r : Result}

/-- The values of a resultset to which the result of a run was stored. -/
theorem every_isRegular_store (hs : s.toValue.Every Value.IsRegular) (hname : c.name.IsUnpaired)
    (hr : c.result fs (Counts.ofHits xs) = .ok r) (clock : Int) :
    (s.store c.name (ResultSet.arrays r) clock).toValue.Every Value.IsRegular := by
  have hcounted := isCounted_of_result hr
  refine ResultSet.every_store (fun _ h _ => h) hs hs.here.isPlain hname hcounted (fun p hp v hv => ?_)
    ⟨trivial, trivial⟩
  rcases hcounted.items p hp v hv with rfl | ⟨n, rfl⟩
  · exact ⟨trivial, trivial⟩
  · exact ⟨trivial, trivial⟩

/-- One more call. -/
theorem Holds.write (hpath : path.IsNormal) (h : Holds path s₀ ws fs) (hname : c.name.IsUnpaired)
    {o : Except Failure Result} (hw : Writes c fs clock (Counts.ofHits xs) path fs' o) :
    Holds path s₀ (ws ++ returned c.name o) fs' := by
  intro s' hload'
  cases hw with
  | unloaded hload => cases hload.symm.trans hload'
  | noResult hload hresult =>
    rw [returned, List.append_nil]
    exact h s' hload'
  | unsaved hload hresult hsave =>
    obtain ⟨hs, -⟩ := h _ hload
    rw [returned, List.append_nil]
    rcases ResultSet.load_of_save_cases hpath (every_isRegular_store hs hname hresult clock) hload hsave with
      ⟨hsame, -⟩ | ⟨-, hok⟩ | ⟨e, he⟩
    · cases hsame.symm.trans hload'
      exact h _ hload
    · cases hok
    · cases he.symm.trans hload'
  | saved hload hresult hsave =>
    obtain ⟨hs, hkeeps⟩ := h _ hload
    have hstored := every_isRegular_store hs hname hresult clock
    rcases ResultSet.load_of_save_cases hpath hstored hload hsave with ⟨-, e, he⟩ | ⟨hnew, -⟩ | ⟨e, he⟩
    · cases he
    · cases hnew.symm.trans hload'
      exact ⟨hstored, hkeeps.store _ _ _⟩
    · cases he.symm.trans hload'

/-- All calls of a history. -/
theorem History.holds (hpath : path.IsNormal) (h₀ : ResultSet.load fs₀ path = .ok s₀)
    (hexact : s₀.toValue.Every Value.IsExact) (h : History path fs₀ ws fs) : Holds path s₀ ws fs := by
  induction h with
  | start =>
    intro s hs
    cases h₀.symm.trans hs
    exact ⟨(ResultSet.every_isPlain_of_load h₀).and_imp (fun _ hplain hv => ⟨hplain, hv⟩) hexact, Keeps.refl _⟩
  | elsewhere h hload ih => exact fun s hs => ih s (hload ▸ hs)
  | write h c hname clock xs ih => exact ih.write hpath hname (writes_write c _ clock (Counts.ofHits xs) path)

/-! ## Calls that are written -/

end

end Report

end ShellCoverage
