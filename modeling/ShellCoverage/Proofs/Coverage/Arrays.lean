import ShellCoverage.Proofs.Coverage.Counts

/-!
# What is recorded, and arrays of it

A hit makes an entry for its line, and for its file, even if it counts nothing. So an entry can have the count 0: for
a line that was hit, but only with the count 0. Where this does not happen, counts are given by their positive values,
and for lines that are numbered from 1 these can be read back from the arrays.

* `hits_ofHits_pos_iff` : the lines that some hit counts for;
* `IsPositive`, `isPositive_ofHits_iff`, `entries_ofHits` : where all entries are positive;
* `hit_zero_has_entry` : an entry that is not;
* `IsPositive.sameEntries` : positive entries are given by their counts;
* `hits_eq_getD_toList`, `hits_eq_get?_arrays` : the count of a line, read from an array;
* `hits_ofHits_filter`, `toList_ofHits_filter` : lines below 1 do not matter to arrays;
* `arrays_of_hits` : what arrays hold, and that they lose nothing.
-/

namespace ShellCoverage.Counts

/-! ## Positive entries -/

/-- Every entry has a positive count, and the files with entries are those with a positive count of some line. -/
structure IsPositive (c : Counts) : Prop where
  lines : ∀ path, ∀ e ∈ c.lines path, 0 < e.2
  files : ∀ path, c.has path = true ↔ ∃ line, 0 < c.hits path line

/-- A line with an entry has its count there. -/
theorem mem_lines_of_mem_keys {c : Counts} {path : Text} {line : Int} (h : line ∈ Table.keys (c.lines path)) :
    (line, c.hits path line) ∈ c.lines path := by
  have hne : Table.get? line (c.lines path) ≠ none := fun hnone => Table.get?_eq_none_iff.1 hnone h
  obtain ⟨n, hn⟩ := Option.ne_none_iff_exists'.1 hne
  rw [hits, hn]
  exact Table.mem_of_get? hn

theorem eq_hits_of_mem_lines {c : Counts} (hc : c.IsProper) {path : Text} {e : Int × Nat}
    (he : e ∈ c.lines path) : e.2 = c.hits path e.1 := by
  have hget : Table.get? e.1 (c.lines path) = some e.2 := (Table.get?_eq_some_iff (hc.lines path)).2 he
  rw [hits, hget, Option.getD_some]

section
variable {xs : List Hit} {path : Text} {line : Int}

/-- A line has a positive count if some hit counts for it. -/
theorem hits_ofHits_pos_iff :
    0 < (ofHits xs).hits path line ↔ ∃ x ∈ xs, x.path = path ∧ x.line = line ∧ 0 < x.count := by
  rw [hits_ofHits_eq_sum]
  induction xs with
  | nil => simp
  | cons x xs ih =>
    have hfirst : 0 < (if x.path = path ∧ x.line = line then x.count else 0) ↔
        x.path = path ∧ x.line = line ∧ 0 < x.count := by
      by_cases hx : x.path = path ∧ x.line = line
      · rw [if_pos hx, ← and_assoc, and_iff_right hx]
      · rw [if_neg hx, ← and_assoc]
        exact iff_of_false (Nat.lt_irrefl 0) fun h => hx h.1
    rw [List.map_cons, List.sum_cons, Nat.add_pos_iff_pos_or_pos, hfirst, List.exists_mem_cons_iff]
    exact or_congr_right ih

theorem pos_lines_ofHits_iff :
    (∀ path, ∀ e ∈ (ofHits xs).lines path, 0 < e.2) ↔
      ∀ x ∈ xs, ∃ y ∈ xs, y.path = x.path ∧ y.line = x.line ∧ 0 < y.count := by
  constructor
  · intro h x hx
    have hkey : x.line ∈ Table.keys ((ofHits xs).lines x.path) := mem_keys_lines_ofHits.2 ⟨x, hx, rfl, rfl⟩
    have hpos : 0 < (ofHits xs).hits x.path x.line := h x.path _ (mem_lines_of_mem_keys hkey)
    exact hits_ofHits_pos_iff.1 hpos
  · intro h path e he
    have hkey : e.1 ∈ Table.keys ((ofHits xs).lines path) := List.mem_map_of_mem he
    obtain ⟨x, hx, rfl, hline⟩ := mem_keys_lines_ofHits.1 hkey
    have hpos := hits_ofHits_pos_iff.2 (h x hx)
    rwa [hline, ← eq_hits_of_mem_lines (isProper_ofHits xs) he] at hpos

theorem pos_files_ofHits_iff :
    (∀ path, (ofHits xs).has path = true ↔ ∃ line, 0 < (ofHits xs).hits path line) ↔
      ∀ x ∈ xs, ∃ y ∈ xs, y.path = x.path ∧ 0 < y.count := by
  have hhas (path : Text) : (ofHits xs).has path = true ↔ ∃ x ∈ xs, x.path = path := by
    rw [has_iff, ← mem_files, mem_files_ofHits]
  have hcount (path : Text) :
      (∃ line, 0 < (ofHits xs).hits path line) ↔ ∃ y ∈ xs, y.path = path ∧ 0 < y.count := by
    constructor
    · rintro ⟨line, hline⟩
      obtain ⟨y, hy, hpath, -, hpos⟩ := hits_ofHits_pos_iff.1 hline
      exact ⟨y, hy, hpath, hpos⟩
    · rintro ⟨y, hy, hpath, hpos⟩
      exact ⟨y.line, hits_ofHits_pos_iff.2 ⟨y, hy, hpath, rfl, hpos⟩⟩
  simp only [hhas, hcount]
  constructor
  · intro h x hx
    exact (h x.path).1 ⟨x, hx, rfl⟩
  · intro h path
    constructor
    · rintro ⟨x, hx, rfl⟩
      exact h x hx
    · rintro ⟨y, hy, hpath, -⟩
      exact ⟨y, hy, hpath⟩

/-- All entries are positive if every line that was hit was hit with a positive count. -/
theorem isPositive_ofHits_iff :
    (ofHits xs).IsPositive ↔ ∀ x ∈ xs, ∃ y ∈ xs, y.path = x.path ∧ y.line = x.line ∧ 0 < y.count := by
  constructor
  · intro h
    exact pos_lines_ofHits_iff.1 h.lines
  · intro h
    refine ⟨pos_lines_ofHits_iff.2 h, pos_files_ofHits_iff.2 fun x hx => ?_⟩
    obtain ⟨y, hy, hpath, -, hpos⟩ := h x hx
    exact ⟨y, hy, hpath, hpos⟩

end

/-- **What is recorded.** The entries are those of the lines that were hit, with whatever count. So all of them are
positive just if each line that was hit was hit with a positive count at some time; and each file with entries has a
positive count just if each file that was hit was. -/
theorem entries_ofHits (xs : List Hit) :
    (∀ path (e : Int × Nat), e ∈ (ofHits xs).lines path ↔
      (∃ x ∈ xs, x.path = path ∧ x.line = e.1) ∧ e.2 = (ofHits xs).hits path e.1) ∧
    ((∀ path, ∀ e ∈ (ofHits xs).lines path, 0 < e.2) ↔
      ∀ x ∈ xs, ∃ y ∈ xs, y.path = x.path ∧ y.line = x.line ∧ 0 < y.count) ∧
    ((∀ path, (ofHits xs).has path = true ↔ ∃ line, 0 < (ofHits xs).hits path line) ↔
      ∀ x ∈ xs, ∃ y ∈ xs, y.path = x.path ∧ 0 < y.count) := by
  refine ⟨fun path e => ?_, pos_lines_ofHits_iff, pos_files_ofHits_iff⟩
  constructor
  · intro he
    have hkey : e.1 ∈ Table.keys ((ofHits xs).lines path) := List.mem_map_of_mem he
    exact ⟨mem_keys_lines_ofHits.1 hkey, eq_hits_of_mem_lines (isProper_ofHits xs) he⟩
  · rintro ⟨hhit, hcount⟩
    have hmem := mem_lines_of_mem_keys (mem_keys_lines_ofHits.2 hhit)
    rwa [← hcount] at hmem

/-- A hit that counts nothing is accepted, and makes an entry. -/
theorem hit_zero_has_entry :
    let path : Text := "/a.sh"
    ∃ c, ({} : Counts).hit path 1 0 = some c ∧ (1, 0) ∈ c.lines path ∧ c.has path = true ∧
      ¬ ((∀ e ∈ c.lines path, 0 < e.2) ∧ (c.has path = true ↔ ∃ line, 0 < c.hits path line)) := by
  intro path
  refine ⟨({} : Counts).add path 1 0, rfl, List.mem_singleton.2 rfl, rfl, fun h => ?_⟩
  exact Nat.lt_irrefl 0 (h.1 (1, 0) (List.mem_singleton.2 rfl))

/-! ## Arrays -/

theorem IsPositive.mem_keys_lines {c : Counts} (hc : c.IsPositive) {path : Text} {line : Int} :
    line ∈ Table.keys (c.lines path) ↔ 0 < c.hits path line := by
  constructor
  · intro hkey
    exact hc.lines path _ (mem_lines_of_mem_keys hkey)
  · intro hpos
    by_contra hkey
    rw [hits_of_notMem hkey] at hpos
    exact Nat.lt_irrefl 0 hpos

/-- Positive entries are given by their counts. -/
theorem IsPositive.sameEntries {c c' : Counts} (hc : c.IsPositive) (hc' : c'.IsPositive)
    (h : ∀ path line, c.hits path line = c'.hits path line) : c.SameEntries c' := by
  refine ⟨fun path => ?_, fun path line => ?_, h⟩
  · rw [← has_iff, ← has_iff, hc.files, hc'.files]
    simp only [h]
  · rw [hc.mem_keys_lines, hc'.mem_keys_lines, h]

theorem hits_eq_getD_toList (c : Counts) (path : Text) (n : Int) (i : Nat) :
    c.hits path (i + 1) = ((c.toList path n)[i]?.join).getD 0 := by
  rw [getElem?_toList]
  by_cases hi : i < (c.extent path n).toNat
  · by_cases hpos : 0 < c.hits path (i + 1)
    · simp [hi, hpos]
    · simp only [hi, hpos, if_true, if_false, Option.join_some, Option.getD_none]
      omega
  · have hbeyond : c.extent path n < (i : Int) + 1 := by omega
    rw [if_neg hi, hits_of_extent_lt hbeyond]
    rfl

/-- Arrays are given by the counts of the lines from 1 and by how far these go. -/
theorem toList_congr {c c' : Counts} {path : Text} {n : Int}
    (hextent : ∀ m : Nat, c.extent path n ≤ m ↔ c'.extent path n ≤ m)
    (hhits : ∀ i : Nat, c.hits path (i + 1) = c'.hits path (i + 1)) : c.toList path n = c'.toList path n := by
  have hlength : (c.extent path n).toNat = (c'.extent path n).toNat := by
    have hle := (hextent (c'.extent path n).toNat).2 (Int.self_le_toNat _)
    have hge := (hextent (c.extent path n).toNat).1 (Int.self_le_toNat _)
    omega
  refine List.ext_getElem? fun i => ?_
  rw [getElem?_toList, getElem?_toList, hlength, hhits]

/-- The count of a line depends on the hits of that line only. -/
theorem hits_ofHits_filter {p : Hit → Bool} {xs : List Hit} {path : Text} {line : Int}
    (hp : ∀ x ∈ xs, x.path = path → x.line = line → p x = true) :
    (ofHits (xs.filter p)).hits path line = (ofHits xs).hits path line := by
  rw [hits_ofHits_eq_sum, hits_ofHits_eq_sum]
  induction xs with
  | nil => rfl
  | cons x xs ih =>
    obtain ⟨hx, hxs⟩ := List.forall_mem_cons.1 hp
    rw [List.map_cons, List.sum_cons, ← ih hxs]
    by_cases hkeep : p x = true
    · rw [List.filter_cons_of_pos hkeep, List.map_cons, List.sum_cons]
    · have hother : ¬ (x.path = path ∧ x.line = line) := fun h => hkeep (hx h.1 h.2)
      rw [List.filter_cons_of_neg hkeep, if_neg hother, Nat.zero_add]

/-- Lines below 1 do not matter to arrays. -/
theorem toList_ofHits_filter (xs : List Hit) (path : Text) (n : Int) :
    (ofHits (xs.filter fun x => 1 ≤ x.line)).toList path n = (ofHits xs).toList path n := by
  refine toList_congr (fun m => ?_) fun i => ?_
  · rw [extent_le_iff, extent_le_iff]
    refine and_congr_right fun _ => ?_
    simp only [mem_keys_lines_ofHits, List.mem_filter, decide_eq_true_eq]
    constructor
    · rintro h line ⟨x, hx, hpath, rfl⟩
      by_cases hreal : 1 ≤ x.line
      · exact h x.line ⟨x, ⟨hx, hreal⟩, hpath, rfl⟩
      · omega
    · rintro h line ⟨x, ⟨hx, -⟩, hpath, rfl⟩
      exact h x.line ⟨x, hx, hpath, rfl⟩
  · refine hits_ofHits_filter fun x _ _ hline => decide_eq_true ?_
    omega

theorem keys_arrays (c : Counts) : Table.keys c.arrays = c.files := by
  rw [Table.keys, arrays, List.map_map]
  exact List.map_id _

theorem get?_arrays {c : Counts} {path : Text} (h : path ∈ c.files) :
    Table.get? path c.arrays = some (c.toList path 0) := by
  have hrows : c.arrays = c.files.filterMap fun p => (some (c.toList p 0)).map (p, ·) := by
    rw [arrays, ← List.filterMap_eq_map]
    rfl
  rw [hrows]
  exact (Table.get?_filterMap (fun p => some (c.toList p 0)) c.files path).trans (if_pos h)

/-- The counts of lines from 1 can be read from the arrays of all files. -/
theorem hits_eq_get?_arrays (c : Counts) (path : Text) (i : Nat) :
    c.hits path (i + 1) = ((Table.get? path c.arrays).bind fun items => items[i]?.join).getD 0 := by
  by_cases hfile : path ∈ c.files
  · rw [get?_arrays hfile, Option.bind_some, hits_eq_getD_toList c path 0]
  · have hnone : Table.get? path c.arrays = none :=
      Table.get?_eq_none_iff.2 (by rwa [keys_arrays])
    rw [hnone, hits_of_notMem_files hfile]
    rfl

/-- The hit counts something, for a line that is numbered from 1. -/
def Hit.IsReal (x : Hit) : Prop := 1 ≤ x.line ∧ 0 < x.count

section
variable {xs ys : List Hit}

theorem isPositive_of_isReal (hxs : ∀ x ∈ xs, x.IsReal) : (ofHits xs).IsPositive :=
  isPositive_ofHits_iff.2 fun x hx => ⟨x, hx, rfl, rfl, (hxs x hx).2⟩

theorem hits_of_isReal (hxs : ∀ x ∈ xs, x.IsReal) (path : Text) {line : Int} (hline : line < 1) :
    (ofHits xs).hits path line = 0 := by
  refine hits_of_notMem fun hkey => ?_
  obtain ⟨x, hx, -, rfl⟩ := mem_keys_lines_ofHits.1 hkey
  have hreal := (hxs x hx).1
  omega

/-- Arrays lose no count of a hit that counts something. -/
theorem arrays_eq_iff (hxs : ∀ x ∈ xs, x.IsReal) (hys : ∀ y ∈ ys, y.IsReal) :
    (ofHits xs).arrays = (ofHits ys).arrays ↔
      ∀ path line, (ofHits xs).hits path line = (ofHits ys).hits path line := by
  constructor
  · intro h path line
    by_cases hline : line < 1
    · rw [hits_of_isReal hxs path hline, hits_of_isReal hys path hline]
    · obtain ⟨i, rfl⟩ : ∃ i : Nat, line = i + 1 := ⟨(line - 1).toNat, by omega⟩
      rw [hits_eq_get?_arrays, hits_eq_get?_arrays, h]
  · intro h
    have hsame := (isPositive_of_isReal hxs).sameEntries (isPositive_of_isReal hys) h
    exact hsame.arrays_eq (isProper_ofHits xs) (isProper_ofHits ys)

end

/-- **Arrays lose no hit of a line.** An array goes as far as is asked and as the lines that were hit, and has the
positive counts at their indices. There is one for each file with entries, in ascending order. Hits that count
something, of lines that are numbered from 1, can be told apart by the arrays just if they can by the counts. Hits of
lines below 1 leave arrays as they are. -/
theorem arrays_of_hits :
    (∀ (xs : List Hit) (path : Text) (n : Nat),
      (((ofHits xs).toList path n).length : Int) = ((xs.filter (·.path = path)).map (·.line)).foldl max (n : Int) ∧
        ∀ i < ((ofHits xs).toList path n).length, ((ofHits xs).toList path n)[i]? =
          some (if 0 < (ofHits xs).hits path (i + 1) then some ((ofHits xs).hits path (i + 1)) else none)) ∧
    (∀ xs : List Hit, Table.keys (ofHits xs).arrays = (ofHits xs).files ∧ (ofHits xs).files.Pairwise (· < ·) ∧
      (∀ path, path ∈ (ofHits xs).files ↔ (ofHits xs).has path = true) ∧
        ∀ row ∈ (ofHits xs).arrays, row.2 = (ofHits xs).toList row.1 0) ∧
    (∀ xs ys : List Hit, (∀ x ∈ xs, x.IsReal) → (∀ y ∈ ys, y.IsReal) →
      ((ofHits xs).arrays = (ofHits ys).arrays ↔
        ∀ path line, (ofHits xs).hits path line = (ofHits ys).hits path line)) ∧
    ∀ (xs : List Hit) (path : Text) (n : Int),
      (ofHits (xs.filter fun x => 1 ≤ x.line)).toList path n = (ofHits xs).toList path n := by
  refine ⟨fun xs path n => ⟨?_, fun i hi => ?_⟩, fun xs => ⟨?_, ?_, fun path => ?_, fun row hrow => ?_⟩,
    fun xs ys => arrays_eq_iff, toList_ofHits_filter⟩
  · have hlong := le_extent (ofHits xs) path n
    rw [length_toList, ← extent_ofHits]
    omega
  · rw [length_toList] at hi
    rw [getElem?_toList, if_pos hi]
  · exact keys_arrays _
  · exact pairwise_files (isProper_ofHits xs).files
  · rw [mem_files, has_iff]
  · obtain ⟨path, -, rfl⟩ := List.mem_map.1 hrow
    rfl

theorem arrays_of_hits_regrouped :
    let a : Text := "/a.sh"
    let b : Text := "/b.sh"
    let xs : List Hit := [⟨a, 3, 1⟩, ⟨b, 1, 2⟩, ⟨a, 3, 1⟩]
    let ys : List Hit := [⟨b, 1, 2⟩, ⟨a, 3, 2⟩]
    (∀ x ∈ xs, x.IsReal) ∧ (∀ y ∈ ys, y.IsReal) ∧ (ofHits xs).arrays = (ofHits ys).arrays := by
  intro a b xs ys
  have hxs : ∀ x ∈ xs, x.IsReal := by simp [xs, Hit.IsReal]
  have hys : ∀ y ∈ ys, y.IsReal := by simp [ys, Hit.IsReal]
  refine ⟨hxs, hys, (arrays_of_hits.2.2.1 xs ys hxs hys).2 fun path line => ?_⟩
  rw [hits_ofHits_eq_sum, hits_ofHits_eq_sum]
  simp only [xs, ys, List.map_cons, List.map_nil, List.sum_cons, List.sum_nil]
  split <;> split <;> omega

end ShellCoverage.Counts
