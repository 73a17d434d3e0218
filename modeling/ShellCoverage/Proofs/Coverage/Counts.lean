import ShellCoverage.Coverage.Counts
import ShellCoverage.Proofs.Table

/-!
# Counting

* `Counts.hits_add` : adding to the count of a line changes that count, and no other;
* `Counts.total_add` : the sum of all counts grows by what is added;
* `Counts.ofHits`, `Counts.hits_ofHits_eq_sum` : the counts that some hits come to;
* `Counts.hits_ofHits_append`, `Counts.mem_files_ofHits_append`, `Counts.extent_ofHits_append` : hits that are
  counted in two parts;
* `Counts.SameEntries`, `Counts.sameEntries_addHits` : hits in another order give the same entries;
* `Counts.SameEntries.entries_eq`, `Counts.SameEntries.arrays_eq` : in ascending order, the same entries are equal,
  and so are the arrays made of them.
-/

namespace ShellCoverage

namespace Table

variable {κ α : Type} [DecidableEq κ]

/-- The sum of the weights of a table's values. -/
def weight (f : α → Nat) (t : Table κ α) : Nat := (t.map fun p => f p.2).sum

/-- Setting the value of a key replaces its weight. -/
theorem weight_insert (f : α → Nat) (k : κ) (v : α) (t : Table κ α) :
    weight f (insert k v t) + ((get? k t).map f).getD 0 = weight f t + f v := by
  induction t with
  | nil => simp [insert, get?, weight]
  | cons p t ih =>
    obtain ⟨k', v'⟩ := p
    rw [insert, get?]
    by_cases hk : k' = k
    · rw [if_pos hk, if_pos hk]
      simp only [weight, List.map_cons, List.sum_cons, Option.map_some, Option.getD_some]
      omega
    · rw [if_neg hk, if_neg hk]
      simp only [weight, List.map_cons, List.sum_cons] at ih ⊢
      omega

end Table

namespace Counts

theorem lines_add (c : Counts) (path path' : Text) (line : Int) (count : Nat) :
    (c.add path line count).lines path' =
      if path = path' then Table.insert line (c.hits path line + count) (c.lines path)
      else c.lines path' := by
  rw [lines, add, Table.get?_insert]
  split <;> rfl

theorem hits_add (c : Counts) (path path' : Text) (line line' : Int) (count : Nat) :
    (c.add path line count).hits path' line' =
      c.hits path' line' + if path = path' ∧ line = line' then count else 0 := by
  rw [hits, lines_add]
  by_cases hpath : path = path'
  · subst hpath
    rw [if_pos rfl, Table.get?_insert]
    by_cases hline : line = line'
    · simp [hline]
    · simp [hline, hits]
  · simp [hpath, hits]

/-- The sum of the counts of all lines of all files. -/
def total (c : Counts) : Nat := Table.weight (Table.weight id) c.table

theorem total_add (c : Counts) (path : Text) (line : Int) (count : Nat) :
    (c.add path line count).total = c.total + count := by
  have hlines := Table.weight_insert id line (c.hits path line + count) (c.lines path)
  have hfiles := Table.weight_insert (Table.weight id) path
    (Table.insert line (c.hits path line + count) (c.lines path)) c.table
  have hold : ((Table.get? path c.table).map (Table.weight id)).getD 0 = Table.weight id (c.lines path) := by
    rw [lines]
    cases Table.get? path c.table <;> rfl
  have hhits : ((Table.get? line (c.lines path)).map id).getD 0 = c.hits path line := by
    rw [hits, Option.map_id, id]
  rw [hold] at hfiles
  rw [hhits, id] at hlines
  simp only [total, add]
  omega

/-! ## Files and lines with entries -/

theorem mem_files {c : Counts} {path : Text} : path ∈ c.files ↔ path ∈ Table.keys c.table :=
  (List.mergeSort_perm _ _).mem_iff

theorem has_iff {c : Counts} {path : Text} : c.has path = true ↔ path ∈ Table.keys c.table := Table.has_iff

theorem lines_of_notMem_files {c : Counts} {path : Text} (h : path ∉ c.files) : c.lines path = [] := by
  rw [lines, Table.get?_eq_none_iff.2 fun hmem => h (mem_files.2 hmem), Option.getD_none]

theorem nodup_files {c : Counts} (h : (Table.keys c.table).Nodup) : c.files.Nodup :=
  (List.mergeSort_perm _ _).nodup_iff.2 h

theorem keys_table_add (c : Counts) (path : Text) (line : Int) (count : Nat) (path' : Text) :
    path' ∈ Table.keys (c.add path line count).table ↔ path' ∈ Table.keys c.table ∨ path = path' :=
  Table.mem_keys_insert

theorem keys_lines_add (c : Counts) (path path' : Text) (line line' : Int) (count : Nat) :
    line' ∈ Table.keys ((c.add path line count).lines path') ↔
      line' ∈ Table.keys (c.lines path') ∨ path = path' ∧ line = line' := by
  rw [lines_add]
  by_cases hpath : path = path'
  · subst hpath
    rw [if_pos rfl, Table.mem_keys_insert, iff_true_intro (Eq.refl path), true_and]
  · simp [hpath]

theorem hits_of_notMem {c : Counts} {path : Text} {line : Int} (h : line ∉ Table.keys (c.lines path)) :
    c.hits path line = 0 := by
  rw [hits, Table.get?_eq_none_iff.2 h, Option.getD_none]

theorem foldl_max_le_iff {n m : Int} {ls : List Int} : ls.foldl max n ≤ m ↔ n ≤ m ∧ ∀ l ∈ ls, l ≤ m := by
  induction ls generalizing n with
  | nil => simp
  | cons l ls ih =>
    rw [List.foldl_cons, ih, List.forall_mem_cons, Int.max_le, and_assoc]

/-- The extent is the least number that is no smaller than the length and the lines with entries. -/
theorem extent_le_iff {c : Counts} {path : Text} {n m : Int} :
    c.extent path n ≤ m ↔ n ≤ m ∧ ∀ line ∈ Table.keys (c.lines path), line ≤ m := foldl_max_le_iff

theorem hits_of_extent_lt {c : Counts} {path : Text} {n line : Int} (h : c.extent path n < line) :
    c.hits path line = 0 := by
  refine hits_of_notMem fun hmem => ?_
  have hle := (extent_le_iff.1 (Int.le_refl (c.extent path n))).2 line hmem
  omega

theorem hits_of_notMem_files {c : Counts} {path : Text} (h : path ∉ c.files) (line : Int) :
    c.hits path line = 0 := by
  rw [hits, lines_of_notMem_files h]
  rfl

theorem extent_of_notMem_files {c : Counts} {path : Text} (h : path ∉ c.files) (n : Int) :
    c.extent path n = n := by
  rw [extent, lines_of_notMem_files h]
  rfl

theorem le_extent (c : Counts) (path : Text) (n : Int) : n ≤ c.extent path n :=
  (extent_le_iff.1 (Int.le_refl _)).1

/-- The files stand in ascending order, none of them twice. -/
theorem pairwise_files {c : Counts} (h : (Table.keys c.table).Nodup) : c.files.Pairwise (· < ·) :=
  List.Pairwise.imp₂ (fun _ _ hle hne => Std.lt_of_le_of_ne (of_decide_eq_true hle) hne)
    (List.pairwise_mergeSort Text.le_trans Text.le_total _) (nodup_files h)

/-! ## Arrays -/

theorem length_toList (c : Counts) (path : Text) (n : Int) :
    (c.toList path n).length = (c.extent path n).toNat := by
  rw [toList, List.length_map, List.length_range]

/-- An item of an array is the count of its line, if that is positive. -/
theorem getElem?_toList (c : Counts) (path : Text) (n : Int) (i : Nat) :
    (c.toList path n)[i]? =
      if i < (c.extent path n).toNat then
        some (if 0 < c.hits path (i + 1) then some (c.hits path (i + 1)) else none)
      else none := by
  rw [toList, List.getElem?_map]
  by_cases hi : i < (c.extent path n).toNat
  · rw [if_pos hi, List.getElem?_range hi, Option.map_some]
    by_cases hzero : c.hits path (i + 1) = 0
    · simp [hzero]
    · simp [hzero, Nat.pos_of_ne_zero hzero]
  · rw [if_neg hi, List.getElem?_eq_none_iff.2 (by simpa using hi), Option.map_none]

/-! ## Sequences of hits -/

/-- Executions of a line. -/
structure Hit where
  path : Text
  line : Int
  count : Nat

/-- The counts after some more hits. -/
def addHits (c : Counts) (xs : List Hit) : Counts := xs.foldl (fun c x => c.add x.path x.line x.count) c

/-- The counts that some hits come to. -/
def ofHits (xs : List Hit) : Counts := addHits {} xs

/-- Hits are never refused. -/
theorem foldlM_hit (c : Counts) (xs : List Hit) :
    xs.foldlM (fun c x => c.hit x.path x.line x.count) c = some (c.addHits xs) := by
  induction xs generalizing c with
  | nil => rfl
  | cons x xs ih =>
    have hcount : ¬ ((x.count : Int) < 0) := by omega
    rw [List.foldlM_cons, hit, if_neg hcount, Int.toNat_natCast, Option.bind_eq_bind, Option.bind_some, ih]
    rfl

/-- The count of a line is the sum of its hits. -/
theorem hits_addHits_eq_sum (c : Counts) (xs : List Hit) (path : Text) (line : Int) :
    (c.addHits xs).hits path line =
      c.hits path line + (xs.map fun x => if x.path = path ∧ x.line = line then x.count else 0).sum := by
  induction xs generalizing c with
  | nil => rfl
  | cons x xs ih =>
    rw [addHits, List.foldl_cons, ← addHits, ih, hits_add, List.map_cons, List.sum_cons, Nat.add_assoc]

theorem hits_ofHits_eq_sum (xs : List Hit) (path : Text) (line : Int) :
    (ofHits xs).hits path line = (xs.map fun x => if x.path = path ∧ x.line = line then x.count else 0).sum :=
  (hits_addHits_eq_sum {} xs path line).trans (Nat.zero_add _)

theorem hits_addHits (c : Counts) (xs : List Hit) (path : Text) (line : Int) :
    (c.addHits xs).hits path line = c.hits path line + (ofHits xs).hits path line := by
  rw [hits_addHits_eq_sum, hits_ofHits_eq_sum]

theorem keys_table_addHits (c : Counts) (xs : List Hit) (path : Text) :
    path ∈ Table.keys (c.addHits xs).table ↔ path ∈ Table.keys c.table ∨ ∃ x ∈ xs, x.path = path := by
  induction xs generalizing c with
  | nil => simp [addHits]
  | cons x xs ih =>
    rw [addHits, List.foldl_cons, ← addHits, ih, keys_table_add]
    simp [or_assoc]

theorem keys_lines_addHits (c : Counts) (xs : List Hit) (path : Text) (line : Int) :
    line ∈ Table.keys ((c.addHits xs).lines path) ↔
      line ∈ Table.keys (c.lines path) ∨ ∃ x ∈ xs, x.path = path ∧ x.line = line := by
  induction xs generalizing c with
  | nil => simp [addHits]
  | cons x xs ih =>
    rw [addHits, List.foldl_cons, ← addHits, ih, keys_lines_add]
    simp [or_assoc]

theorem mem_files_ofHits {xs : List Hit} {path : Text} : path ∈ (ofHits xs).files ↔ ∃ x ∈ xs, x.path = path := by
  rw [mem_files, ofHits, keys_table_addHits]
  simp [Table.keys]

theorem mem_keys_lines_ofHits {xs : List Hit} {path : Text} {line : Int} :
    line ∈ Table.keys ((ofHits xs).lines path) ↔ ∃ x ∈ xs, x.path = path ∧ x.line = line := by
  rw [ofHits, keys_lines_addHits]
  simp [lines, Table.get?, Table.keys]

/-- No file and no line has two entries. -/
structure IsProper (c : Counts) : Prop where
  files : (Table.keys c.table).Nodup
  lines : ∀ path, (Table.keys (c.lines path)).Nodup

theorem isProper_empty : IsProper {} := ⟨List.nodup_nil, fun _ => List.nodup_nil⟩

theorem IsProper.add {c : Counts} (h : c.IsProper) (path : Text) (line : Int) (count : Nat) :
    (c.add path line count).IsProper := by
  refine ⟨Table.nodup_insert _ _ h.files, fun path' => ?_⟩
  rw [lines_add]
  split
  · exact Table.nodup_insert _ _ (h.lines path)
  · exact h.lines path'

theorem IsProper.addHits {c : Counts} (h : c.IsProper) (xs : List Hit) : (c.addHits xs).IsProper := by
  induction xs generalizing c with
  | nil => exact h
  | cons x xs ih => exact ih (h.add x.path x.line x.count)

theorem isProper_ofHits (xs : List Hit) : (ofHits xs).IsProper := isProper_empty.addHits xs

theorem nodup_files_ofHits (xs : List Hit) : (ofHits xs).files.Nodup := nodup_files (isProper_ofHits xs).files

theorem addHits_append (c : Counts) (xs ys : List Hit) : c.addHits (xs ++ ys) = (c.addHits xs).addHits ys :=
  List.foldl_append

theorem ofHits_append (xs ys : List Hit) : ofHits (xs ++ ys) = (ofHits xs).addHits ys := addHits_append {} xs ys

theorem hits_ofHits_append (xs ys : List Hit) (path : Text) (line : Int) :
    (ofHits (xs ++ ys)).hits path line = (ofHits xs).hits path line + (ofHits ys).hits path line := by
  rw [ofHits_append, hits_addHits]

theorem mem_files_ofHits_append {xs ys : List Hit} {path : Text} :
    path ∈ (ofHits (xs ++ ys)).files ↔ path ∈ (ofHits xs).files ∨ path ∈ (ofHits ys).files := by
  simp only [mem_files_ofHits, List.mem_append, or_and_right, exists_or]

theorem keys_lines_ofHits_append {xs ys : List Hit} {path : Text} {line : Int} :
    line ∈ Table.keys ((ofHits (xs ++ ys)).lines path) ↔
      line ∈ Table.keys ((ofHits xs).lines path) ∨ line ∈ Table.keys ((ofHits ys).lines path) := by
  simp only [mem_keys_lines_ofHits, List.mem_append, or_and_right, exists_or]

/-- The longer part decides how far the lines go. -/
theorem extent_ofHits_append (xs ys : List Hit) (path : Text) (n : Int) :
    (ofHits (xs ++ ys)).extent path n = max ((ofHits xs).extent path n) ((ofHits ys).extent path n) := by
  have hx := extent_le_iff.1 (Int.le_refl ((ofHits xs).extent path n))
  have hy := extent_le_iff.1 (Int.le_refl ((ofHits ys).extent path n))
  have hxy := extent_le_iff.1 (Int.le_refl ((ofHits (xs ++ ys)).extent path n))
  refine Int.le_antisymm (extent_le_iff.2 ⟨by omega, fun line hline => ?_⟩) (Int.max_le.2
    ⟨extent_le_iff.2 ⟨hxy.1, fun line hline => hxy.2 line (keys_lines_ofHits_append.2 (Or.inl hline))⟩,
      extent_le_iff.2 ⟨hxy.1, fun line hline => hxy.2 line (keys_lines_ofHits_append.2 (Or.inr hline))⟩⟩)
  rcases keys_lines_ofHits_append.1 hline with h | h
  · have := hx.2 line h
    omega
  · have := hy.2 line h
    omega

/-- The lines of a file go as far as its hits do. -/
theorem extent_ofHits (xs : List Hit) (path : Text) (n : Int) :
    (ofHits xs).extent path n = ((xs.filter (·.path = path)).map (·.line)).foldl max n := by
  have hkeys (line : Int) : line ∈ Table.keys ((ofHits xs).lines path) ↔
      line ∈ (xs.filter (·.path = path)).map (·.line) := by
    rw [mem_keys_lines_ofHits]
    simp [and_assoc]
  have hbound (m : Int) :
      (ofHits xs).extent path n ≤ m ↔ ((xs.filter (·.path = path)).map (·.line)).foldl max n ≤ m := by
    rw [extent_le_iff, foldl_max_le_iff]
    simp only [hkeys]
  exact Int.le_antisymm ((hbound _).2 (Int.le_refl _)) ((hbound _).1 (Int.le_refl _))

/-! ## Orders of hits -/

/-- The same files and lines have entries, with the same counts; they may have come in different orders. -/
structure SameEntries (c c' : Counts) : Prop where
  files : ∀ path, path ∈ Table.keys c.table ↔ path ∈ Table.keys c'.table
  lines : ∀ path line, line ∈ Table.keys (c.lines path) ↔ line ∈ Table.keys (c'.lines path)
  hits : ∀ path line, c.hits path line = c'.hits path line

theorem sameEntries_addHits (c : Counts) {xs ys : List Hit} (h : xs.Perm ys) :
    (c.addHits xs).SameEntries (c.addHits ys) := by
  refine ⟨fun path => ?_, fun path line => ?_, fun path line => ?_⟩
  · simp only [keys_table_addHits, h.mem_iff]
  · simp only [keys_lines_addHits, h.mem_iff]
  · rw [hits_addHits_eq_sum, hits_addHits_eq_sum, (h.map _).sum_nat]

namespace SameEntries
variable {c c' : Counts} (h : c.SameEntries c')
include h

theorem get?_lines (path : Text) (line : Int) :
    Table.get? line (c.lines path) = Table.get? line (c'.lines path) := by
  have hhits := h.hits path line
  have hkeys := (Table.get?_eq_none_iff.trans (not_congr (h.lines path line))).trans Table.get?_eq_none_iff.symm
  unfold Counts.hits at hhits
  -- an entry with the count 0 is told apart from none by the keys
  cases hget : Table.get? line (c.lines path) with
  | none => exact (hkeys.1 hget).symm
  | some n =>
    cases hget' : Table.get? line (c'.lines path) with
    | none =>
      rw [hkeys.2 hget'] at hget
      cases hget
    | some n' =>
      rw [hget, hget'] at hhits
      exact congrArg some hhits

theorem files_eq (hc : c.IsProper) (hc' : c'.IsProper) : c.files = c'.files := by
  have hperm : (Table.keys c.table).Perm (Table.keys c'.table) :=
    (List.perm_ext_iff_of_nodup hc.files hc'.files).2 h.files
  exact mergeSort_eq_of_perm Text.le_trans Text.le_total (fun a _ b _ => Text.le_antisymm) hperm

theorem sortedLines_eq (hc : c.IsProper) (hc' : c'.IsProper) (path : Text) :
    c.sortedLines path = c'.sortedLines path := by
  refine Table.mergeSort_congr (fun m n => decide (m ≤ n)) (fun l m n hlm hmn => ?_) (fun m n => ?_)
    (fun m n hmn hnm => ?_) (hc.lines path) (hc'.lines path) (h.get?_lines path)
  · exact decide_eq_true (Int.le_trans (of_decide_eq_true hlm) (of_decide_eq_true hmn))
  · rw [Bool.or_eq_true, decide_eq_true_iff, decide_eq_true_iff]
    exact Int.le_total m n
  · exact Int.le_antisymm (of_decide_eq_true hmn) (of_decide_eq_true hnm)

/-- In ascending order, the entries are equal. -/
theorem entries_eq (hc : c.IsProper) (hc' : c'.IsProper) : c.entries = c'.entries := by
  unfold entries
  rw [h.files_eq hc hc']
  exact List.map_congr_left fun path _ => congrArg (Prod.mk path) (h.sortedLines_eq hc hc' path)

theorem extent_eq (path : Text) (n : Int) : c.extent path n = c'.extent path n := by
  refine Int.le_antisymm (extent_le_iff.2 ⟨le_extent c' path n, fun line hline => ?_⟩)
    (extent_le_iff.2 ⟨le_extent c path n, fun line hline => ?_⟩)
  · exact (extent_le_iff.1 (Int.le_refl _)).2 line ((h.lines path line).1 hline)
  · exact (extent_le_iff.1 (Int.le_refl _)).2 line ((h.lines path line).2 hline)

theorem toList_eq (path : Text) (n : Int) : c.toList path n = c'.toList path n := by
  unfold toList
  simp only [h.extent_eq path n, h.hits path]

/-- Arrays are made of the entries. -/
theorem arrays_eq (hc : c.IsProper) (hc' : c'.IsProper) : c.arrays = c'.arrays := by
  unfold arrays
  rw [h.files_eq hc hc']
  exact List.map_congr_left fun path _ => congrArg (Prod.mk path) (h.toList_eq path 0)

end SameEntries

end Counts

end ShellCoverage
