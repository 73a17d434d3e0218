import ShellCoverage.Proofs.Except
import ShellCoverage.Proofs.Report.Combine

/-!
# Adding up any number of results

The sum of several results has, for each path, the sum of the arrays that the results have for it, and this has, for
each line, the sum of a column: the items of the line in all arrays, null where an array has ended. Whether results
add up, and to what, is so decided column by column.

* `column`, `mem_column_iff`, `SumsTo` : the items of one line, and their sum;
* `foldlM_combineLists_eq_ok_iff` : the sum of arrays, line by line;
* `ArraysSumTo`, `foldlM_addFiles_of_ok`, `exists_foldlM_addFiles` : the sum of results, path by path;
* `combineResults_eq_ok_iff`, `exists_combineResults_iff` : both together.
-/

namespace ShellCoverage.Report

open Json

/-! ## Arrays -/

/-- The items of one line in some arrays, null where an array has ended. -/
def column (ls : List LineArray) (i : Nat) : List Value := ls.map fun l => l[i]?.getD .null

/-- The number of lines of the longest array. -/
def height (ls : List LineArray) : Nat := ls.foldr (fun l n => max l.length n) 0

/-- The items of one line sum up to an item; a single item is not touched. -/
def SumsTo (vs : List Value) (sum : Value) : Prop :=
  match vs with
  | [] => sum = .null
  | v :: vs => vs.foldlM combineItems v = .ok sum

theorem height_le_iff {ls : List LineArray} {n : Nat} : height ls ≤ n ↔ ∀ l ∈ ls, l.length ≤ n := by
  induction ls with
  | nil => simp [height]
  | cons l ls ih =>
    rw [height, List.foldr_cons, ← height, Nat.max_le, ih, List.forall_mem_cons]

/-- What holds of nulls and of the items of some arrays holds of those of one line. -/
theorem forall_mem_column {P : Value → Prop} (hnull : P .null) {ls : List LineArray} (hls : ∀ l ∈ ls, ∀ v ∈ l, P v)
    (i : Nat) : ∀ v ∈ column ls i, P v := by
  intro v hv
  obtain ⟨l, hl, rfl⟩ := List.mem_map.1 hv
  cases hitem : l[i]? with
  | none => exact hnull
  | some w => exact hls l hl w (List.mem_of_getElem? hitem)

/-- An item of one line that is not null stands in an array. -/
theorem mem_column_iff {ls : List LineArray} {i : Nat} {v : Value} (hv : v ≠ .null) :
    v ∈ column ls i ↔ ∃ l ∈ ls, l[i]? = some v := by
  rw [column, List.mem_map]
  refine exists_congr fun l => and_congr_right fun _ => ?_
  cases l[i]? with
  | none => simpa using Ne.symm hv
  | some w => simp

theorem combineItems_null : combineItems .null .null = .ok .null := rfl

/-- The sum of two arrays, item by item. -/
theorem combineLists_eq_ok_iff {as bs cs : List Value} :
    combineLists as bs = .ok cs ↔ cs.length = max as.length bs.length ∧
      ∀ i : Nat, combineItems (as[i]?.getD .null) (bs[i]?.getD .null) = .ok (cs[i]?.getD .null) := by
  constructor
  · intro h
    induction as, bs using combineLists.induct generalizing cs with
    | case1 =>
      rw [combineLists] at h
      cases h
      exact ⟨rfl, fun _ => rfl⟩
    | case2 a as ih | case3 b bs ih | case4 a as b bs ih =>
      rw [combineLists] at h
      obtain ⟨c, hc, h⟩ := Except.bind_eq_ok_iff.1 h
      obtain ⟨cs', hcs, h⟩ := Except.bind_eq_ok_iff.1 h
      cases Except.pure_eq_ok_iff.1 h
      obtain ⟨hlen, hitems⟩ := ih hcs
      refine ⟨by simp only [List.length_cons, List.length_nil, hlen]; omega, fun i => ?_⟩
      cases i with
      | zero => exact hc
      | succ i => exact hitems i
  · rintro ⟨hlen, hitems⟩
    refine combineLists_eq_ok hlen fun i hi => ?_
    rw [hitems, List.getElem?_eq_getElem hi, Option.getD_some]

theorem column_end {ls : List LineArray} {i : Nat} (h : height ls ≤ i) :
    column ls i = List.replicate ls.length .null := by
  rw [column, List.eq_replicate_iff, List.length_map]
  refine ⟨rfl, fun v hv => ?_⟩
  obtain ⟨l, hl, rfl⟩ := List.mem_map.1 hv
  rw [List.getElem?_eq_none (height_le_iff.1 h l hl), Option.getD_none]

theorem sumsTo_replicate_null {n : Nat} {v : Value} (h : SumsTo (List.replicate n .null) v) : v = .null := by
  cases n with
  | zero => exact h
  | succ n =>
    have hsum : (List.replicate n Value.null).foldlM combineItems .null = .ok .null := by
      clear h
      induction n with
      | zero => rfl
      | succ n ih =>
        rw [List.replicate_succ, List.foldlM_cons, combineItems_null]
        exact ih
    exact (Except.ok.inj (hsum.symm.trans h)).symm

/-- An item of an array that is given by a function. -/
theorem getD_map_range (f : Nat → Value) {n : Nat} (hf : ∀ i, n ≤ i → f i = .null) (i : Nat) :
    (((List.range n).map f)[i]?).getD .null = f i := by
  rw [List.getElem?_map]
  by_cases hi : i < n
  · rw [List.getElem?_range hi]
    rfl
  · rw [List.getElem?_eq_none (by simpa using hi), hf i (Nat.le_of_not_lt hi)]
    rfl

/-- Arrays add up line by line. -/
theorem foldlM_combineLists_eq_ok_iff {as cs : LineArray} {ls : List LineArray} :
    ls.foldlM combineLists as = .ok cs ↔
      cs.length = height (as :: ls) ∧ ∀ i, SumsTo (column (as :: ls) i) (cs[i]?.getD .null) := by
  induction ls generalizing as with
  | nil =>
    simp only [List.foldlM_nil, Except.pure_eq_ok_iff, height, List.foldr, Nat.max_zero, column, List.map, SumsTo]
    refine ⟨fun h => h ▸ ⟨rfl, fun _ => rfl⟩, fun ⟨hlen, hitems⟩ => List.ext_getElem hlen.symm fun i hi hi' => ?_⟩
    have hitem := hitems i
    rwa [List.getElem?_eq_getElem hi, List.getElem?_eq_getElem hi', Option.getD_some, Option.getD_some] at hitem
  | cons bs ls ih =>
    rw [List.foldlM_cons, Except.bind_eq_ok_iff]
    have hheight {ds : LineArray} (hlen : ds.length = max as.length bs.length) :
        height (as :: bs :: ls) = height (ds :: ls) := by
      simp only [height, List.foldr_cons, hlen, Nat.max_assoc]
    constructor
    · rintro ⟨ds, hds, hcs⟩
      obtain ⟨hlen, hitems⟩ := combineLists_eq_ok_iff.1 hds
      obtain ⟨hlen', hitems'⟩ := ih.1 hcs
      refine ⟨hlen'.trans (hheight hlen).symm, fun i => ?_⟩
      exact Except.bind_eq_ok_iff.2 ⟨_, hitems i, hitems' i⟩
    · rintro ⟨hlen, hitems⟩
      -- the sum of the first two arrays, put together from the columns
      choose d hd hrest using fun i => Except.bind_eq_ok_iff.1 (hitems i)
      have hend (i : Nat) (hi : max as.length bs.length ≤ i) : d i = .null := by
        have hi' := Nat.max_le.1 hi
        have hnull : combineItems (as[i]?.getD .null) (bs[i]?.getD .null) = .ok (d i) := hd i
        rw [List.getElem?_eq_none hi'.1, List.getElem?_eq_none hi'.2] at hnull
        exact (Except.ok.inj (combineItems_null.symm.trans hnull)).symm
      have hlen' : ((List.range (max as.length bs.length)).map d).length = max as.length bs.length := by
        rw [List.length_map, List.length_range]
      refine ⟨(List.range (max as.length bs.length)).map d, combineLists_eq_ok_iff.2 ⟨hlen', fun i => ?_⟩,
        ih.2 ⟨hlen.trans (hheight hlen'), fun i => ?_⟩⟩
      · rw [getD_map_range d hend]
        exact hd i
      · rw [column, List.map_cons, getD_map_range d hend]
        exact hrest i

/-- The arrays of one path sum up to an array, if there are any. -/
def ArraysSumTo (ls : List LineArray) (sum : Option LineArray) : Prop :=
  match ls with
  | [] => sum = none
  | l :: ls => ∃ cs, ls.foldlM combineLists l = .ok cs ∧ sum = some cs

theorem arraysSumTo_some_iff {ls : List LineArray} {cs : LineArray} :
    ArraysSumTo ls (some cs) ↔
      ls ≠ [] ∧ cs.length = height ls ∧ ∀ i, SumsTo (column ls i) (cs[i]?.getD .null) := by
  cases ls with
  | nil => simp [ArraysSumTo]
  | cons l ls =>
    rw [← foldlM_combineLists_eq_ok_iff]
    constructor
    · rintro ⟨cs', hcs, h⟩
      cases h
      exact ⟨List.cons_ne_nil l ls, hcs⟩
    · exact fun h => ⟨cs, h.2, rfl⟩

theorem arraysSumTo_none_iff {ls : List LineArray} : ArraysSumTo ls none ↔ ls = [] := by
  cases ls with
  | nil => simp [ArraysSumTo]
  | cons l ls => exact iff_of_false (by rintro ⟨cs, -, h⟩; cases h) (List.cons_ne_nil l ls)

theorem arraysSumTo_unique {ls : List LineArray} {sum sum' : Option LineArray} (h : ArraysSumTo ls sum)
    (h' : ArraysSumTo ls sum') : sum = sum' := by
  cases ls with
  | nil => exact Eq.trans h (Eq.symm h')
  | cons l ls =>
    obtain ⟨cs, hcs, rfl⟩ := h
    obtain ⟨cs', hcs', rfl⟩ := h'
    rw [Except.ok.inj (hcs.symm.trans hcs')]

/-- Arrays have a sum if each of their lines has. -/
theorem exists_arraysSumTo_iff {ls : List LineArray} :
    (∃ sum, ArraysSumTo ls sum) ↔ ∀ i, ∃ v, SumsTo (column ls i) v := by
  constructor
  · rintro ⟨sum, h⟩ i
    cases sum with
    | none =>
      rw [arraysSumTo_none_iff.1 h]
      exact ⟨.null, rfl⟩
    | some cs => exact ⟨_, (arraysSumTo_some_iff.1 h).2.2 i⟩
  · intro h
    by_cases hls : ls = []
    · exact ⟨none, arraysSumTo_none_iff.2 hls⟩
    · choose v hv using h
      have hend (i : Nat) (hi : height ls ≤ i) : v i = .null := sumsTo_replicate_null (column_end hi ▸ hv i)
      refine ⟨some ((List.range (height ls)).map v), arraysSumTo_some_iff.2 ⟨hls, by simp, fun i => ?_⟩⟩
      rw [getD_map_range v hend]
      exact hv i

/-- The first arrays can be added up before the others. -/
theorem arraysSumTo_append_iff {ls ls' : List LineArray} {sum : Option LineArray} :
    ArraysSumTo (ls ++ ls') sum ↔ ∃ first, ArraysSumTo ls first ∧ ArraysSumTo (first.toList ++ ls') sum := by
  cases ls with
  | nil =>
    constructor
    · exact fun h => ⟨none, rfl, h⟩
    · rintro ⟨first, rfl, h⟩
      exact h
  | cons l ls =>
    simp only [ArraysSumTo, List.cons_append, List.foldlM_append, Except.bind_eq_ok_iff]
    constructor
    · rintro ⟨cs, ⟨first, hfirst, hcs⟩, rfl⟩
      exact ⟨some first, ⟨first, hfirst, rfl⟩, cs, hcs, rfl⟩
    · rintro ⟨_, ⟨first, hfirst, rfl⟩, cs, hcs, rfl⟩
      exact ⟨cs, ⟨first, hfirst, hcs⟩, rfl⟩

/-! ## Results -/

/-- The arrays that some results have for a path. -/
def arraysOf (rs : List Result) (path : Text) : List LineArray := rs.filterMap (Table.get? path)

theorem arraysOf_cons (r : Result) (rs : List Result) (path : Text) :
    arraysOf (r :: rs) path = (Table.get? path r).toList ++ arraysOf rs path := by
  rw [arraysOf, List.filterMap_cons]
  cases Table.get? path r <;> rfl

theorem forall_mem_arraysOf {P : Value → Prop} {rs : List Result} (hrs : ∀ r ∈ rs, ∀ p ∈ r, ∀ v ∈ p.2, P v)
    (path : Text) : ∀ l ∈ arraysOf rs path, ∀ v ∈ l, P v := by
  intro l hl v hv
  obtain ⟨r, hr, hget⟩ := List.mem_filterMap.1 hl
  exact hrs r hr _ (Table.mem_of_get? hget) v hv

theorem isSum_iff {acc r sum : Option LineArray} : IsSum acc r sum ↔ ArraysSumTo (acc.toList ++ r.toList) sum := by
  cases acc with
  | none =>
    cases r with
    | none => exact Iff.rfl
    | some bs => exact ⟨fun h => ⟨bs, rfl, h⟩, by rintro ⟨_, h, rfl⟩; cases h; rfl⟩
  | some as =>
    cases r with
    | none => exact ⟨fun h => ⟨as, rfl, h⟩, by rintro ⟨_, h, rfl⟩; cases h; rfl⟩
    | some bs =>
      simp only [IsSum, Option.toList_some, List.singleton_append, ArraysSumTo, List.foldlM_cons,
        List.foldlM_nil, bind_pure]

/-- What adding a file came to. -/
theorem addFile_of_ok {acc acc' : Result} {path : Text} {bs : LineArray}
    (h : addFile acc path (.list bs) = .ok acc') :
    ∃ cs, IsSum (Table.get? path acc) (some bs) (some cs) ∧ acc' = Table.insert path cs acc := by
  rw [addFile] at h
  cases hacc : Table.get? path acc with
  | none =>
    rw [hacc] at h
    obtain ⟨cs, hcs, rfl⟩ := Except.map_eq_ok_iff.1 h
    cases hcs
    exact ⟨bs, rfl, rfl⟩
  | some as =>
    rw [hacc] at h
    obtain ⟨cs, hcs, rfl⟩ := Except.map_eq_ok_iff.1 h
    exact ⟨cs, ⟨cs, (combineLines_list as bs).symm.trans hcs, rfl⟩, rfl⟩

/-- What adding a result came to, path by path. -/
theorem addFiles_of_ok {acc acc' r : Result} (hr : (Table.keys r).Nodup)
    (h : addFiles acc (r.map fun p => (p.1, .list p.2)) = .ok acc') (p : Text) :
    IsSum (Table.get? p acc) (Table.get? p r) (Table.get? p acc') := by
  induction r generalizing acc with
  | nil =>
    cases h
    exact isSum_none_iff.2 rfl
  | cons row r ih =>
    obtain ⟨path, bs⟩ := row
    obtain ⟨hpath, hr⟩ := List.nodup_cons.1 hr
    rw [List.map_cons, addFiles] at h
    obtain ⟨next, hnext, h⟩ := Except.bind_eq_ok_iff.1 h
    obtain ⟨cs, hcs, rfl⟩ := addFile_of_ok hnext
    have hlast := ih hr h
    rw [Table.get?_insert] at hlast
    rw [Table.get?]
    by_cases hp : path = p
    · subst hp
      rw [if_pos rfl, Table.get?_eq_none_iff.2 hpath, isSum_none_iff] at hlast
      rw [if_pos rfl, hlast]
      exact hcs
    · rwa [if_neg hp] at hlast ⊢

theorem nodup_addFiles {acc acc' r : Result} (hacc : (Table.keys acc).Nodup)
    (h : addFiles acc (r.map fun p => (p.1, .list p.2)) = .ok acc') : (Table.keys acc').Nodup := by
  induction r generalizing acc with
  | nil =>
    cases h
    exact hacc
  | cons row r ih =>
    rw [List.map_cons, addFiles] at h
    obtain ⟨next, hnext, h⟩ := Except.bind_eq_ok_iff.1 h
    obtain ⟨cs, -, rfl⟩ := addFile_of_ok hnext
    exact ih (Table.nodup_insert _ _ hacc) h

section
variable {rs : List Result} (hrs : ∀ r ∈ rs, (Table.keys r).Nodup)
include hrs

/-- What adding up results came to, path by path. -/
theorem foldlM_addFiles_of_ok {acc acc' : Result} (hacc : (Table.keys acc).Nodup)
    (h : (rs.map fun r => r.map fun p => (p.1, Value.list p.2)).foldlM addFiles acc = .ok acc') :
    (Table.keys acc').Nodup ∧
      ∀ p, ArraysSumTo ((Table.get? p acc).toList ++ arraysOf rs p) (Table.get? p acc') := by
  induction rs generalizing acc with
  | nil =>
    cases h
    refine ⟨hacc, fun p => ?_⟩
    rw [arraysOf, List.filterMap_nil]
    exact isSum_iff.1 (isSum_none_iff.2 rfl)
  | cons r rs ih =>
    obtain ⟨hr, hrs⟩ := List.forall_mem_cons.1 hrs
    rw [List.map_cons, List.foldlM_cons] at h
    obtain ⟨next, hnext, h⟩ := Except.bind_eq_ok_iff.1 h
    obtain ⟨hkeys, hsums⟩ := ih hrs (nodup_addFiles hacc hnext) h
    refine ⟨hkeys, fun p => ?_⟩
    rw [arraysOf_cons, ← List.append_assoc]
    exact arraysSumTo_append_iff.2 ⟨_, isSum_iff.1 (addFiles_of_ok hr hnext p), hsums p⟩

/-- Results add up if all arrays of each path do. -/
theorem exists_foldlM_addFiles {acc : Result} (hacc : (Table.keys acc).Nodup)
    (h : ∀ p, ∃ sum, ArraysSumTo ((Table.get? p acc).toList ++ arraysOf rs p) sum) :
    ∃ acc', (rs.map fun r => r.map fun p => (p.1, Value.list p.2)).foldlM addFiles acc = .ok acc' := by
  induction rs generalizing acc with
  | nil => exact ⟨acc, rfl⟩
  | cons r rs ih =>
    obtain ⟨hr, hrs⟩ := List.forall_mem_cons.1 hrs
    choose sum hsum using h
    simp only [arraysOf_cons, ← List.append_assoc, @arraysSumTo_append_iff (_ ++ _)] at hsum
    choose first hfirst hrest using hsum
    obtain ⟨next, hnext, hkeys, hget⟩ := addFiles_eq_ok first hacc hr fun p => isSum_iff.2 (hfirst p)
    obtain ⟨acc', hacc'⟩ := ih hrs hkeys fun p => ⟨sum p, hget p ▸ hrest p⟩
    exact ⟨acc', by rw [List.map_cons, List.foldlM_cons, hnext]; exact hacc'⟩

/-- **Results are added up path by path.** -/
theorem combineResults_eq_ok_iff {r : Result} :
    combineResults rs = .ok r ↔
      (Table.keys r).Nodup ∧ sortByPath r = r ∧ ∀ p, ArraysSumTo (arraysOf rs p) (Table.get? p r) := by
  have hnil : (Table.keys ([] : Result)).Nodup := List.nodup_nil
  rw [combineResults, combineValues, Except.map_eq_ok_iff]
  constructor
  · rintro ⟨acc, hacc, rfl⟩
    obtain ⟨hkeys, hsums⟩ := foldlM_addFiles_of_ok hrs hnil hacc
    refine ⟨nodup_keys_sortByPath hkeys,
      sortByPath_congr (nodup_keys_sortByPath hkeys) hkeys (get?_sortByPath hkeys), fun p => ?_⟩
    rw [get?_sortByPath hkeys]
    exact hsums p
  · rintro ⟨hkeys, hsorted, hsums⟩
    obtain ⟨acc, hacc⟩ := exists_foldlM_addFiles hrs hnil fun p => ⟨_, hsums p⟩
    obtain ⟨hkeys', hsums'⟩ := foldlM_addFiles_of_ok hrs hnil hacc
    refine ⟨acc, hacc, hsorted ▸ sortByPath_congr hkeys' hkeys fun p => ?_⟩
    exact arraysSumTo_unique (hsums' p) (hsums p)

/-- Results add up if every line of every path does. -/
theorem exists_combineResults_iff :
    (∃ r, combineResults rs = .ok r) ↔ ∀ p i, ∃ v, SumsTo (column (arraysOf rs p) i) v := by
  have hnil : (Table.keys ([] : Result)).Nodup := List.nodup_nil
  constructor
  · rintro ⟨r, hr⟩ p
    exact exists_arraysSumTo_iff.1 ⟨_, ((combineResults_eq_ok_iff hrs).1 hr).2.2 p⟩
  · intro h
    obtain ⟨acc, hacc⟩ := exists_foldlM_addFiles hrs hnil fun p => exists_arraysSumTo_iff.2 (h p)
    exact ⟨sortByPath acc, Except.map_eq_ok_iff.2 ⟨acc, hacc, rfl⟩⟩

end

end ShellCoverage.Report
