import Mathlib.Algebra.BigOperators.Group.List.Basic
import ShellCoverage.Proofs.Report.Combined

/-!
# Sums of counts

Where arrays hold integers and nulls only, results always add up, and the sum has a closed form: in a column of which
all items are null the sum is null, and in any other the integers are added. An array that has ended is no different
there from one with a null. Neither the order of the results nor the groups in which they are added up make a
difference.

* `countSum`, `countSum_flatten`, `countSum_column` : the sum of a column;
* `total?`, `total?_flatten`, `total?_perm` : the sum of arrays;
* `combineLines_eq_total`, `total_comm`, `total_assoc` : the sum of two arrays and its laws;
* `IsTally` : results whose arrays hold integers and nulls;
* `combineResults_tally_iff`, `exists_combineResults_tally` : the sum of results;
* `combineResults_tally_perm`, `combineResults_flatten` : orders and groups;
* `IsMerged`, `combine_laws` : what results are merged to, and the laws of merging;
* `ResultSet.HoldsCounts`, `ResultSet.exists_combined_counted` : the sum of the commands of a resultset.
-/

namespace ShellCoverage

namespace Report
open Json ResultSet

/-! ## Columns -/

/-- The item is an integer or null. -/
def IsCount (v : Value) : Prop := v = .null ∨ ∃ n, v = .int n

/-- What an item adds to a sum. -/
def countOf : Value → Int
  | .int n => n
  | _ => 0

/-- The sum of integers and nulls. -/
def countSum (vs : List Value) : Value :=
  if vs.all (·.isNull) then .null else .int (vs.map countOf).sum

theorem isCount_countSum (vs : List Value) : IsCount (countSum vs) := by
  rw [countSum]
  split
  · exact Or.inl rfl
  · exact Or.inr ⟨_, rfl⟩

theorem countSum_singleton {v : Value} (hv : IsCount v) : countSum [v] = v := by
  rcases hv with rfl | ⟨n, rfl⟩
  · rfl
  · simp [countSum, Value.isNull, countOf]

theorem combineItems_counts {v w : Value} (hv : IsCount v) (hw : IsCount w) :
    combineItems v w = .ok (countSum [v, w]) := by
  have hzero {v : Value} (hv : IsCount v) : v.orZero = .int (countOf v) := by
    rcases hv with rfl | ⟨n, rfl⟩
    · rfl
    · by_cases hn : n = 0
      · subst hn
        rfl
      · simp [Value.orZero, Value.isTrue, hn, countOf]
  rw [combineItems, hzero hv, hzero hw, countSum]
  by_cases hnull : v.isNull = true ∧ w.isNull = true
  · simp [hnull]
  · rw [if_neg (by simpa using hnull), if_neg (by simpa using hnull)]
    simp [Value.add, Value.number?]

theorem sum_countOf_of_null {vs : List Value} (h : vs.all (·.isNull) = true) : (vs.map countOf).sum = 0 := by
  refine List.sum_eq_zero fun n hn => ?_
  obtain ⟨v, hv, rfl⟩ := List.mem_map.1 hn
  rw [eq_null (List.all_eq_true.1 h v hv)]
  rfl

/-- A part of a column can be added up first. -/
theorem countSum_cons_countSum (us vs : List Value) : countSum (countSum us :: vs) = countSum (us ++ vs) := by
  rw [countSum, countSum, countSum, List.all_append, List.map_append, List.sum_append]
  cases hus : us.all (·.isNull) with
  | true => simp [sum_countOf_of_null hus, Value.isNull, countOf]
  | false => simp [Value.isNull, countOf]

theorem countSum_perm {us vs : List Value} (h : us.Perm vs) : countSum us = countSum vs := by
  rw [countSum, countSum, h.all_eq, (h.map countOf).sum_eq]

/-- Only the sum of the rest of a column matters. -/
theorem countSum_append_congr {us vs : List Value} (h : countSum us = countSum vs) (ws : List Value) :
    countSum (ws ++ us) = countSum (ws ++ vs) := by
  calc countSum (ws ++ us)
    _ = countSum (us ++ ws) := countSum_perm List.perm_append_comm
    _ = countSum (countSum us :: ws) := (countSum_cons_countSum us ws).symm
    _ = countSum (countSum vs :: ws) := by rw [h]
    _ = countSum (vs ++ ws) := countSum_cons_countSum vs ws
    _ = countSum (ws ++ vs) := countSum_perm List.perm_append_comm

/-- Groups of items can be added up first. -/
theorem countSum_flatten (vss : List (List Value)) : countSum (vss.map countSum) = countSum vss.flatten := by
  induction vss with
  | nil => rfl
  | cons vs vss ih =>
    rw [List.map_cons, countSum_cons_countSum, List.flatten_cons]
    exact countSum_append_congr ih vs

/-- An array that has ended adds nothing to a line. -/
theorem countSum_column (ls : List LineArray) (i : Nat) :
    countSum (column ls i) = countSum (ls.filterMap fun l => l[i]?) := by
  induction ls with
  | nil => rfl
  | cons l ls ih =>
    have hcolumn : column (l :: ls) i = l[i]?.getD .null :: column ls i := rfl
    rw [hcolumn, List.filterMap_cons]
    cases l[i]? with
    | none =>
      have hnull : countSum (countSum [] :: column ls i) = countSum (column ls i) := countSum_cons_countSum [] _
      exact hnull.trans ih
    | some v => exact countSum_append_congr ih [v]

theorem foldlM_combineItems_counts {v : Value} {vs : List Value} (hv : IsCount v) (hvs : ∀ w ∈ vs, IsCount w) :
    vs.foldlM combineItems v = .ok (countSum (v :: vs)) := by
  induction vs generalizing v with
  | nil => exact congrArg Except.ok (countSum_singleton hv).symm
  | cons w vs ih =>
    obtain ⟨hw, hvs⟩ := List.forall_mem_cons.1 hvs
    rw [List.foldlM_cons, combineItems_counts hv hw]
    exact (ih (isCount_countSum _) hvs).trans (congrArg Except.ok (countSum_cons_countSum [v, w] vs))

/-- Integers and nulls have a sum. -/
theorem sumsTo_counts_iff {vs : List Value} (hvs : ∀ v ∈ vs, IsCount v) {sum : Value} :
    SumsTo vs sum ↔ sum = countSum vs := by
  cases vs with
  | nil => exact Iff.rfl
  | cons v vs =>
    obtain ⟨hv, hvs⟩ := List.forall_mem_cons.1 hvs
    rw [SumsTo, foldlM_combineItems_counts hv hvs, Except.ok.injEq, eq_comm]

/-! ## Arrays -/

/-- The sum of arrays, line by line. -/
def total (ls : List LineArray) : LineArray := (List.range (height ls)).map fun i => countSum (column ls i)

/-- The sum of the arrays of a path, if there are any. -/
def total? (ls : List LineArray) : Option LineArray := if ls = [] then none else some (total ls)

theorem length_total (ls : List LineArray) : (total ls).length = height ls := by
  rw [total, List.length_map, List.length_range]

theorem isCount_total (ls : List LineArray) : ∀ v ∈ total ls, IsCount v := by
  intro v hv
  obtain ⟨i, -, rfl⟩ := List.mem_map.1 hv
  exact isCount_countSum _

theorem getD_total (ls : List LineArray) (i : Nat) : (total ls)[i]?.getD .null = countSum (column ls i) := by
  refine getD_map_range (fun i => countSum (column ls i)) (fun i hi => ?_) i
  rw [column_end hi, countSum, if_pos (by simp [Value.isNull])]

theorem total_congr {ls ls' : List LineArray} (hheight : height ls = height ls')
    (hcolumn : ∀ i, countSum (column ls i) = countSum (column ls' i)) : total ls = total ls' := by
  rw [total, total, hheight]
  exact List.map_congr_left fun i _ => hcolumn i

theorem isCount_column {ls : List LineArray} (hls : ∀ l ∈ ls, ∀ v ∈ l, IsCount v) (i : Nat) :
    ∀ v ∈ column ls i, IsCount v := forall_mem_column (Or.inl rfl) hls i

/-- Arrays of integers and nulls have a sum. -/
theorem arraysSumTo_counts_iff {ls : List LineArray} (hls : ∀ l ∈ ls, ∀ v ∈ l, IsCount v)
    {sum : Option LineArray} : ArraysSumTo ls sum ↔ sum = total? ls := by
  have htotal : ArraysSumTo ls (total? ls) := by
    rw [total?]
    split
    next hnil => exact arraysSumTo_none_iff.2 hnil
    next hne =>
      refine arraysSumTo_some_iff.2 ⟨hne, length_total ls, fun i => ?_⟩
      rw [sumsTo_counts_iff (isCount_column hls i), getD_total]
  exact ⟨fun h => arraysSumTo_unique h htotal, fun h => h ▸ htotal⟩

theorem height_append (ls ls' : List LineArray) : height (ls ++ ls') = max (height ls) (height ls') := by
  induction ls with
  | nil => exact (Nat.zero_max _).symm
  | cons l ls ih => rw [List.cons_append, height, List.foldr_cons, ← height, ih, ← Nat.max_assoc]; rfl

theorem height_perm {ls ls' : List LineArray} (h : ls.Perm ls') : height ls = height ls' := by
  refine Nat.le_antisymm (height_le_iff.2 fun l hl => ?_) (height_le_iff.2 fun l hl => ?_)
  · exact height_le_iff.1 (Nat.le_refl _) l (h.mem_iff.1 hl)
  · exact height_le_iff.1 (Nat.le_refl _) l (h.mem_iff.2 hl)

theorem total?_perm {ls ls' : List LineArray} (h : ls.Perm ls') : total? ls = total? ls' := by
  have hnil : ls = [] ↔ ls' = [] := ⟨fun he => (he ▸ h).nil_eq.symm, fun he => (he ▸ h).eq_nil⟩
  rw [total?, total?, total_congr (height_perm h) fun i => countSum_perm (h.map _)]
  simp only [hnil]

/-- Groups of arrays can be added up first. -/
theorem total?_flatten (lss : List (List LineArray)) : total? (lss.filterMap total?) = total? lss.flatten := by
  have hnil : lss.filterMap total? = [] ↔ lss.flatten = [] := by
    simp [List.filterMap_eq_nil_iff, total?]
  have hheight : height (lss.filterMap total?) = height lss.flatten := by
    clear hnil
    induction lss with
    | nil => rfl
    | cons ls lss ih =>
      rw [List.flatten_cons, height_append, ← ih, List.filterMap_cons, total?]
      by_cases hls : ls = []
      · rw [if_pos hls, hls]
        exact (Nat.zero_max _).symm
      · rw [if_neg hls]
        exact congrArg (max · _) (length_total ls)
  have hcolumn (i : Nat) : countSum (column (lss.filterMap total?) i) = countSum (column lss.flatten i) := by
    have hgroups : column lss.flatten i = (lss.map fun ls => column ls i).flatten := by
      rw [column, List.map_flatten]
      rfl
    rw [hgroups, ← countSum_flatten, List.map_map]
    clear hnil hheight hgroups
    induction lss with
    | nil => rfl
    | cons ls lss ih =>
      rw [List.filterMap_cons, total?, List.map_cons, Function.comp_apply]
      by_cases hls : ls = []
      · -- a group without arrays adds a null
        have hnone : countSum (column ls i) = countSum [] := by rw [hls]; rfl
        rw [if_pos hls, hnone, countSum_cons_countSum, List.nil_append]
        exact ih
      · rw [if_neg hls, column, List.map_cons, getD_total, countSum_cons_countSum, countSum_cons_countSum]
        exact countSum_append_congr ih (column ls i)
  rw [total?, total?, total_congr hheight hcolumn]
  simp only [hnil]

section arrays
variable {as bs cs : LineArray}

theorem exists_length_eq_height {ls : List LineArray} (h : ls ≠ []) : ∃ l ∈ ls, l.length = height ls := by
  induction ls with
  | nil => exact absurd rfl h
  | cons l ls ih =>
    have hheight : height (l :: ls) = max l.length (height ls) := rfl
    rw [hheight]
    by_cases hle : height ls ≤ l.length
    · exact ⟨l, List.mem_cons_self, (Nat.max_eq_left hle).symm⟩
    · have hne : ls ≠ [] := by
        rintro rfl
        exact hle (Nat.zero_le _)
      obtain ⟨l', hl', hlen⟩ := ih hne
      exact ⟨l', List.mem_cons_of_mem l hl', by omega⟩

theorem getElem?_total {ls : List LineArray} {i : Nat} (hi : i < height ls) :
    (total ls)[i]? = some (countSum (column ls i)) := by
  rw [total, List.getElem?_map, List.getElem?_range hi, Option.map_some]

theorem total_singleton (has : ∀ v ∈ as, IsCount v) : total [as] = as := by
  have hheight : height [as] = as.length := Nat.max_zero _
  refine List.ext_getElem ((length_total _).trans hheight) fun i hi hi' => ?_
  have hitem : as[i]?.getD .null = as[i] := by rw [List.getElem?_eq_getElem hi', Option.getD_some]
  have htotal := getD_total [as] i
  rw [List.getElem?_eq_getElem hi, Option.getD_some] at htotal
  rw [htotal, column, List.map_singleton, hitem]
  exact countSum_singleton (has _ (List.getElem_mem hi'))

/-- Two arrays of integers and nulls are always added up. -/
theorem combineLines_eq_total (has : ∀ v ∈ as, IsCount v) (hbs : ∀ v ∈ bs, IsCount v) :
    combineLines (.list as) (.list bs) = .ok (total [as, bs]) := by
  have hcounts : ∀ l ∈ [as, bs], ∀ v ∈ l, IsCount v :=
    List.forall_mem_cons.2 ⟨has, List.forall_mem_singleton.2 hbs⟩
  have hlen : (total [as, bs]).length = max as.length bs.length := by
    rw [length_total]
    exact congrArg (max as.length) (Nat.max_zero _)
  rw [combineLines_list, combineLists_eq_ok_iff]
  refine ⟨hlen, fun i => ?_⟩
  have hcolumn := isCount_column hcounts i
  rw [getD_total]
  exact combineItems_counts (hcolumn _ List.mem_cons_self) (hcolumn _ (List.mem_cons_of_mem _ List.mem_cons_self))

theorem total_comm (as bs : LineArray) : total [as, bs] = total [bs, as] :=
  Option.some.inj (total?_perm (List.Perm.swap bs as []))

/-- Arrays may be added up in groups. -/
theorem total_assoc (has : ∀ v ∈ as, IsCount v) (hcs : ∀ v ∈ cs, IsCount v) :
    total [total [as, bs], cs] = total [as, total [bs, cs]] := by
  have hfirst : total [total [as, bs], total [cs]] = total [as, bs, cs] :=
    Option.some.inj (total?_flatten [[as, bs], [cs]])
  have hlast : total [total [as], total [bs, cs]] = total [as, bs, cs] :=
    Option.some.inj (total?_flatten [[as], [bs, cs]])
  rw [total_singleton hcs] at hfirst
  rw [total_singleton has] at hlast
  exact hfirst.trans hlast.symm

theorem total_nil_left (has : ∀ v ∈ as, IsCount v) : total [[], as] = as := by
  have hcolumn (i : Nat) : countSum (column [[], as] i) = countSum (column [as] i) := countSum_cons_countSum [] _
  have hheight : height [[], as] = height [as] := Nat.zero_max _
  exact (total_congr hheight hcolumn).trans (total_singleton has)

end arrays

/-! ## Results -/

/-- No path stands twice, and the arrays hold integers and nulls only. -/
structure IsTally (r : Result) : Prop where
  nodup : (Table.keys r).Nodup
  items : ∀ p ∈ r, ∀ v ∈ p.2, IsCount v

theorem isTally_of_isCounted {r : Result} (h : IsCounted r) : IsTally r := ⟨h.nodup, h.items⟩

section
variable {rs rs' : List Result} {r : Result}

theorem arraysOf_flatten (rss : List (List Result)) (path : Text) :
    arraysOf rss.flatten path = (rss.map fun rs => arraysOf rs path).flatten := by
  rw [arraysOf, List.filterMap_flatten]
  rfl

theorem isCount_arraysOf (hrs : ∀ r ∈ rs, IsTally r) (path : Text) :
    ∀ l ∈ arraysOf rs path, ∀ v ∈ l, IsCount v := forall_mem_arraysOf (fun r hr => (hrs r hr).items) path

/-- The sum of results with integers and nulls, path by path. -/
theorem combineResults_tally_iff (hrs : ∀ r ∈ rs, IsTally r) : combineResults rs = .ok r ↔
    (Table.keys r).Nodup ∧ sortByPath r = r ∧ ∀ p, Table.get? p r = total? (arraysOf rs p) := by
  rw [combineResults_eq_ok_iff fun r hr => (hrs r hr).nodup]
  simp only [arraysSumTo_counts_iff (isCount_arraysOf hrs _)]

theorem get?_eq_total? (hrs : ∀ r ∈ rs, IsTally r) (h : combineResults rs = .ok r) (path : Text) :
    Table.get? path r = total? (arraysOf rs path) :=
  ((combineResults_tally_iff hrs).1 h).2.2 path

/-- The sum has the paths of all results. -/
theorem mem_keys_combineResults (hrs : ∀ r ∈ rs, IsTally r) (h : combineResults rs = .ok r) {path : Text} :
    path ∈ Table.keys r ↔ ∃ r' ∈ rs, path ∈ Table.keys r' := by
  have hnone : Table.get? path r = none ↔ ∀ r' ∈ rs, Table.get? path r' = none := by
    rw [get?_eq_total? hrs h, total?, ite_eq_left_iff, arraysOf, ← List.filterMap_eq_nil_iff]
    simp
  rw [← not_iff_not, ← Table.get?_eq_none_iff, hnone]
  simp only [Table.get?_eq_none_iff, not_exists, not_and]

/-- Results with integers and nulls add up to such a result. -/
theorem exists_combineResults_tally (hrs : ∀ r ∈ rs, IsTally r) :
    ∃ r, combineResults rs = .ok r ∧ IsTally r := by
  obtain ⟨r, hr⟩ := (exists_combineResults_iff fun r hr => (hrs r hr).nodup).2 fun p i =>
    ⟨_, (sumsTo_counts_iff (isCount_column (isCount_arraysOf hrs p) i)).2 rfl⟩
  obtain ⟨hkeys, -, hget⟩ := (combineResults_tally_iff hrs).1 hr
  refine ⟨r, hr, hkeys, fun row hrow v hv => ?_⟩
  have harray := (Table.get?_eq_some_iff hkeys).2 hrow
  rw [hget, total?, Option.ite_none_left_eq_some, Option.some.injEq] at harray
  rw [← harray.2] at hv
  exact isCount_total _ v hv

/-- What was asked of the paths holds of those of the sum. -/
theorem exists_combineResults_counted (hrs : ∀ r ∈ rs, IsCounted r) :
    ∃ r, combineResults rs = .ok r ∧ IsCounted r := by
  have hrs' : ∀ r ∈ rs, IsTally r := fun r hr => isTally_of_isCounted (hrs r hr)
  obtain ⟨r, hr, htally⟩ := exists_combineResults_tally hrs'
  refine ⟨r, hr, htally.nodup, fun path hpath => ?_, htally.items⟩
  obtain ⟨r', hr', hpath⟩ := (mem_keys_combineResults hrs' hr).1 hpath
  exact (hrs r' hr').isUnpaired path hpath

/-- **The order of results makes no difference.** -/
theorem combineResults_tally_perm (hrs : ∀ r ∈ rs, IsTally r) (h : rs.Perm rs') :
    combineResults rs = combineResults rs' := by
  obtain ⟨r, hr, -⟩ := exists_combineResults_tally hrs
  obtain ⟨hkeys, hsorted, hget⟩ := (combineResults_tally_iff hrs).1 hr
  rw [hr, eq_comm, combineResults_tally_iff fun r' hr' => hrs r' (h.mem_iff.2 hr')]
  refine ⟨hkeys, hsorted, fun p => ?_⟩
  rw [hget, arraysOf, total?_perm (h.filterMap _), arraysOf]

theorem combineResults_perm (hrs : ∀ r ∈ rs, IsCounted r) (h : rs.Perm rs') :
    combineResults rs = combineResults rs' :=
  combineResults_tally_perm (fun r hr => isTally_of_isCounted (hrs r hr)) h

/-- **Groups of results can be added up first.** -/
theorem combineResults_flatten {rss : List (List Result)} {sums : List Result}
    (hrss : ∀ rs ∈ rss, ∀ r ∈ rs, IsTally r)
    (h : List.Forall₂ (fun rs sum => combineResults rs = .ok sum) rss sums) :
    combineResults sums = combineResults rss.flatten := by
  have hsums : ∀ sum ∈ sums, IsTally sum := by
    induction h with
    | nil => exact nofun
    | cons hfirst hrest ih =>
      obtain ⟨hrs, hrss⟩ := List.forall_mem_cons.1 hrss
      obtain ⟨sum, hsum, htally⟩ := exists_combineResults_tally hrs
      cases hfirst.symm.trans hsum
      exact List.forall_mem_cons.2 ⟨htally, ih hrss⟩
  have harrays (path : Text) : arraysOf sums path = (rss.map fun rs => arraysOf rs path).filterMap total? := by
    clear hsums
    induction h with
    | nil => rfl
    | cons hfirst hrest ih =>
      obtain ⟨hrs, hrss⟩ := List.forall_mem_cons.1 hrss
      rw [arraysOf_cons, ih hrss, get?_eq_total? hrs hfirst, List.map_cons, List.filterMap_cons]
      cases total? (arraysOf _ path) <;> rfl
  have hflatten : ∀ r ∈ rss.flatten, IsTally r := by
    intro r hr
    obtain ⟨rs, hrs, hr⟩ := List.mem_flatten.1 hr
    exact hrss rs hrs r hr
  obtain ⟨r, hr, -⟩ := exists_combineResults_tally hsums
  obtain ⟨hkeys, hsorted, hget⟩ := (combineResults_tally_iff hsums).1 hr
  rw [hr, eq_comm, combineResults_tally_iff hflatten]
  refine ⟨hkeys, hsorted, fun p => ?_⟩
  rw [hget, harrays, total?_flatten, arraysOf_flatten]

/-- A sum is its own sum. -/
theorem combineResults_sum (hrs : ∀ r ∈ rs, IsTally r) (h : combineResults rs = .ok r) :
    combineResults [r] = .ok r := by
  rw [combineResults_flatten (List.forall_mem_singleton.2 hrs) (.cons h .nil), List.flatten_singleton]
  exact h

end

/-! ## Merging -/

/-- The sum has the paths of all results in ascending order. The array of a path is as long as the longest one that a
result has for it, and each of its items is the sum of the items in the arrays that go so far. -/
structure IsMerged (rs : List Result) (sum : Result) : Prop where
  ascending : (Table.keys sum).Pairwise fun p q => Text.le p q = true ∧ p ≠ q
  mem_keys : ∀ path, path ∈ Table.keys sum ↔ ∃ r ∈ rs, path ∈ Table.keys r
  longest : ∀ path ls, Table.get? path sum = some ls →
    (∀ l ∈ arraysOf rs path, l.length ≤ ls.length) ∧ ∃ l ∈ arraysOf rs path, l.length = ls.length
  items : ∀ path ls, Table.get? path sum = some ls → ∀ i < ls.length,
    ls[i]? = some (countSum ((arraysOf rs path).filterMap fun l => l[i]?))

theorem isMerged_of_ok {rs : List Result} {sum : Result} (hrs : ∀ r ∈ rs, IsTally r)
    (h : combineResults rs = .ok sum) : IsMerged rs sum := by
  obtain ⟨hkeys, hsorted, hget⟩ := (combineResults_tally_iff hrs).1 h
  have harray {path : Text} {ls : LineArray} (hpath : Table.get? path sum = some ls) :
      arraysOf rs path ≠ [] ∧ total (arraysOf rs path) = ls := by
    rw [hget, total?, Option.ite_none_left_eq_some, Option.some.injEq] at hpath
    exact hpath
  refine ⟨?_, fun path => mem_keys_combineResults hrs h, fun path ls hpath => ?_, fun path ls hpath i hi => ?_⟩
  · have hle : (Table.keys (sortByPath sum)).Pairwise fun p q => Text.le p q = true :=
      List.pairwise_map.2 (pairwise_sortByPath sum)
    rw [hsorted] at hle
    exact hle.and hkeys
  · obtain ⟨hne, rfl⟩ := harray hpath
    rw [length_total]
    exact ⟨height_le_iff.1 (Nat.le_refl _), exists_length_eq_height hne⟩
  · obtain ⟨-, rfl⟩ := harray hpath
    rw [length_total] at hi
    rw [getElem?_total hi, countSum_column]

theorem exists_groupSums {groups : List (List Result)} (h : ∀ rs ∈ groups, ∀ r ∈ rs, IsTally r) :
    ∃ sums, List.Forall₂ (fun rs sum => combineResults rs = .ok sum) groups sums := by
  induction groups with
  | nil => exact ⟨[], .nil⟩
  | cons rs groups ih =>
    obtain ⟨hrs, hgroups⟩ := List.forall_mem_cons.1 h
    obtain ⟨sum, hsum, -⟩ := exists_combineResults_tally hrs
    obtain ⟨sums, hsums⟩ := ih hgroups
    exact ⟨sum :: sums, .cons hsum hsums⟩

/-- **Merging is a sum.** Results with integers and nulls are always merged, path by path and line by line, to the sums
of what they have there. They come to the same in any order, and if groups of them are merged first. For two arrays,
this is an operation that commutes and associates, and of which the empty array is the identity. -/
theorem combine_laws :
    (∀ rs : List Result, (∀ r ∈ rs, IsTally r) →
      ∃ sum, combineResults rs = .ok sum ∧ IsMerged rs sum ∧
        (∀ rs', rs.Perm rs' → combineResults rs' = .ok sum) ∧
        ∀ groups : List (List Result), groups.flatten = rs →
          ∃ sums, List.Forall₂ (fun rs sum => combineResults rs = .ok sum) groups sums ∧
            combineResults sums = .ok sum) ∧
    ∀ as bs cs : LineArray, (∀ v ∈ as, IsCount v) → (∀ v ∈ bs, IsCount v) → (∀ v ∈ cs, IsCount v) →
      combineLines (.list []) (.list as) = .ok as ∧ combineLines (.list as) (.list []) = .ok as ∧
        combineLines (.list as) (.list bs) = combineLines (.list bs) (.list as) ∧
        ∃ ab bc abc, combineLines (.list as) (.list bs) = .ok ab ∧ combineLines (.list bs) (.list cs) = .ok bc ∧
          combineLines (.list ab) (.list cs) = .ok abc ∧ combineLines (.list as) (.list bc) = .ok abc := by
  refine ⟨fun rs hrs => ?_, fun as bs cs has hbs hcs => ?_⟩
  · obtain ⟨sum, hsum, -⟩ := exists_combineResults_tally hrs
    refine ⟨sum, hsum, isMerged_of_ok hrs hsum, fun rs' hperm => ?_, fun groups hgroups => ?_⟩
    · rw [← combineResults_tally_perm hrs hperm, hsum]
    · have htallies : ∀ group ∈ groups, ∀ r ∈ group, IsTally r := by
        intro group hgroup r hr
        exact hrs r (hgroups ▸ List.mem_flatten_of_mem hgroup hr)
      obtain ⟨sums, hsums⟩ := exists_groupSums htallies
      refine ⟨sums, hsums, ?_⟩
      rw [combineResults_flatten htallies hsums, hgroups, hsum]
  · have hnil : ∀ v ∈ ([] : LineArray), IsCount v := List.forall_mem_nil _
    refine ⟨?_, ?_, ?_, total [as, bs], total [bs, cs], total [total [as, bs], cs], combineLines_eq_total has hbs,
      combineLines_eq_total hbs hcs, combineLines_eq_total (isCount_total _) hcs, ?_⟩
    · rw [combineLines_eq_total hnil has, total_nil_left has]
    · rw [combineLines_eq_total has hnil, total_comm, total_nil_left has]
    · rw [combineLines_eq_total has hbs, combineLines_eq_total hbs has, total_comm]
    · rw [combineLines_eq_total has (isCount_total _), total_assoc has hcs]

theorem combine_laws_unequal :
    let path : Text := "/a.sh"
    let first : LineArray := [.null, .int 0, .int 2]
    let second : LineArray := [.int 1]
    (∃ sum, combineResults [[(path, first)], [], [(path, second)]] = .ok sum ∧
      combineResults [[(path, second)], [], [(path, first)]] = .ok sum) ∧
      combineLines (.list first) (.list second) = combineLines (.list second) (.list first) := by
  intro path first second
  have hfirst : ∀ v ∈ first, IsCount v := by simp [first, IsCount]
  have hsecond : ∀ v ∈ second, IsCount v := by simp [second, IsCount]
  have htally {ls : LineArray} (hls : ∀ v ∈ ls, IsCount v) : IsTally [(path, ls)] :=
    ⟨List.nodup_singleton path, List.forall_mem_singleton.2 hls⟩
  have hrs : ∀ r ∈ [[(path, first)], [], [(path, second)]], IsTally r := by
    simp only [List.forall_mem_cons]
    exact ⟨htally hfirst, ⟨List.nodup_nil, List.forall_mem_nil _⟩, htally hsecond, List.forall_mem_nil _⟩
  obtain ⟨sum, hsum, -, horder, -⟩ := combine_laws.1 _ hrs
  refine ⟨⟨sum, hsum, horder _ (List.reverse_perm _).symm⟩, ?_⟩
  exact (combine_laws.2 first second [] hfirst hsecond (List.forall_mem_nil _)).2.2.1

end Report

/-! ## Resultsets -/

namespace ResultSet
open Json Value Report

/-- All files have arrays, and these hold integers and nulls only. -/
def HoldsCounts (s : ResultSet) : Prop :=
  ∀ p ∈ s, ∀ f ∈ p.2.coverage, ∃ ls, linesOf f.2 = .ok ls ∧ ∀ v ∈ ls, IsCount v

variable {s : ResultSet}

theorem isCounted_results (hs : s.toValue.Every IsPlain) (hcounts : s.HoldsCounts) {rs : List Result}
    (hrs : s.results = .ok rs) : ∀ r ∈ rs, IsCounted r := by
  intro r hr
  obtain ⟨p, hp, hresult⟩ := (Except.mem_mapM_iff hrs).1 hr
  have hnodup := nodup_results hs hrs hr
  have hkeys := (get?_result hresult []).1
  refine ⟨hnodup, fun path hpath => ?_, fun row hrow v hv => ?_⟩
  · have hentry : (Value.object p.2.members).Every IsPlain := everyMember_iff.1 hs.2 _ (List.mem_map_of_mem hp)
    have hcoverage := everyMember_iff.1 hentry.2 _ (Table.mem_of_get? p.2.has_coverage)
    exact hcoverage.here.2 path (hkeys ▸ hpath)
  · have harray := (Table.get?_eq_some_iff hnodup).2 hrow
    rw [(get?_result hresult row.1).2, Option.bind_eq_some_iff] at harray
    obtain ⟨data, hdata, harray⟩ := harray
    obtain ⟨ls, hls, hitems⟩ := hcounts p hp _ (Table.mem_of_get? hdata)
    rw [hls] at harray
    cases harray
    exact hitems v hv

/-- The commands of a resultset with integers and nulls add up to a result with such. -/
theorem exists_combined_counted (hs : s.toValue.Every IsPlain) (hcounts : s.HoldsCounts) :
    ∃ r, s.combined = .ok r ∧ IsCounted r := by
  obtain ⟨rs, hrs⟩ := exists_results_iff.2 fun p hp f hf => by
    obtain ⟨ls, hls, -⟩ := hcounts p hp f hf
    exact exists_linesOf_iff.1 ⟨ls, hls⟩
  obtain ⟨r, hr, hcounted⟩ := exists_combineResults_counted (isCounted_results hs hcounts hrs)
  exact ⟨r, combined_eq_ok_iff.2 ⟨rs, hrs, hr⟩, hcounted⟩

end ResultSet

end ShellCoverage
