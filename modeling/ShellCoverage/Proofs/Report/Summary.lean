import Mathlib.Algebra.Order.BigOperators.Group.List
import Mathlib.Data.Nat.Count
import Mathlib.Data.Set.Card
import ShellCoverage.Proofs.Report.Counted
import ShellCoverage.Report.Console

/-!
# Summaries of merged results

A summary counts the items of arrays: those that are not null, and those that are positive. In the sum of some results
an item is null if it is null in all of them, and positive if it is positive in one. So the summary of a sum counts, for
each file, the lines that are relevant or covered in one of the results, and no further result can make it count less.

* `isNull_countSum`, `isTrue_countSum` : the items of a sum;
* `relevantIn`, `coveredIn`, `ofItems_total` : the lines that a sum of arrays counts;
* `Summary.total_eq_sum` : totals of all files;
* `files_summarize_sum` : the summary of a sum;
* `CountsUnions`, `IsAtMost`, `summarize_merged` : what it says, and that it only grows.
-/

namespace ShellCoverage.Report
open Json

/-! ## Items -/

/-- The item is a number of executions, or null. -/
def IsHitCount (v : Value) : Prop := v = .null ∨ ∃ n : Nat, v = .int n

theorem IsHitCount.isCount {v : Value} (h : IsHitCount v) : IsCount v := by
  rcases h with rfl | ⟨n, rfl⟩
  · exact Or.inl rfl
  · exact Or.inr ⟨n, rfl⟩

theorem IsHitCount.countOf_nonneg {v : Value} (h : IsHitCount v) : 0 ≤ countOf v := by
  rcases h with rfl | ⟨n, rfl⟩
  · exact Int.le_refl 0
  · exact Int.natCast_nonneg n

theorem IsHitCount.countOf_pos_iff {v : Value} (h : IsHitCount v) : 0 < countOf v ↔ ∃ n : Int, 0 < n ∧ v = .int n := by
  rcases h with rfl | ⟨m, rfl⟩
  · exact iff_of_false (Int.lt_irrefl 0) (by rintro ⟨n, -, h⟩; cases h)
  · constructor
    · intro hpos
      exact ⟨m, hpos, rfl⟩
    · rintro ⟨n, hpos, h⟩
      cases h
      exact hpos

theorem isNull_countSum {vs : List Value} : (countSum vs).isNull = true ↔ ∀ v ∈ vs, v = .null := by
  have hall : vs.all (·.isNull) = true ↔ ∀ v ∈ vs, v = .null := by
    rw [List.all_eq_true]
    refine forall₂_congr fun v _ => ⟨eq_null, ?_⟩
    rintro rfl
    rfl
  rw [← hall, countSum]
  cases vs.all (·.isNull) <;> simp [Value.isNull]

section
variable {vs : List Value} (hvs : ∀ v ∈ vs, IsHitCount v)
include hvs

theorem sum_countOf_nonneg : 0 ≤ (vs.map countOf).sum := by
  refine List.sum_nonneg fun n hn => ?_
  obtain ⟨v, hv, rfl⟩ := List.mem_map.1 hn
  exact (hvs v hv).countOf_nonneg

/-- Numbers of executions have a positive sum if one of them is positive. -/
theorem sum_countOf_pos_iff : 0 < (vs.map countOf).sum ↔ ∃ n : Int, 0 < n ∧ .int n ∈ vs := by
  induction vs with
  | nil => simp
  | cons v vs ih =>
    obtain ⟨hv, hvs⟩ := List.forall_mem_cons.1 hvs
    have hfirst := hv.countOf_nonneg
    have hrest := sum_countOf_nonneg hvs
    have hsplit : 0 < countOf v + (vs.map countOf).sum ↔ 0 < countOf v ∨ 0 < (vs.map countOf).sum := by omega
    rw [List.map_cons, List.sum_cons, hsplit, hv.countOf_pos_iff, ih hvs, ← exists_or]
    refine exists_congr fun n => ?_
    rw [List.mem_cons, eq_comm, and_or_left]

theorem isTrue_countSum : (countSum vs).isTrue = true ↔ ∃ n : Int, 0 < n ∧ .int n ∈ vs := by
  have hnonneg := sum_countOf_nonneg hvs
  rw [← sum_countOf_pos_iff hvs, countSum]
  split
  next hnull =>
    rw [sum_countOf_of_null hnull]
    exact iff_of_false Bool.false_ne_true (Int.lt_irrefl 0)
  next =>
    rw [Value.isTrue, decide_eq_true_iff]
    omega

end

/-! ## Arrays -/

/-- The indices at which one of the arrays has an item that is not null. -/
def relevantIn (ls : List LineArray) : Set Nat := {i | ∃ l ∈ ls, ∃ v, l[i]? = some v ∧ v ≠ .null}

/-- The indices at which one of the arrays has a positive number. -/
def coveredIn (ls : List LineArray) : Set Nat := {i | ∃ l ∈ ls, ∃ n : Int, 0 < n ∧ l[i]? = some (.int n)}

theorem coveredIn_subset (ls : List LineArray) : coveredIn ls ⊆ relevantIn ls := by
  rintro i ⟨l, hl, n, -, hitem⟩
  exact ⟨l, hl, .int n, hitem, nofun⟩

theorem lt_height_of_mem_relevantIn {ls : List LineArray} {i : Nat} (h : i ∈ relevantIn ls) : i < height ls := by
  obtain ⟨l, hl, v, hitem, -⟩ := h
  obtain ⟨hlt, -⟩ := List.getElem?_eq_some_iff.1 hitem
  exact Nat.lt_of_lt_of_le hlt (height_le_iff.1 (Nat.le_refl _) l hl)

theorem finite_relevantIn (ls : List LineArray) : (relevantIn ls).Finite :=
  (Set.finite_lt_nat (height ls)).subset fun _ => lt_height_of_mem_relevantIn

theorem ncard_coveredIn_le (ls : List LineArray) : (coveredIn ls).ncard ≤ (relevantIn ls).ncard :=
  Set.ncard_le_ncard (coveredIn_subset ls) (finite_relevantIn ls)

section
variable {ls ls' : List LineArray} (h : ls.Sublist ls')
include h

/-- Further arrays do not make a line irrelevant. -/
theorem ncard_relevantIn_mono : (relevantIn ls).ncard ≤ (relevantIn ls').ncard := by
  refine Set.ncard_le_ncard ?_ (finite_relevantIn ls')
  rintro i ⟨l, hl, hitem⟩
  exact ⟨l, h.subset hl, hitem⟩

/-- Further arrays do not uncover a line. -/
theorem ncard_coveredIn_mono : (coveredIn ls).ncard ≤ (coveredIn ls').ncard := by
  refine Set.ncard_le_ncard ?_ ((finite_relevantIn ls').subset (coveredIn_subset ls'))
  rintro i ⟨l, hl, hitem⟩
  exact ⟨l, h.subset hl, hitem⟩

end

/-- The items of some kind in an array are as many as their indices. -/
theorem countP_range_eq_ncard (p : Nat → Bool) (n : Nat) :
    (List.range n).countP p = {i | i < n ∧ p i = true}.ncard := by
  have hset : {i | i < n ∧ p i = true} = ↑((Finset.range n).filter fun i => p i = true) := by
    ext i
    simp
  rw [hset, Set.ncard_coe_finset, ← Nat.count_eq_card_filter_range, Nat.count]
  simp

section
variable {ls : List LineArray}

/-- An item of the sum is not null if one of the arrays has an item there that is not. -/
theorem isNull_countSum_column {i : Nat} : (!(countSum (column ls i)).isNull) = true ↔ i ∈ relevantIn ls := by
  rw [Bool.not_eq_true', ← Bool.not_eq_true, isNull_countSum, not_forall]
  constructor
  · rintro ⟨v, hv⟩
    obtain ⟨hv, hnull⟩ := Classical.not_imp.1 hv
    obtain ⟨l, hl, hitem⟩ := (mem_column_iff hnull).1 hv
    exact ⟨l, hl, v, hitem, hnull⟩
  · rintro ⟨l, hl, v, hitem, hnull⟩
    exact ⟨v, fun hall => hnull (hall ((mem_column_iff hnull).2 ⟨l, hl, hitem⟩))⟩

variable (hls : ∀ l ∈ ls, ∀ v ∈ l, IsHitCount v)
include hls

/-- An item of the sum counts if one of the arrays has a positive number there. -/
theorem isTrue_countSum_column {i : Nat} : (countSum (column ls i)).isTrue = true ↔ i ∈ coveredIn ls := by
  have hint (n : Int) : Value.int n ≠ .null := nofun
  rw [isTrue_countSum (forall_mem_column (Or.inl rfl) hls i)]
  constructor
  · rintro ⟨n, hpos, hn⟩
    obtain ⟨l, hl, hitem⟩ := (mem_column_iff (hint n)).1 hn
    exact ⟨l, hl, n, hpos, hitem⟩
  · rintro ⟨l, hl, n, hpos, hitem⟩
    exact ⟨n, hpos, (mem_column_iff (hint n)).2 ⟨l, hl, hitem⟩⟩

/-- The totals of a sum of arrays count the lines that some array counts. -/
theorem ofItems_total : LineTotals.ofItems (total ls) = ⟨(relevantIn ls).ncard, (coveredIn ls).ncard⟩ := by
  have hrelevant : {i | i < height ls ∧ !(countSum (column ls i)).isNull} = relevantIn ls := by
    ext i
    rw [Set.mem_ofPred_eq, isNull_countSum_column]
    exact and_iff_right_of_imp lt_height_of_mem_relevantIn
  have hcovered : {i | i < height ls ∧ (countSum (column ls i)).isTrue} = coveredIn ls := by
    ext i
    rw [Set.mem_ofPred_eq, isTrue_countSum_column hls]
    exact and_iff_right_of_imp fun hi => lt_height_of_mem_relevantIn (coveredIn_subset ls hi)
  rw [LineTotals.ofItems, total, List.countP_map, List.countP_map, countP_range_eq_ncard, countP_range_eq_ncard]
  exact congrArg₂ LineTotals.mk (congrArg Set.ncard hrelevant) (congrArg Set.ncard hcovered)

end

/-! ## Results -/

/-- No path stands twice, and the arrays hold numbers of executions and nulls only. -/
structure IsHitTally (r : Result) : Prop where
  nodup : (Table.keys r).Nodup
  items : ∀ p ∈ r, ∀ v ∈ p.2, IsHitCount v

theorem IsHitTally.isTally {r : Result} (h : IsHitTally r) : IsTally r :=
  ⟨h.nodup, fun p hp v hv => (h.items p hp v hv).isCount⟩

/-- The totals of all files are sums. -/
theorem Summary.total_eq_sum (s : Summary) :
    s.total = ⟨(s.files.map (·.2.relevant)).sum, (s.files.map (·.2.covered)).sum⟩ := by
  have hfold (fs : List (Text × LineTotals)) (t : LineTotals) : fs.foldl (fun t f => t.add f.2) t =
      ⟨t.relevant + (fs.map (·.2.relevant)).sum, t.covered + (fs.map (·.2.covered)).sum⟩ := by
    induction fs generalizing t with
    | nil => rfl
    | cons f fs ih =>
      rw [List.foldl_cons, ih, LineTotals.add]
      simp only [List.map_cons, List.sum_cons, Nat.add_assoc]
  rw [total, hfold]
  simp only [Nat.zero_add]

theorem sum_missed (fs : List (Text × LineTotals)) :
    (fs.map (·.2.missed)).sum = ((fs.map (·.2.relevant)).sum : Nat) - ((fs.map (·.2.covered)).sum : Nat) := by
  induction fs with
  | nil => rfl
  | cons f fs ih =>
    rw [List.map_cons, List.map_cons, List.map_cons, List.sum_cons, List.sum_cons, List.sum_cons, ih,
      LineTotals.missed, Nat.cast_add, Nat.cast_add]
    omega

/-- The totals of a file, by what some results have for it. -/
noncomputable def unionTotals (rs : List Result) (path : Text) : LineTotals :=
  ⟨(relevantIn (arraysOf rs path)).ncard, (coveredIn (arraysOf rs path)).ncard⟩

section
variable {rs rs' : List Result} {sum sum' : Result}

/-- The summary of a sum. -/
theorem files_summarize_sum (hrs : ∀ r ∈ rs, IsHitTally r) (h : combineResults rs = .ok sum) :
    (summarize sum).files = (Table.keys sum).map fun path => (path, unionTotals rs path) := by
  have htallies : ∀ r ∈ rs, IsTally r := fun r hr => (hrs r hr).isTally
  obtain ⟨hkeys, hsorted, hget⟩ := (combineResults_tally_iff htallies).1 h
  rw [summarize, hsorted, Table.keys, List.map_map]
  refine List.map_congr_left fun p hp => ?_
  have harray : Table.get? p.1 sum = some p.2 := (Table.get?_eq_some_iff hkeys).2 hp
  rw [hget, total?, Option.ite_none_left_eq_some, Option.some.injEq] at harray
  rw [← harray.2, ofItems_total (forall_mem_arraysOf (fun r hr => (hrs r hr).items) p.1)]
  rfl

theorem keys_summarize_sum (hrs : ∀ r ∈ rs, IsHitTally r) (h : combineResults rs = .ok sum) :
    Table.keys (summarize sum).files = Table.keys sum := by
  rw [files_summarize_sum hrs h, Table.keys, List.map_map]
  exact List.map_id _

theorem mem_files_summarize_sum (hrs : ∀ r ∈ rs, IsHitTally r) (h : combineResults rs = .ok sum) {path : Text}
    {t : LineTotals} :
    (path, t) ∈ (summarize sum).files ↔ path ∈ Table.keys sum ∧ t = unionTotals rs path := by
  rw [files_summarize_sum hrs h, List.mem_map]
  constructor
  · rintro ⟨p, hp, heq⟩
    cases heq
    exact ⟨hp, rfl⟩
  · rintro ⟨hp, rfl⟩
    exact ⟨path, hp, rfl⟩

/-- Sums over some of the keys, of what is no more, are no more. -/
theorem sum_map_le_of_subset {α : Type} {ks ks' : List α} (hks : ks.Nodup) (hsub : ks ⊆ ks') {f g : α → Nat}
    (hle : ∀ k, f k ≤ g k) : (ks.map f).sum ≤ (ks'.map g).sum := by
  obtain ⟨ls, hperm, hsublist⟩ := hks.subperm hsub
  calc (ks.map f).sum
    _ ≤ (ks.map g).sum := List.sum_le_sum fun k _ => hle k
    _ = (ls.map g).sum := ((hperm.map g).sum_eq).symm
    _ ≤ (ks'.map g).sum := (hsublist.map g).sum_le_sum fun n _ => Nat.zero_le n

end

/-- The summary counts, file by file, the lines that some result counts. -/
structure CountsUnions (rs : List Result) (s : Summary) : Prop where
  ascending : (Table.keys s.files).Pairwise (· < ·)
  mem_keys : ∀ path, path ∈ Table.keys s.files ↔ ∃ r ∈ rs, path ∈ Table.keys r
  relevant : ∀ path t, (path, t) ∈ s.files → t.relevant = (relevantIn (arraysOf rs path)).ncard
  covered : ∀ path t, (path, t) ∈ s.files → t.covered = (coveredIn (arraysOf rs path)).ncard
  missed : ∀ f ∈ s.files, f.2.missed = f.2.relevant - f.2.covered ∧ 0 ≤ f.2.missed
  total_relevant : s.total.relevant = (s.files.map (·.2.relevant)).sum
  total_covered : s.total.covered = (s.files.map (·.2.covered)).sum
  total_missed : s.total.missed = (s.files.map (·.2.missed)).sum

/-- No file and no total counts more in the first summary. -/
structure IsAtMost (s s' : Summary) : Prop where
  files : ∀ path t, (path, t) ∈ s.files →
    ∃ t', (path, t') ∈ s'.files ∧ t.relevant ≤ t'.relevant ∧ t.covered ≤ t'.covered
  relevant : s.total.relevant ≤ s'.total.relevant
  covered : s.total.covered ≤ s'.total.covered

theorem countsUnions_of_ok {rs : List Result} {sum : Result} (hrs : ∀ r ∈ rs, IsHitTally r)
    (h : combineResults rs = .ok sum) : CountsUnions rs (summarize sum) := by
  have htallies : ∀ r ∈ rs, IsTally r := fun r hr => (hrs r hr).isTally
  have hmerged := isMerged_of_ok htallies h
  have htotal := (summarize sum).total_eq_sum
  refine ⟨?_, fun path => ?_, fun path t ht => ?_, fun path t ht => ?_, fun f hf => ⟨rfl, ?_⟩, ?_, ?_, ?_⟩
  · rw [keys_summarize_sum hrs h]
    exact hmerged.ascending.imp fun hlt => Std.lt_of_le_of_ne (of_decide_eq_true hlt.1) hlt.2
  · rw [keys_summarize_sum hrs h]
    exact hmerged.mem_keys path
  · rw [((mem_files_summarize_sum hrs h).1 ht).2, unionTotals]
  · rw [((mem_files_summarize_sum hrs h).1 ht).2, unionTotals]
  · have hle := ncard_coveredIn_le (arraysOf rs f.1)
    rw [((mem_files_summarize_sum hrs h).1 hf).2]
    exact Int.sub_nonneg_of_le (Int.ofNat_le.2 hle)
  · rw [htotal]
  · rw [htotal]
  · rw [htotal, sum_missed, LineTotals.missed]

/-- More results make no count smaller. -/
theorem isAtMost_of_sublist {rs rs' : List Result} {sum sum' : Result} (hrs : ∀ r ∈ rs, IsHitTally r)
    (hrs' : ∀ r ∈ rs', IsHitTally r) (h : combineResults rs = .ok sum) (h' : combineResults rs' = .ok sum')
    (hsub : rs.Sublist rs') : IsAtMost (summarize sum) (summarize sum') := by
  have htallies : ∀ r ∈ rs, IsTally r := fun r hr => (hrs r hr).isTally
  have htallies' : ∀ r ∈ rs', IsTally r := fun r hr => (hrs' r hr).isTally
  have hkeys : Table.keys sum ⊆ Table.keys sum' := by
    intro path hpath
    obtain ⟨r, hr, hpath⟩ := (mem_keys_combineResults htallies h).1 hpath
    exact (mem_keys_combineResults htallies' h').2 ⟨r, hsub.subset hr, hpath⟩
  have hnodup : (Table.keys sum).Nodup := ((combineResults_tally_iff htallies).1 h).1
  have harrays (path : Text) : (arraysOf rs path).Sublist (arraysOf rs' path) := hsub.filterMap _
  have hrelevant (path : Text) : (unionTotals rs path).relevant ≤ (unionTotals rs' path).relevant :=
    ncard_relevantIn_mono (harrays path)
  have hcovered (path : Text) : (unionTotals rs path).covered ≤ (unionTotals rs' path).covered :=
    ncard_coveredIn_mono (harrays path)
  refine ⟨fun path t ht => ?_, ?_, ?_⟩
  · obtain ⟨hpath, rfl⟩ := (mem_files_summarize_sum hrs h).1 ht
    exact ⟨_, (mem_files_summarize_sum hrs' h').2 ⟨hkeys hpath, rfl⟩, hrelevant path, hcovered path⟩
  · rw [Summary.total_eq_sum, Summary.total_eq_sum, files_summarize_sum hrs h, files_summarize_sum hrs' h']
    simp only [List.map_map]
    exact sum_map_le_of_subset hnodup hkeys hrelevant
  · rw [Summary.total_eq_sum, Summary.total_eq_sum, files_summarize_sum hrs h, files_summarize_sum hrs' h']
    simp only [List.map_map]
    exact sum_map_le_of_subset hnodup hkeys hcovered

/-- **Summaries of merged results count unions of lines.** Results with numbers of executions always have a sum, the
summary of which has each of their files once, in ascending order, with the number of lines that are relevant in one of
the results and of those that are covered in one. With more results in the list, at any place, no count of a file and no
total gets smaller. -/
theorem summarize_merged (rs : List Result) (hrs : ∀ r ∈ rs, IsHitTally r) :
    ∃ sum, combineResults rs = .ok sum ∧ CountsUnions rs (summarize sum) ∧
      ∀ rs', (∀ r ∈ rs', IsHitTally r) → rs.Sublist rs' →
        ∃ sum', combineResults rs' = .ok sum' ∧ IsAtMost (summarize sum) (summarize sum') := by
  obtain ⟨sum, hsum, -⟩ := exists_combineResults_tally fun r hr => (hrs r hr).isTally
  refine ⟨sum, hsum, countsUnions_of_ok hrs hsum, fun rs' hrs' hsub => ?_⟩
  obtain ⟨sum', hsum', -⟩ := exists_combineResults_tally fun r hr => (hrs' r hr).isTally
  exact ⟨sum', hsum', isAtMost_of_sublist hrs hrs' hsum hsum' hsub⟩

theorem summarize_merged_unequal :
    let path : Text := "/a.sh"
    let first : Result := [(path, [.int 1, .int 0, .null])]
    let second : Result := [(path, [.null, .int 2, .null, .int 0])]
    ∃ sum sum', combineResults [first] = .ok sum ∧ combineResults [second, first] = .ok sum' ∧
      IsAtMost (summarize sum) (summarize sum') ∧ CountsUnions [second, first] (summarize sum') := by
  intro path first second
  have hfirst : IsHitTally first := by
    refine ⟨List.nodup_singleton path, List.forall_mem_singleton.2 ?_⟩
    simp only [List.forall_mem_cons]
    exact ⟨Or.inr ⟨1, rfl⟩, Or.inr ⟨0, rfl⟩, Or.inl rfl, List.forall_mem_nil _⟩
  have hsecond : IsHitTally second := by
    refine ⟨List.nodup_singleton path, List.forall_mem_singleton.2 ?_⟩
    simp only [List.forall_mem_cons]
    exact ⟨Or.inl rfl, Or.inr ⟨2, rfl⟩, Or.inl rfl, Or.inr ⟨0, rfl⟩, List.forall_mem_nil _⟩
  have hboth : ∀ r ∈ [second, first], IsHitTally r :=
    List.forall_mem_cons.2 ⟨hsecond, List.forall_mem_singleton.2 hfirst⟩
  obtain ⟨sum, hsum, -, hmore⟩ := summarize_merged [first] (List.forall_mem_singleton.2 hfirst)
  obtain ⟨sum', hsum', hunions, -⟩ := summarize_merged [second, first] hboth
  obtain ⟨sum'', hsum'', hatMost⟩ := hmore [second, first] hboth (List.sublist_cons_self second [first])
  cases hsum'.symm.trans hsum''
  exact ⟨sum, sum', hsum, hsum', hatMost, hunions⟩

end ShellCoverage.Report
