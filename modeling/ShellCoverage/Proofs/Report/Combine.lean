import ShellCoverage.Proofs.Table
import ShellCoverage.Report.Combine

/-!
# Adding up results

Results are tables from paths to arrays. In ascending order of paths, they are equal if every path has the
same array. Adding one to another adds up the arrays that both have, and keeps the others.

* `sortByPath_congr` : in ascending order, tables with the same values are equal;
* `combineLists_eq_ok` : arrays are added up item by item;
* `addFiles_eq_ok` : what adding a result comes to, path by path;
* `combineResults_eq_ok` : the sum of two results.
-/

namespace ShellCoverage

namespace Report

variable {α : Type} {s t : Table Text α}

theorem sortByPath_perm (t : Table Text α) : (sortByPath t).Perm t := List.mergeSort_perm t _

theorem pairwise_sortByPath (t : Table Text α) :
    (sortByPath t).Pairwise fun a b => Text.le a.1 b.1 = true :=
  List.pairwise_mergeSort (fun a b c => Text.le_trans a.1 b.1 c.1) (fun a b => Text.le_total a.1 b.1) t

theorem nodup_keys_sortByPath (ht : (Table.keys t).Nodup) : (Table.keys (sortByPath t)).Nodup :=
  ((sortByPath_perm t).map _).nodup_iff.2 ht

theorem get?_sortByPath (ht : (Table.keys t).Nodup) (k : Text) :
    Table.get? k (sortByPath t) = Table.get? k t := by
  refine Option.ext fun v => ?_
  rw [Table.get?_eq_some_iff (nodup_keys_sortByPath ht), Table.get?_eq_some_iff ht,
    (sortByPath_perm t).mem_iff]

/-- In ascending order, tables with the same values are equal. -/
theorem sortByPath_congr (hs : (Table.keys s).Nodup) (ht : (Table.keys t).Nodup)
    (h : ∀ k, Table.get? k s = Table.get? k t) : sortByPath s = sortByPath t :=
  Table.mergeSort_congr Text.le Text.le_trans Text.le_total (fun _ _ => Text.le_antisymm) hs ht h

/-! ## Arrays -/

open Json

/-- The first items of two arrays that are not both at their end, and the rest. -/
theorem combineLists_of_ne {as bs : List Value} (h : as ≠ [] ∨ bs ≠ []) :
    combineLists as bs = (do
      let c ← combineItems (as[0]?.getD .null) (bs[0]?.getD .null)
      pure (c :: (← combineLists as.tail bs.tail))) := by
  cases as with
  | nil =>
    cases bs with
    | nil => simp at h
    | cons b bs => rw [combineLists]; rfl
  | cons a as => cases bs <;> rw [combineLists] <;> rfl

/-- Arrays are added up item by item, the shorter one going on with nulls. -/
theorem combineLists_eq_ok {as bs cs : List Value} (hlen : cs.length = max as.length bs.length)
    (h : ∀ i (hi : i < cs.length), combineItems (as[i]?.getD .null) (bs[i]?.getD .null) = .ok cs[i]) :
    combineLists as bs = .ok cs := by
  induction cs generalizing as bs with
  | nil =>
    have ha : as = [] := List.eq_nil_of_length_eq_zero (by simp at hlen; omega)
    have hb : bs = [] := List.eq_nil_of_length_eq_zero (by simp at hlen; omega)
    rw [ha, hb, combineLists]
  | cons c cs ih =>
    have hne : as ≠ [] ∨ bs ≠ [] := by
      by_contra hboth
      rw [not_or, not_not, not_not] at hboth
      simp [hboth] at hlen
    have hfirst := h 0 (Nat.succ_pos _)
    have hrest : combineLists as.tail bs.tail = .ok cs := by
      refine ih (by simp only [List.length_tail, List.length_cons] at hlen ⊢; omega) fun i hi => ?_
      simpa using h (i + 1) (Nat.succ_lt_succ hi)
    rw [combineLists_of_ne hne, hfirst, hrest]
    rfl

theorem itemsFrom_list (as vs : List Value) : itemsFrom (.list (as ++ vs)) as.length vs.length = .ok vs := by
  induction vs generalizing as with
  | nil => rfl
  | cons v vs ih =>
    have hitem : Value.item (.list (as ++ v :: vs)) as.length = .ok v := by simp [Value.item]
    have hrest := ih (as ++ [v])
    rw [List.append_assoc, List.singleton_append, List.length_append, List.length_singleton] at hrest
    rw [List.length_cons, itemsFrom, hitem, hrest]
    rfl

/-- Values that are arrays are measured and read without failing. -/
theorem combineLines_list (as bs : List Value) : combineLines (.list as) (.list bs) = combineLists as bs := by
  have ha : itemsFrom (.list as) 0 as.length = .ok as := itemsFrom_list [] as
  have hb : itemsFrom (.list bs) 0 bs.length = .ok bs := itemsFrom_list [] bs
  simp only [combineLines, Value.length, bind, Except.bind, ha, hb]

/-! ## Results -/

/-- The array of a path when another result has been added: the sum of both arrays, or the only one. -/
def IsSum (acc r : Option LineArray) (sum : Option LineArray) : Prop :=
  match acc, r with
  | some as, some bs => ∃ cs, combineLists as bs = .ok cs ∧ sum = some cs
  | some as, none => sum = some as
  | none, r => sum = r

theorem isSum_none_iff {acc sum : Option LineArray} : IsSum acc none sum ↔ sum = acc := by
  cases acc <;> exact Iff.rfl

theorem IsSum.exists_eq_some {acc sum : Option LineArray} {bs : LineArray} (h : IsSum acc (some bs) sum) :
    ∃ cs, sum = some cs := by
  cases acc with
  | none => exact ⟨bs, h⟩
  | some as =>
    obtain ⟨cs, -, hcs⟩ := h
    exact ⟨cs, hcs⟩

theorem addFile_eq_ok {acc : Result} {path : Text} {bs cs : LineArray}
    (h : IsSum (Table.get? path acc) (some bs) (some cs)) :
    addFile acc path (.list bs) = .ok (Table.insert path cs acc) := by
  rw [addFile]
  cases hacc : Table.get? path acc with
  | none =>
    rw [hacc] at h
    cases h
    rfl
  | some as =>
    rw [hacc] at h
    obtain ⟨cs', hsum, hcs⟩ := h
    cases hcs
    simp only [combineLines_list, hsum, Except.map]

/-- Adding a result adds up the arrays that both have, and keeps the others. -/
theorem addFiles_eq_ok {acc r : Result} (sum : Text → Option LineArray) (hacc : (Table.keys acc).Nodup)
    (hr : (Table.keys r).Nodup) (h : ∀ p, IsSum (Table.get? p acc) (Table.get? p r) (sum p)) :
    ∃ acc', addFiles acc (r.map fun p => (p.1, .list p.2)) = .ok acc' ∧ (Table.keys acc').Nodup ∧
      ∀ p, Table.get? p acc' = sum p := by
  induction r generalizing acc with
  | nil => exact ⟨acc, rfl, hacc, fun p => (isSum_none_iff.1 (h p)).symm⟩
  | cons row r ih =>
    obtain ⟨path, bs⟩ := row
    obtain ⟨hpath, hr⟩ := List.nodup_cons.1 hr
    have hnone : Table.get? path r = none := Table.get?_eq_none_iff.2 hpath
    have hfirst := h path
    rw [Table.get?, if_pos rfl] at hfirst
    obtain ⟨cs, hcs⟩ := hfirst.exists_eq_some
    -- the files that are left find the table as it was, but for the one that is done
    have hrest (p : Text) : IsSum (Table.get? p (Table.insert path cs acc)) (Table.get? p r) (sum p) := by
      rw [Table.get?_insert]
      by_cases hp : path = p
      · subst hp
        rw [if_pos rfl, hnone]
        exact hcs
      · have hother := h p
        rw [Table.get?, if_neg hp] at hother
        rwa [if_neg hp]
    obtain ⟨acc', hadd, hkeys, hget⟩ := ih (Table.nodup_insert path cs hacc) hr hrest
    rw [hcs] at hfirst
    exact ⟨acc', by rw [List.map_cons, addFiles, addFile_eq_ok hfirst]; exact hadd, hkeys, hget⟩

/-- The sum of two results has the sum of every path. -/
theorem combineResults_eq_ok {a b c : Result} (ha : (Table.keys a).Nodup) (hb : (Table.keys b).Nodup)
    (hc : (Table.keys c).Nodup) (h : ∀ p, IsSum (Table.get? p a) (Table.get? p b) (Table.get? p c)) :
    combineResults [a, b] = .ok (sortByPath c) := by
  have hnil : (Table.keys ([] : Result)).Nodup := List.nodup_nil
  obtain ⟨first, hfirst, hkeys, hget⟩ := addFiles_eq_ok (fun p => Table.get? p a) hnil ha fun p => rfl
  obtain ⟨both, hboth, hkeys', hget'⟩ := addFiles_eq_ok (fun p => Table.get? p c) hkeys hb
    fun p => by rw [hget]; exact h p
  rw [← sortByPath_congr hkeys' hc hget']
  simp only [combineResults, combineValues, List.map_cons, List.map_nil, List.foldlM_cons, List.foldlM_nil,
    hfirst, hboth, bind, Except.bind, pure, Except.pure, Except.map]

end Report

end ShellCoverage
