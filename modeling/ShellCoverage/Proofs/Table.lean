import Mathlib.Data.List.Nodup
import ShellCoverage.Table
import ShellCoverage.Text.CodePoint

/-!
# Tables by their keys

A table in which no key stands twice is given by the values of its keys, up to the order of its entries.

* `get?_eq_some_iff` : a key and its value are an entry;
* `get?_erase`, `get?_append`, `mem_keys_insert` : lookup without a key and in two tables, and keys after insertion;
* `perm_of_get?` : equal values of all keys mean equal entries;
* `mergeSort_eq_of_perm`, `Table.mergeSort_congr` : sorted by their keys, such tables are equal;
* `Text.le_trans`, `Text.le_total`, `Text.le_antisymm` : texts are in a linear order.
-/

namespace ShellCoverage

namespace Table

variable {κ α : Type} [DecidableEq κ] {k : κ} {v : α} {s t : Table κ α}

theorem get?_eq_none_iff : get? k t = none ↔ k ∉ keys t := by
  induction t with
  | nil => simp [get?, keys]
  | cons p t ih =>
    rw [get?, keys, List.map_cons, List.mem_cons, not_or, ← keys, ← ih]
    split
    · rename_i h
      simp [h]
    · rename_i h
      simp [Ne.symm h]

theorem has_iff : has k t = true ↔ k ∈ keys t := by
  rw [has, Option.isSome_iff_ne_none, ne_eq, get?_eq_none_iff, not_not]

theorem mem_of_get? (h : get? k t = some v) : (k, v) ∈ t := by
  induction t with
  | nil => cases h
  | cons p t ih =>
    obtain ⟨k', v'⟩ := p
    rw [get?] at h
    by_cases hk : k' = k
    · rw [if_pos hk] at h
      cases h
      rw [hk]
      exact List.mem_cons_self
    · rw [if_neg hk] at h
      exact List.mem_cons_of_mem _ (ih h)

/-- If no key stands twice, the entries are the keys with their values. -/
theorem get?_eq_some_iff (ht : (keys t).Nodup) : get? k t = some v ↔ (k, v) ∈ t := by
  refine ⟨mem_of_get?, fun h => ?_⟩
  induction t with
  | nil => cases h
  | cons p t ih =>
    rw [keys, List.map_cons, List.nodup_cons] at ht
    rw [get?]
    rcases List.mem_cons.1 h with rfl | h
    · rw [if_pos rfl]
    · rw [if_neg, ih ht.2 h]
      intro hk
      exact ht.1 (hk ▸ List.mem_map_of_mem h)

theorem get?_erase (k k' : κ) (t : Table κ α) : get? k' (erase k t) = if k = k' then none else get? k' t := by
  unfold erase
  induction t with
  | nil => simp [get?]
  | cons p t ih =>
    by_cases hp : p.1 = k
    · rw [List.filter_cons_of_neg (by simpa using hp), ih]
      by_cases hk : k = k'
      · rw [if_pos hk, if_pos hk]
      · rw [if_neg hk, if_neg hk, get?, if_neg (fun hp' => hk (hp.symm.trans hp'))]
    · rw [List.filter_cons_of_pos (by simpa using hp), get?, get?, ih]
      by_cases hk : p.1 = k'
      · rw [if_pos hk, if_pos hk, if_neg (fun hk' => hp (hk.trans hk'.symm))]
      · rw [if_neg hk, if_neg hk]

theorem get?_append (k : κ) (s t : Table κ α) : get? k (s ++ t) = (get? k s).or (get? k t) := by
  induction s with
  | nil => rfl
  | cons p s ih =>
    rw [List.cons_append, get?, get?, ih]
    split <;> rfl

omit [DecidableEq κ] in
theorem keys_append (s t : Table κ α) : keys (s ++ t) = keys s ++ keys t := List.map_append

theorem mem_keys_insert {k' : κ} : k' ∈ keys (insert k v t) ↔ k' ∈ keys t ∨ k = k' := by
  rw [keys_insert]
  split
  · rename_i hk
    exact ⟨Or.inl, fun h => h.elim id fun e => e ▸ hk⟩
  · rw [List.mem_append, List.mem_singleton, eq_comm (a := k')]

theorem nodup_insert (k : κ) (v : α) (ht : (keys t).Nodup) : (keys (insert k v t)).Nodup := by
  rw [keys_insert]
  split
  · exact ht
  · rename_i hk
    exact List.nodup_append.2 ⟨ht, List.nodup_singleton k, by simpa using fun a ha (h : a = k) => hk (h ▸ ha)⟩

theorem insert_of_notMem (h : k ∉ keys t) : insert k v t = t ++ [(k, v)] := by
  induction t with
  | nil => rfl
  | cons p t ih =>
    obtain ⟨k', v'⟩ := p
    rw [keys, List.map_cons, List.mem_cons, not_or] at h
    rw [insert, if_neg (Ne.symm h.1), ih h.2, List.cons_append]

theorem mem_of_mem_insert {p : κ × α} (h : p ∈ insert k v t) : p = (k, v) ∨ p ∈ t := by
  induction t with
  | nil => exact Or.inl (List.mem_singleton.1 h)
  | cons q t ih =>
    obtain ⟨k', v'⟩ := q
    rw [insert] at h
    split at h
    next hk =>
      subst hk
      exact (List.mem_cons.1 h).imp id (List.mem_cons_of_mem _)
    next =>
      rcases List.mem_cons.1 h with rfl | h
      · exact Or.inr List.mem_cons_self
      · exact (ih h).imp id (List.mem_cons_of_mem _)

/-- Pairs among which no key stands twice are a table as they are. -/
theorem ofList_of_nodup (ht : (keys t).Nodup) : ofList t = t := by
  have hfold (s ps : Table κ α) (h : (keys (s ++ ps)).Nodup) :
      ps.foldl (fun t p => insert p.1 p.2 t) s = s ++ ps := by
    induction ps generalizing s with
    | nil => rw [List.foldl_nil, List.append_nil]
    | cons p ps ih =>
      have hp : p.1 ∉ keys s := by
        rw [keys_append, List.nodup_append] at h
        intro hmem
        exact h.2.2 p.1 hmem p.1 (by simp [keys]) rfl
      have hnext : s ++ p :: ps = s ++ [p] ++ ps := by simp
      rw [List.foldl_cons, insert_of_notMem hp, hnext]
      rw [hnext] at h
      exact ih (s ++ [p]) h
  exact hfold [] t ht

theorem nodup_ofList (ps : List (κ × α)) : (keys (ofList ps)).Nodup := by
  have hfold (s : Table κ α) (h : (keys s).Nodup) : (keys (ps.foldl (fun t p => insert p.1 p.2 t) s)).Nodup := by
    induction ps generalizing s with
    | nil => exact h
    | cons p ps ih => exact ih _ (nodup_insert p.1 p.2 h)
  exact hfold [] List.nodup_nil

theorem mem_of_mem_ofList {ps : List (κ × α)} {p : κ × α} (h : p ∈ ofList ps) : p ∈ ps := by
  have hfold (s ps : List (κ × α)) (h : p ∈ ps.foldl (fun t p => insert p.1 p.2 t) s) : p ∈ s ∨ p ∈ ps := by
    induction ps generalizing s with
    | nil => exact Or.inl h
    | cons q ps ih =>
      rcases ih _ h with hs | hps
      · rcases mem_of_mem_insert hs with rfl | hs
        · exact Or.inr List.mem_cons_self
        · exact Or.inl hs
      · exact Or.inr (List.mem_cons_of_mem q hps)
  exact (hfold [] ps h).resolve_left List.not_mem_nil

/-- Tables with the same values have the same entries. -/
theorem perm_of_get? (hs : (keys s).Nodup) (ht : (keys t).Nodup) (h : ∀ k, get? k s = get? k t) :
    s.Perm t := by
  rw [List.perm_ext_iff_of_nodup (List.Nodup.of_map _ hs) (List.Nodup.of_map _ ht)]
  rintro ⟨k, v⟩
  rw [← get?_eq_some_iff hs, ← get?_eq_some_iff ht, h]

/-- The keys that have a value, with their values. -/
theorem get?_filterMap (f : κ → Option α) (ks : List κ) (k : κ) :
    get? k (ks.filterMap fun k => (f k).map (k, ·)) = if k ∈ ks then f k else none := by
  induction ks with
  | nil => rfl
  | cons x ks ih =>
    rw [List.filterMap_cons]
    cases hx : f x with
    | none =>
      simp only [Option.map_none, ih, List.mem_cons]
      by_cases hk : k = x
      · subst hk
        simp [hx]
      · simp [hk]
    | some v =>
      simp only [Option.map_some, get?, ih, List.mem_cons]
      by_cases hk : x = k
      · subst hk
        simp [hx]
      · simp [hk, Ne.symm hk]

omit [DecidableEq κ] in
theorem keys_filterMap_sublist (f : κ → Option α) (ks : List κ) :
    (keys (ks.filterMap fun k => (f k).map (k, ·))).Sublist ks := by
  induction ks with
  | nil => exact List.Sublist.refl []
  | cons x ks ih =>
    rw [List.filterMap_cons]
    cases f x with
    | none => exact ih.cons x
    | some v => exact ih.cons_cons x

end Table

/-! ## Sorting -/

/-- Items among which no two differ and are as large as each other have one sorted order. -/
theorem mergeSort_eq_of_perm {α : Type} {le : α → α → Bool} {xs ys : List α}
    (htrans : ∀ a b c, le a b = true → le b c = true → le a c = true)
    (htotal : ∀ a b, (le a b || le b a) = true)
    (hanti : ∀ a ∈ xs, ∀ b ∈ xs, le a b = true → le b a = true → a = b) (h : xs.Perm ys) :
    xs.mergeSort le = ys.mergeSort le := by
  have hperm : (xs.mergeSort le).Perm (ys.mergeSort le) :=
    (List.mergeSort_perm xs le).trans (h.trans (List.mergeSort_perm ys le).symm)
  refine List.Perm.eq_of_pairwise (fun a b ha hb hab hba => ?_) (List.pairwise_mergeSort htrans htotal xs)
    (List.pairwise_mergeSort htrans htotal ys) hperm
  have ha' : a ∈ xs := List.mem_mergeSort.1 ha
  have hb' : b ∈ xs := h.mem_iff.2 (List.mem_mergeSort.1 hb)
  exact hanti a ha' b hb' hab hba

namespace Text

theorem le_trans (a b c : Text) (h : le a b = true) (h' : le b c = true) : le a c = true :=
  decide_eq_true (List.le_trans (of_decide_eq_true h) (of_decide_eq_true h'))

theorem le_total (a b : Text) : (le a b || le b a) = true := by
  rw [le, le, Bool.or_eq_true, decide_eq_true_iff, decide_eq_true_iff]
  exact List.le_total a b

theorem le_antisymm {a b : Text} (h : le a b = true) (h' : le b a = true) : a = b :=
  List.le_antisymm (of_decide_eq_true h) (of_decide_eq_true h')

end Text

/-- Sorted by their keys, tables with the same values are equal. -/
theorem Table.mergeSort_congr {κ α : Type} [DecidableEq κ] {s t : Table κ α} (le : κ → κ → Bool)
    (htrans : ∀ a b c, le a b = true → le b c = true → le a c = true)
    (htotal : ∀ a b, (le a b || le b a) = true) (hanti : ∀ a b, le a b = true → le b a = true → a = b)
    (hs : (keys s).Nodup) (ht : (keys t).Nodup) (h : ∀ k, get? k s = get? k t) :
    s.mergeSort (fun a b => le a.1 b.1) = t.mergeSort fun a b => le a.1 b.1 := by
  refine mergeSort_eq_of_perm (fun a b c => htrans a.1 b.1 c.1) (fun a b => htotal a.1 b.1) ?_
    (perm_of_get? hs ht h)
  intro a ha b hb hab hba
  have hkey : a.1 = b.1 := hanti a.1 b.1 hab hba
  have hva := (get?_eq_some_iff hs).2 ha
  have hvb := (get?_eq_some_iff hs).2 hb
  rw [hkey, hvb] at hva
  exact Prod.ext hkey (Option.some.inj hva).symm

end ShellCoverage
