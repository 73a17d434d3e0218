import Mathlib.Data.List.Infix
import Mathlib.Data.List.Nodup
import Mathlib.Data.List.Perm.Subperm
import ShellCoverage.Text.CodePoint

/-!
# Occurrences of a text and the pieces between them

`occurrences d t` lists every place where `d` stands in `t`, overlapping ones included; `cutFirst?` finds
the leftmost one and `splitOn` the leftmost ones that do not overlap.

* `cutFirst?_eq_some_iff` : the cut is at the leftmost occurrence;
* `length_splitOn_append` : no choice of occurrences that do not overlap gives more pieces than `splitOn`;
* `splitOn_join` : texts whose delimiter occurs only between them are the pieces of their join;
* `length_splitOn_le` : there is at most one more piece than there are occurrences.
-/

namespace ShellCoverage.Text

variable {d t a b x y : Text}

/-! ## The leftmost occurrence -/

@[simp] theorem dropHead?_append (d t : Text) : dropHead? d (d ++ t) = some t := by
  induction d with
  | nil => cases t <;> rfl
  | cons c d ih => simpa [dropHead?] using ih

/-- No occurrence starts before the leftmost one. -/
theorem length_le_of_cutFirst? (h : cutFirst? d t = some (a, b)) (e : t = x ++ d ++ y) :
    a.length ≤ x.length := by
  induction t generalizing a x with
  | nil =>
    obtain ⟨r, -, hr⟩ := Option.map_eq_some_iff.1 h
    cases hr
    simp
  | cons c t ih =>
    rw [cutFirst?] at h
    cases hc : dropHead? d (c :: t) with
    | some r =>
      rw [hc] at h
      cases h
      simp
    | none =>
      rw [hc] at h
      obtain ⟨⟨a', b'⟩, hcut, hr⟩ := Option.map_eq_some_iff.1 h
      cases hr
      cases x with
      | nil =>
        rw [e, List.nil_append, dropHead?_append] at hc
        cases hc
      | cons z x =>
        have htail : t = x ++ d ++ y := by simpa using (List.cons.inj e).2
        simpa using ih hcut htail

theorem exists_cutFirst? (d x y : Text) : ∃ a b, cutFirst? d (x ++ d ++ y) = some (a, b) := by
  induction x with
  | nil =>
    cases hd : d ++ y with
    | nil => simp_all [cutFirst?, dropHead?]
    | cons c t =>
      refine ⟨[], y, ?_⟩
      rw [List.nil_append, hd, cutFirst?, ← hd, dropHead?_append]
  | cons c x ih =>
    obtain ⟨a, b, h⟩ := ih
    rw [List.cons_append, List.cons_append, cutFirst?]
    cases dropHead? d (c :: (x ++ d ++ y)) with
    | some r => exact ⟨[], r, rfl⟩
    | none => exact ⟨c :: a, b, by simp only [h, Option.map_some]⟩

/-- The cut is at the leftmost occurrence. -/
theorem cutFirst?_eq_some_iff :
    cutFirst? d t = some (a, b) ↔
      t = a ++ d ++ b ∧ ∀ x y, t = x ++ d ++ y → a.length ≤ x.length := by
  constructor
  · intro h
    exact ⟨cutFirst?_eq_some h, fun x y e => length_le_of_cutFirst? h e⟩
  · rintro ⟨rfl, hfirst⟩
    obtain ⟨a', b', h⟩ := exists_cutFirst? d a b
    have he := cutFirst?_eq_some h
    have hlen : a.length = a'.length :=
      Nat.le_antisymm (hfirst a' b' he) (length_le_of_cutFirst? h rfl)
    rw [List.append_assoc, List.append_assoc] at he
    obtain ⟨rfl, hb⟩ := List.append_inj he hlen
    rw [h, List.append_cancel_left hb]

theorem cutFirst?_eq_none_iff : cutFirst? d t = none ↔ ∀ x y, t ≠ x ++ d ++ y := by
  constructor
  · rintro h x y rfl
    obtain ⟨a, b, hc⟩ := exists_cutFirst? d x y
    rw [h] at hc
    cases hc
  · intro h
    cases hc : cutFirst? d t with
    | none => rfl
    | some p => exact absurd (cutFirst?_eq_some hc) (h p.1 p.2)

theorem contains_eq_false_iff : contains d t = false ↔ ∀ x y, t ≠ x ++ d ++ y := by
  rw [contains, Option.isSome_eq_false_iff, Option.isNone_iff_eq_none, cutFirst?_eq_none_iff]

/-- What follows the rightmost occurrence. -/
theorem afterLast?_eq_some (h : t = a ++ d ++ b) (hlast : ∀ x y, t = x ++ d ++ y → x.length ≤ a.length) :
    afterLast? d t = some b := by
  have hcut : cutFirst? d.reverse t.reverse = some (b.reverse, a.reverse) := by
    refine cutFirst?_eq_some_iff.2 ⟨by simp [h], fun x y hxy => ?_⟩
    have hrev : t = y.reverse ++ d ++ x.reverse := by
      have hrev := congrArg List.reverse hxy
      rwa [List.reverse_reverse, List.reverse_append, List.reverse_append, List.reverse_reverse,
        ← List.append_assoc] at hrev
    have hle := hlast _ _ hrev
    have hlen := congrArg List.length (h.symm.trans hrev)
    simp only [List.length_append, List.length_reverse] at hle hlen ⊢
    omega
  rw [afterLast?, hcut, Option.map_some, List.reverse_reverse]

/-- What follows an occurrence is an end of what follows the leftmost one. -/
theorem suffix_of_cutFirst? (h : cutFirst? d t = some (a, b)) (e : t = x ++ d ++ y) : y <:+ b := by
  have hle := length_le_of_cutFirst? h e
  have he := cutFirst?_eq_some h
  have hy : y <:+ t := ⟨x ++ d, e.symm⟩
  have hb : b <:+ t := ⟨a ++ d, he.symm⟩
  refine List.suffix_of_suffix_length_le hy hb ?_
  have h1 := congrArg List.length e
  have h2 := congrArg List.length he
  simp only [List.length_append] at h1 h2
  omega

/-- The leftmost occurrence in `x ++ d ++ y` is the one between `x` and `y`, one inside `x`, or one that
overlaps the one between them; in the last case an end of `d` stands before `y`. -/
theorem cutFirst?_append_cases (h : cutFirst? d (x ++ d ++ y) = some (a, b)) :
    (a = x ∧ b = y) ∨ (∃ z, x = a ++ d ++ z ∧ b = z ++ d ++ y) ∨
      ∃ w, w ≠ [] ∧ w <:+ d ∧ b = w ++ y := by
  have he := cutFirst?_eq_some h
  have hle := length_le_of_cutFirst? h rfl
  rw [List.append_assoc, List.append_assoc] at he
  rcases List.append_eq_append_iff.1 he with ⟨c, rfl, hc⟩ | ⟨c, rfl, hc⟩
  · -- the cut would start after `x`
    rw [List.length_append] at hle
    have hnil : c = [] := List.length_eq_zero_iff.1 (by omega)
    subst hnil
    rw [List.nil_append] at hc
    exact Or.inl ⟨List.append_nil x, (List.append_cancel_left hc).symm⟩
  · rcases List.append_eq_append_iff.1 hc with ⟨e, rfl, rfl⟩ | ⟨e, hd, hy⟩
    · exact Or.inr (Or.inl ⟨e, by rw [List.append_assoc], by rw [List.append_assoc]⟩)
    · by_cases hnil : c = []
      · subst hnil
        rw [List.nil_append] at hd
        subst hd
        exact Or.inl ⟨(List.append_nil a).symm, (List.append_cancel_left hy).symm⟩
      · obtain ⟨w, hw⟩ : e <+: d := by
          refine List.prefix_of_prefix_length_le ⟨b, hy.symm⟩ (List.prefix_append d y) ?_
          rw [hd, List.length_append]
          omega
        refine Or.inr (Or.inr ⟨w, ?_, ⟨e, hw⟩, ?_⟩)
        · rintro rfl
          rw [List.append_nil] at hw
          have hlen := congrArg List.length hd
          rw [hw, List.length_append] at hlen
          exact hnil (List.length_eq_zero_iff.1 (by omega))
        · rw [← hw, List.append_assoc] at hy
          exact (List.append_cancel_left hy).symm

/-- A text that shares nothing with `d` ends where `d` starts. -/
theorem cutFirst?_append_of_disjoint (hx : ∀ c ∈ x, c ∉ d) (hd : d ≠ []) :
    cutFirst? d (x ++ d ++ y) = some (x, y) := by
  refine cutFirst?_eq_some_iff.2 ⟨rfl, fun x' y' e => ?_⟩
  rw [List.append_assoc, List.append_assoc] at e
  rcases List.append_eq_append_iff.1 e with ⟨c, rfl, -⟩ | ⟨c, rfl, hc⟩
  · rw [List.length_append]
    omega
  · cases c with
    | nil => simp
    | cons z c =>
      obtain ⟨z', d', rfl⟩ := List.exists_cons_of_ne_nil hd
      have hz : z' = z := (List.cons.inj hc).1
      exact absurd (hz ▸ List.mem_cons_self) (hx z (by simp))

/-! ## Pieces -/

theorem splitOn_of_cutFirst? (hd : d ≠ []) (h : cutFirst? d t = some (a, b)) :
    splitOn d t = a :: splitOn d b := by
  rw [splitOn, dif_neg hd]
  split
  · rename_i hc
    rw [hc] at h
    cases h
  · rename_i a' b' hc
    rw [hc] at h
    cases h
    rfl

theorem splitOn_of_none (hd : d ≠ []) (h : cutFirst? d t = none) : splitOn d t = [t] := by
  rw [splitOn, dif_neg hd]
  split
  · rfl
  · rename_i a b hc
    rw [hc] at h
    cases h

theorem splitOn_ne_nil (d t : Text) : splitOn d t ≠ [] := by
  by_cases hd : d = []
  · rw [splitOn, dif_pos hd]
    exact List.cons_ne_nil _ _
  · cases h : cutFirst? d t with
    | none => simp [splitOn_of_none hd h]
    | some p => simp [splitOn_of_cutFirst? hd h]

theorem length_splitOn_pos (d t : Text) : 0 < (splitOn d t).length :=
  List.length_pos_iff.2 (splitOn_ne_nil d t)

/-- A text starts with its first piece. -/
theorem prefix_of_splitOn {p : Text} {ps : List Text} (h : splitOn d t = p :: ps) : p <+: t := by
  by_cases hd : d = []
  · rw [splitOn, dif_pos hd] at h
    cases h
    exact List.prefix_refl _
  · cases hc : cutFirst? d t with
    | none =>
      rw [splitOn_of_none hd hc] at h
      cases h
      exact List.prefix_refl _
    | some q =>
      rw [splitOn_of_cutFirst? hd hc] at h
      cases h
      exact ⟨d ++ q.2, by rw [← List.append_assoc]; exact (cutFirst?_eq_some hc).symm⟩

theorem length_lt_of_cutFirst? (hd : d ≠ []) (h : cutFirst? d t = some (a, b)) :
    b.length < t.length := by
  have hlen := congrArg List.length (cutFirst?_eq_some h)
  have hpos := List.length_pos_iff.2 hd
  simp only [List.length_append] at hlen
  omega

/-- An end of a text has no more pieces than the text. -/
theorem length_splitOn_le_of_suffix (hd : d ≠ []) (h : b <:+ t) :
    (splitOn d b).length ≤ (splitOn d t).length := by
  obtain ⟨n, hn⟩ : ∃ n, b.length = n := ⟨_, rfl⟩
  induction n using Nat.strong_induction_on generalizing b t with
  | _ n ih =>
    cases hb : cutFirst? d b with
    | none =>
      rw [splitOn_of_none hd hb]
      exact length_splitOn_pos d t
    | some p =>
      obtain ⟨c, rfl⟩ := h
      have he := cutFirst?_eq_some hb
      obtain ⟨a', r, ht⟩ := exists_cutFirst? d (c ++ p.1) p.2
      have ht' : cutFirst? d (c ++ b) = some (a', r) := by
        rw [he]
        simpa [List.append_assoc] using ht
      have hsuf : p.2 <:+ r := suffix_of_cutFirst? ht rfl
      have hlt : p.2.length < n := hn ▸ length_lt_of_cutFirst? hd hb
      rw [splitOn_of_cutFirst? hd hb, splitOn_of_cutFirst? hd ht', List.length_cons, List.length_cons]
      have := ih p.2.length hlt hsuf rfl
      omega

/-- Cutting at any one occurrence gives no more pieces than cutting from the left. -/
theorem length_splitOn_append (hd : d ≠ []) (a b : Text) :
    (splitOn d a).length + (splitOn d b).length ≤ (splitOn d (a ++ d ++ b)).length := by
  obtain ⟨n, hn⟩ : ∃ n, a.length = n := ⟨_, rfl⟩
  induction n using Nat.strong_induction_on generalizing a with
  | _ n ih =>
    cases ha : cutFirst? d a with
    | none =>
      obtain ⟨a', r, ht⟩ := exists_cutFirst? d a b
      have hle := length_splitOn_le_of_suffix hd (suffix_of_cutFirst? ht rfl)
      rw [splitOn_of_none hd ha, splitOn_of_cutFirst? hd ht, List.length_singleton, List.length_cons]
      omega
    | some p =>
      have he := cutFirst?_eq_some ha
      obtain ⟨a', r, ht⟩ := exists_cutFirst? d p.1 (p.2 ++ d ++ b)
      have hle := length_splitOn_le_of_suffix hd (suffix_of_cutFirst? ht rfl)
      have hlt : p.2.length < n := hn ▸ length_lt_of_cutFirst? hd ha
      have hrest := ih p.2.length hlt p.2 rfl
      have ht' : cutFirst? d (a ++ d ++ b) = some (a', r) := by
        rw [he]
        simpa [List.append_assoc] using ht
      rw [splitOn_of_cutFirst? hd ha, splitOn_of_cutFirst? hd ht', List.length_cons, List.length_cons]
      omega

theorem join_cons_cons (d p q : Text) (ps : List Text) :
    join d (p :: q :: ps) = p ++ d ++ join d (q :: ps) := by
  simp [join, List.intercalate, List.append_assoc]

theorem join_singleton (d p : Text) : join d [p] = p := by simp [join, List.intercalate]

theorem join_concat (d : Text) {ts : List Text} (hts : ts ≠ []) (t : Text) :
    join d (ts ++ [t]) = join d ts ++ d ++ t := by
  induction ts with
  | nil => exact absurd rfl hts
  | cons u us ih =>
    cases us with
    | nil => rw [List.singleton_append, join_cons_cons, join_singleton, join_singleton]
    | cons v vs =>
      rw [List.cons_append, List.cons_append, join_cons_cons, ← List.cons_append, ih (List.cons_ne_nil v vs),
        join_cons_cons]
      simp only [List.append_assoc]

/-- A join has at least as many pieces as texts were joined. -/
theorem length_le_splitOn_join (hd : d ≠ []) (ps : List Text) :
    ps.length ≤ (splitOn d (join d ps)).length := by
  induction ps with
  | nil => exact Nat.zero_le _
  | cons p ps ih =>
    cases ps with
    | nil => exact length_splitOn_pos d _
    | cons q ps =>
      have h := length_splitOn_append hd p (join d (q :: ps))
      have hp := length_splitOn_pos d p
      rw [join_cons_cons, List.length_cons]
      omega

/-! ## Cutting at one character -/

theorem splitAt_ne_nil (c : CodePoint) (t : Text) : splitAt c t ≠ [] := by
  cases t with
  | nil => exact List.cons_ne_nil _ _
  | cons x t =>
    rw [splitAt]
    split
    · exact List.cons_ne_nil _ _
    · split <;> exact List.cons_ne_nil _ _

theorem splitAt_of_notMem {c : CodePoint} (h : c ∉ t) : splitAt c t = [t] := by
  induction t with
  | nil => rfl
  | cons x t ih =>
    rw [List.mem_cons, not_or] at h
    rw [splitAt, if_neg (Ne.symm h.1), ih h.2]

theorem splitAt_append (c : CodePoint) (t u : Text) : splitAt c (t ++ c :: u) = splitAt c t ++ splitAt c u := by
  induction t with
  | nil => rw [List.nil_append, splitAt.eq_2, if_pos rfl, splitAt.eq_1, List.singleton_append]
  | cons x t ih =>
    rw [List.cons_append, splitAt, splitAt, ih]
    by_cases hx : x = c
    · rw [if_pos hx, if_pos hx, List.cons_append]
    · obtain ⟨p, ps, hp⟩ := List.exists_cons_of_ne_nil (splitAt_ne_nil c t)
      rw [if_neg hx, if_neg hx, hp, List.cons_append, List.cons_append]

theorem splitAt_append_cons {c : CodePoint} (h : c ∉ t) (u : Text) :
    splitAt c (t ++ c :: u) = t :: splitAt c u := by
  rw [splitAt_append, splitAt_of_notMem h, List.singleton_append]

/-- No piece has the character at which the text was cut. -/
theorem notMem_of_mem_splitAt {c : CodePoint} {t p : Text} (h : p ∈ splitAt c t) : c ∉ p := by
  induction t generalizing p with
  | nil =>
    rw [List.mem_singleton.1 h]
    exact List.not_mem_nil
  | cons x t ih =>
    rw [splitAt] at h
    split at h
    next hx =>
      rcases List.mem_cons.1 h with rfl | h
      · exact List.not_mem_nil
      · exact ih h
    next hx =>
      obtain ⟨q, qs, hq⟩ := List.exists_cons_of_ne_nil (splitAt_ne_nil c t)
      rw [hq] at h ih
      rcases List.mem_cons.1 h with rfl | h
      · rw [List.mem_cons, not_or]
        exact ⟨Ne.symm hx, ih List.mem_cons_self⟩
      · exact ih (List.mem_cons_of_mem q h)

/-- Texts without the character are the pieces of their join. -/
theorem splitAt_join {c : CodePoint} {ts : List Text} (hne : ts ≠ []) (h : ∀ t ∈ ts, c ∉ t) :
    splitAt c (join [c] ts) = ts := by
  induction ts with
  | nil => exact absurd rfl hne
  | cons t ts ih =>
    have ht := h t List.mem_cons_self
    cases ts with
    | nil => rw [join_singleton, splitAt_of_notMem ht]
    | cons u ts =>
      rw [join_cons_cons, List.append_assoc, List.singleton_append, splitAt_append_cons ht,
        ih (List.cons_ne_nil u ts) fun v hv => h v (List.mem_cons_of_mem t hv)]

/-! ## Places -/

/-- The places where `d` occurs in `t`, overlapping occurrences included. -/
def occurrences (d t : Text) : List Nat :=
  (List.range (t.length + 1)).filter fun i => d.isPrefixOf (t.drop i)

theorem mem_occurrences {i : Nat} : i ∈ occurrences d t ↔ ∃ a b, t = a ++ d ++ b ∧ a.length = i := by
  simp only [occurrences, List.mem_filter, List.mem_range, List.isPrefixOf_iff_prefix]
  constructor
  · rintro ⟨hi, b, hb⟩
    refine ⟨t.take i, b, ?_, by rw [List.length_take]; omega⟩
    rw [List.append_assoc, hb, List.take_append_drop]
  · rintro ⟨a, b, rfl, rfl⟩
    refine ⟨by simp only [List.length_append]; omega, ?_⟩
    rw [List.append_assoc, List.drop_left]
    exact List.prefix_append d b

theorem length_mem_occurrences (a d b : Text) : a.length ∈ occurrences d (a ++ d ++ b) :=
  mem_occurrences.2 ⟨a, b, rfl, rfl⟩

/-- An occurrence in a part of a text is one in the text. -/
theorem add_mem_occurrences {i : Nat} (a b : Text) (h : i ∈ occurrences d t) :
    a.length + i ∈ occurrences d (a ++ t ++ b) := by
  obtain ⟨x, y, rfl, rfl⟩ := mem_occurrences.1 h
  exact mem_occurrences.2 ⟨a ++ x, y ++ b, by simp [List.append_assoc], by simp⟩

theorem mem_occurrences_append_right {i : Nat} (b : Text) (h : i ∈ occurrences d t) :
    i ∈ occurrences d (t ++ b) := by
  simpa using add_mem_occurrences [] b h

theorem add_mem_occurrences_append_left {i : Nat} (a : Text) (h : i ∈ occurrences d t) :
    a.length + i ∈ occurrences d (a ++ t) := by
  simpa using add_mem_occurrences a [] h

/-- An occurrence fits into the text. -/
theorem add_length_le_of_mem_occurrences {i : Nat} (h : i ∈ occurrences d t) : i + d.length ≤ t.length := by
  obtain ⟨x, y, rfl, rfl⟩ := mem_occurrences.1 h
  simp only [List.length_append]
  omega

/-- A character after the text that is not in `d` adds no occurrence. -/
theorem mem_occurrences_of_concat {i : Nat} {c : CodePoint} (hd : d ≠ []) (hc : c ∉ d)
    (h : i ∈ occurrences d (t ++ [c])) : i ∈ occurrences d t := by
  obtain ⟨x, y, he, rfl⟩ := mem_occurrences.1 h
  rcases List.eq_nil_or_concat y with rfl | ⟨y, c', rfl⟩
  · obtain ⟨d', c', rfl⟩ := (List.eq_nil_or_concat d).resolve_left hd
    rw [List.append_nil, List.concat_eq_append, ← List.append_assoc] at he
    have hlast := (List.append_inj' he rfl).2
    cases hlast
    rw [List.concat_eq_append] at hc
    exact absurd (List.mem_append_right d' (List.mem_singleton_self c)) hc
  · rw [List.concat_eq_append, ← List.append_assoc] at he
    exact mem_occurrences.2 ⟨x, y, (List.append_inj' he rfl).1, rfl⟩

theorem splitOn_of_occurrences (hd : d ≠ []) (h : occurrences d t = []) : splitOn d t = [t] := by
  refine splitOn_of_none hd (cutFirst?_eq_none_iff.2 ?_)
  rintro x y rfl
  have hmem := length_mem_occurrences x d y
  rw [h] at hmem
  cases hmem

theorem nodup_occurrences (d t : Text) : (occurrences d t).Nodup := List.nodup_range.filter _

/-- There is at most one more piece than there are occurrences. -/
theorem length_splitOn_le (hd : d ≠ []) (t : Text) :
    (splitOn d t).length ≤ (occurrences d t).length + 1 := by
  obtain ⟨n, hn⟩ : ∃ n, t.length = n := ⟨_, rfl⟩
  induction n using Nat.strong_induction_on generalizing t with
  | _ n ih =>
    cases ht : cutFirst? d t with
    | none => simp [splitOn_of_none hd ht]
    | some p =>
      obtain ⟨a, b⟩ := p
      have he := cutFirst?_eq_some ht
      have hlt : b.length < n := hn ▸ length_lt_of_cutFirst? hd ht
      have hpos := List.length_pos_iff.2 hd
      -- the leftmost occurrence and, moved by its end, those in the rest
      let places := a.length :: (occurrences d b).map ((a ++ d).length + ·)
      have hsub : places ⊆ occurrences d t := by
        intro i hi
        rcases List.mem_cons.1 hi with rfl | hi
        · exact he ▸ length_mem_occurrences a d b
        · obtain ⟨j, hj, rfl⟩ := List.mem_map.1 hi
          simpa [he] using add_mem_occurrences (a ++ d) [] hj
      have hnodup : places.Nodup := by
        refine List.nodup_cons.2 ⟨?_, (nodup_occurrences d b).map fun i j h => Nat.add_left_cancel h⟩
        intro hmem
        obtain ⟨j, -, hj⟩ := List.mem_map.1 hmem
        rw [List.length_append] at hj
        omega
      have hle : places.length ≤ (occurrences d t).length := (hnodup.subperm hsub).length_le
      have hrest := ih b.length hlt b rfl
      rw [splitOn_of_cutFirst? hd ht, List.length_cons]
      simp only [places, List.length_cons, List.length_map] at hle
      omega

/-- The places of the delimiters between pieces, the first of which starts at `k`. -/
def boundaries (d : Text) (k : Nat) : List Text → List Nat
  | p :: q :: ps => (k + p.length) :: boundaries d (k + p.length + d.length) (q :: ps)
  | _ => []

theorem le_of_mem_boundaries {k i : Nat} {ps : List Text} (h : i ∈ boundaries d k ps) : k ≤ i := by
  fun_induction boundaries d k ps with
  | case1 k p q ps ih =>
    rcases List.mem_cons.1 h with rfl | h
    · omega
    · have := ih h
      omega
  | case2 => cases h

theorem splitOn_join_from (hd : d ≠ []) (k : Nat) (ps : List Text) (hne : ps ≠ [])
    (h : ∀ i ∈ occurrences d (join d ps), k + i ∈ boundaries d k ps) :
    splitOn d (join d ps) = ps := by
  induction ps generalizing k with
  | nil => exact absurd rfl hne
  | cons p ps ih =>
    cases ps with
    | nil =>
      rw [join_singleton] at h ⊢
      exact splitOn_of_occurrences hd (List.eq_nil_iff_forall_not_mem.2 fun i hi => by cases h i hi)
    | cons q ps =>
      have hpos := List.length_pos_iff.2 hd
      rw [join_cons_cons] at h ⊢
      have hcut : cutFirst? d (p ++ d ++ join d (q :: ps)) = some (p, join d (q :: ps)) := by
        refine cutFirst?_eq_some_iff.2 ⟨rfl, fun x y e => ?_⟩
        rcases List.mem_cons.1 (h _ (e ▸ length_mem_occurrences x d y)) with hx | hx
        · omega
        · have := le_of_mem_boundaries hx
          omega
      rw [splitOn_of_cutFirst? hd hcut, ih (k + p.length + d.length) (List.cons_ne_nil q ps)]
      intro i hi
      have hmem : (p ++ d).length + i ∈ occurrences d (p ++ d ++ join d (q :: ps)) := by
        simpa using add_mem_occurrences (p ++ d) [] hi
      rw [List.length_append] at hmem
      rcases List.mem_cons.1 (h _ hmem) with hx | hx
      · omega
      · rwa [show k + p.length + d.length + i = k + (p.length + d.length + i) by omega]

/-- Texts whose delimiter occurs only between them are the pieces of their join. -/
theorem splitOn_join (hd : d ≠ []) (ps : List Text) (hne : ps ≠ [])
    (h : ∀ i ∈ occurrences d (join d ps), i ∈ boundaries d 0 ps) : splitOn d (join d ps) = ps :=
  splitOn_join_from hd 0 ps hne fun i hi => by rw [Nat.zero_add]; exact h i hi

end ShellCoverage.Text
